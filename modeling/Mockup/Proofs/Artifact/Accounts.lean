import Mathlib.Data.List.Forall2
import Mockup.Proofs.Artifact.Merging

/-!
# Every result is accounted for

A result makes one entry in the account: an output of the wanted form, or a failure under the name
of its task.  The merged components, routes, failures and figures are those of the entries, in
order, for any mix of outputs, failures and malformed outputs, and results may be merged in parts.

* `Settlement.Yields`, `Settlement.Lacks`: a result has an output, or a cause for which there is
  none;
* `Settlement.Enters`: the entry of a result, with `Settlement.enters_iff`;
* `Merged.successful_ofList`: accepted outputs are counted;
* `Merged.Accounts`: every result makes one entry, and components, routes, failures and figures are
  those of the entries;
* `Merged.ofList_in_parts`: any list of results is accounted for, and may be merged in parts.
-/

namespace Mockup

/-- The component that an output is. -/
def Product.component? : Product → Option ComponentCode
  | .component c => some c
  | .integration _ => none

/-- The routes that an output is. -/
def Product.integration? : Product → Option Integration
  | .integration b => some b
  | .component _ => none

/-- Outputs are components and routes. -/
theorem Product.length_filterMap (outputs : List Product) :
    outputs.length
      = (outputs.filterMap component?).length + (outputs.filterMap integration?).length := by
  induction outputs with
  | nil => rfl
  | cons p outputs ih =>
    cases p <;> simp only [List.filterMap_cons, component?, integration?, List.length_cons, ih] <;>
      omega

namespace Settlement

/-- The task ended well and handed back an output of the form that its kind asks for. -/
inductive Yields (r : Settlement) : Product → Prop where
  | component {output : Json} {c : ComponentCode} (success : r.success = true)
      (kind : r.kind = .component) (output_eq : r.output = some output)
      (reads : ComponentCode.reader output = .ok c) : Yields r (.component c)
  | integration {output : Json} {b : Integration} (success : r.success = true)
      (kind : r.kind = .integration) (output_eq : r.output = some output)
      (reads : Integration.reader output = .ok b) : Yields r (.integration b)

/-- There is no output, for this cause. -/
inductive Lacks (r : Settlement) : String → Prop where
  | failed (success : r.success = false) : Lacks r (r.error.getD "unknown error")
  | absent (success : r.success = true) (output_eq : r.output = none) :
      Lacks r (badOutput "missing payload")
  | malformed {output : Json} {m : Json.Mismatch} (success : r.success = true)
      (output_eq : r.output = some output) (reads : readOutput r.kind output = .error m) :
      Lacks r (badOutput m.message)

/-- A result is entered as its output, or as a failure under the name of its task. -/
inductive Enters (r : Settlement) : Product ⊕ MissingOutput → Prop where
  | accepted {p : Product} (h : r.Yields p) : Enters r (.inl p)
  | missing {error : String} (h : r.Lacks error) : Enters r (.inr ⟨r.taskId, error⟩)

variable {r : Settlement}

theorem yields_iff {p : Product} : r.Yields p ↔ productOf r = .ok p := by
  constructor
  · intro h
    cases h with
    | component success kind output_eq reads =>
      simp [productOf, success, kind, output_eq, readOutput, reads, Except.map, Except.mapError]
    | integration success kind output_eq reads =>
      simp [productOf, success, kind, output_eq, readOutput, reads, Except.map, Except.mapError]
  · intro h
    unfold productOf at h
    split at h
    · cases h
    next hsuccess =>
    have hsuccess : r.success = true := by simpa using hsuccess
    split at h
    · cases h
    next output houtput =>
    cases hkind : r.kind with
    | component =>
      rw [hkind, readOutput] at h
      cases hread : ComponentCode.reader output with
      | error m => rw [hread] at h; cases h
      | ok c => rw [hread] at h; cases h; exact .component hsuccess hkind houtput hread
    | integration =>
      rw [hkind, readOutput] at h
      cases hread : Integration.reader output with
      | error m => rw [hread] at h; cases h
      | ok b => rw [hread] at h; cases h; exact .integration hsuccess hkind houtput hread

theorem lacks_iff {error : String} : r.Lacks error ↔ productOf r = .error error := by
  constructor
  · intro h
    cases h with
    | failed success => exact productOf_failed success
    | absent success output_eq => simp [productOf, success, output_eq]
    | malformed success output_eq reads =>
      simp [productOf, success, output_eq, reads, Except.mapError]
  · intro h
    unfold productOf at h
    split at h
    · next hsuccess =>
      cases h
      exact .failed (by simpa using hsuccess)
    next hsuccess =>
    have hsuccess : r.success = true := by simpa using hsuccess
    split at h
    · next houtput =>
      cases h
      exact .absent hsuccess houtput
    next output houtput =>
    cases hread : readOutput r.kind output with
    | error m => rw [hread] at h; cases h; exact .malformed hsuccess houtput hread
    | ok p => rw [hread] at h; cases h

/-- The entry of a result. -/
def entry (r : Settlement) : Product ⊕ MissingOutput :=
  match productOf r with
  | .ok p => .inl p
  | .error error => .inr ⟨r.taskId, error⟩

/-- A result makes exactly one entry. -/
theorem enters_iff {x : Product ⊕ MissingOutput} : r.Enters x ↔ r.entry = x := by
  constructor
  · intro h
    cases h with
    | accepted h => rw [entry, yields_iff.1 h]
    | missing h => rw [entry, lacks_iff.1 h]
  · rintro rfl
    unfold entry
    cases h : productOf r with
    | ok p => exact .accepted (yields_iff.2 h)
    | error error => exact .missing (lacks_iff.2 h)

theorem forall₂_enters_iff {results : List Settlement} {entries : List (Product ⊕ MissingOutput)} :
    List.Forall₂ Enters results entries ↔ results.map entry = entries := by
  constructor
  · intro h
    induction h with
    | nil => rfl
    | cons hr _ ih => rw [List.map_cons, enters_iff.1 hr, ih]
  · rintro rfl
    induction results with
    | nil => exact .nil
    | cons r results ih => exact .cons (enters_iff.2 rfl) ih

theorem component?_eq (r : Settlement) :
    r.component? = r.entry.getLeft?.bind Product.component? := by
  unfold component? entry
  cases productOf r with
  | ok p => cases p <;> rfl
  | error error => rfl

theorem integration?_eq (r : Settlement) :
    r.integration? = r.entry.getLeft?.bind Product.integration? := by
  unfold integration? entry
  cases productOf r with
  | ok p => cases p <;> rfl
  | error error => rfl

theorem missing?_eq (r : Settlement) : r.missing? = r.entry.getRight? := by
  unfold missing? entry
  cases productOf r <;> rfl

end Settlement

namespace Merged

/-- One more result is counted if its output is accepted. -/
theorem successful_add (m : Merged) (r : Settlement) :
    (m.add r).successful = m.successful + r.entry.getLeft?.toList.length := by
  unfold add successful Settlement.entry
  cases productOf r with
  | ok p => cases p <;> simp
  | error error => simp

theorem successful_ofList (results : List Settlement) :
    (ofList results).successful
      = ((results.map Settlement.entry).filterMap Sum.getLeft?).length := by
  have hfold (m : Merged) : (results.foldl add m).successful
      = m.successful + ((results.map Settlement.entry).filterMap Sum.getLeft?).length := by
    induction results generalizing m with
    | nil => simp
    | cons r rs ih =>
      rw [List.foldl_cons, ih, successful_add, List.map_cons, List.filterMap_cons]
      cases r.entry.getLeft? with
      | none => simp
      | some p => simp; omega
  exact (hfold {}).trans (Nat.zero_add _)

/-- The figures are those of the results, and components, routes and failures are those of the
entries that the results make, one each and in order. -/
structure Accounts (m : Merged) (results : List Settlement) : Prop where
  total_eq : m.total = results.length
  balance : results.length = m.successful + m.failed
  failures_eq : m.failures.length = m.failed
  entries : ∃! entries : List (Product ⊕ MissingOutput),
    List.Forall₂ Settlement.Enters results entries ∧
    m.components = (entries.filterMap Sum.getLeft?).filterMap Product.component? ∧
    m.integration = ((entries.filterMap Sum.getLeft?).filterMap Product.integration?).head? ∧
    m.failures = entries.filterMap Sum.getRight? ∧
    m.successful = m.components.length
      + ((entries.filterMap Sum.getLeft?).filterMap Product.integration?).length

theorem accounts_ofList (results : List Settlement) : (ofList results).Accounts results where
  total_eq := total_ofList results
  balance := (total_ofList results).symm
  failures_eq := rfl
  entries := by
    have hcomponents : (ofList results).components
        = ((results.map Settlement.entry).filterMap Sum.getLeft?).filterMap Product.component? := by
      rw [components_ofList, List.filterMap_filterMap, List.filterMap_map]
      exact List.filterMap_congr fun r _ => r.component?_eq
    have hintegration : (ofList results).integration
        = (((results.map Settlement.entry).filterMap Sum.getLeft?).filterMap
            Product.integration?).head? := by
      rw [integration_ofList, List.filterMap_filterMap, List.filterMap_map, List.head?_filterMap]
      exact congrArg (results.findSome? ·) (funext fun r => r.integration?_eq)
    have hfailures : (ofList results).failures
        = (results.map Settlement.entry).filterMap Sum.getRight? := by
      rw [failures_ofList, List.filterMap_map]
      exact List.filterMap_congr fun r _ => r.missing?_eq
    refine ⟨results.map Settlement.entry,
      ⟨Settlement.forall₂_enters_iff.2 rfl, hcomponents, hintegration, hfailures, ?_⟩, ?_⟩
    · rw [successful_ofList, hcomponents]
      exact Product.length_filterMap _
    · rintro entries ⟨h, -⟩
      exact (Settlement.forall₂_enters_iff.1 h).symm

/-- Results may be merged in parts: components and failures follow each other, the first routes
stay, and the figures add up.  However results are mixed, each of them makes one entry, and the
figures are in balance. -/
theorem ofList_in_parts :
    (∀ xs ys : List Settlement,
      (ofList (xs ++ ys)).components = (ofList xs).components ++ (ofList ys).components ∧
      (ofList (xs ++ ys)).failures = (ofList xs).failures ++ (ofList ys).failures ∧
      (ofList (xs ++ ys)).integration = (ofList xs).integration.or (ofList ys).integration ∧
      (ofList (xs ++ ys)).total = (ofList xs).total + (ofList ys).total ∧
      (ofList (xs ++ ys)).successful = (ofList xs).successful + (ofList ys).successful ∧
      (ofList (xs ++ ys)).failed = (ofList xs).failed + (ofList ys).failed) ∧
    ∀ xs : List Settlement, (ofList xs).Accounts xs := by
  refine ⟨fun xs ys => ?_, accounts_ofList⟩
  have hfailures : (ofList (xs ++ ys)).failures = (ofList xs).failures ++ (ofList ys).failures := by
    simp only [failures_ofList, List.filterMap_append]
  refine ⟨?_, hfailures, ?_, ?_, ?_, ?_⟩
  · simp only [components_ofList, List.filterMap_append]
  · simp only [integration_ofList, List.findSome?_append]
  · simp only [total_ofList, List.length_append]
  · simp only [successful_ofList, List.map_append, List.filterMap_append, List.length_append]
  · rw [failed, hfailures, List.length_append]
    rfl

end Merged

end Mockup
