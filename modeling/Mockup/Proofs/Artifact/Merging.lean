import Mockup.Artifact.Merge

/-!
# Merged results, result by result

* `Settlement.component?`, `Settlement.integration?`, `Settlement.missing?`: the additions of one
  result;
* `Merged.components_ofList`, `Merged.integration_ofList`, `Merged.failures_ofList`: the additions
  of a list of results;
* `productOf_failed`: a result without an output is a failure.
-/

namespace Mockup

namespace Settlement

/-- The component that a result adds. -/
def component? (r : Settlement) : Option ComponentCode :=
  match productOf r with
  | .ok (.component c) => some c
  | .ok (.integration _) | .error _ => none

/-- The routes that a result adds. -/
def integration? (r : Settlement) : Option Integration :=
  match productOf r with
  | .ok (.integration b) => some b
  | .ok (.component _) | .error _ => none

/-- The failure that a result adds. -/
def missing? (r : Settlement) : Option MissingOutput :=
  match productOf r with
  | .error error => some ⟨r.taskId, error⟩
  | .ok _ => none

end Settlement

theorem productOf_failed {r : Settlement} (h : r.success = false) :
    productOf r = .error (r.error.getD "unknown error") := by
  simp [productOf, h]

namespace Merged

/-- One more result adds what it holds. -/
theorem add_eq (m : Merged) (r : Settlement) :
    (m.add r).components = m.components ++ r.component?.toList ∧
      (m.add r).integration = m.integration.or r.integration? ∧
      (m.add r).failures = m.failures ++ r.missing?.toList := by
  unfold add Settlement.component? Settlement.integration? Settlement.missing?
  split
  · next h => simp [h]
  · next h => simp [h, Option.orElse_eq_or]
  · next h => simp [h]

theorem foldl_add_eq (results : List Settlement) (m : Merged) :
    (results.foldl add m).components = m.components ++ results.filterMap Settlement.component? ∧
      (results.foldl add m).integration
        = m.integration.or (results.findSome? Settlement.integration?) ∧
      (results.foldl add m).failures = m.failures ++ results.filterMap Settlement.missing? := by
  induction results generalizing m with
  | nil => simp
  | cons r rs ih =>
    obtain ⟨hcomponents, hintegration, hfailures⟩ := ih (m.add r)
    obtain ⟨hc, hi, hf⟩ := m.add_eq r
    refine ⟨?_, ?_, ?_⟩
    · rw [List.foldl_cons, hcomponents, hc, List.append_assoc, List.filterMap_cons]
      cases r.component? <;> rfl
    · rw [List.foldl_cons, hintegration, hi, Option.or_assoc, List.findSome?_cons]
      cases r.integration? <;> rfl
    · rw [List.foldl_cons, hfailures, hf, List.append_assoc, List.filterMap_cons]
      cases r.missing? <;> rfl

variable (results : List Settlement)

theorem components_ofList :
    (ofList results).components = results.filterMap Settlement.component? :=
  (foldl_add_eq results {}).1

theorem integration_ofList :
    (ofList results).integration = results.findSome? Settlement.integration? :=
  (foldl_add_eq results {}).2.1

theorem failures_ofList : (ofList results).failures = results.filterMap Settlement.missing? :=
  (foldl_add_eq results {}).2.2

end Merged

end Mockup
