import Mockup.Json.Record

/-!
# Members of objects, and inverse readers

* `lookup_insertMember`, `lookup_sortMembers`, `member?_object`: the value under a key of an
  object;
* `perm_sortMembers`: of members with different keys none is lost;
* `Reader.Inverts`: a reader that inverts a writer, with one lemma for each basic type and for
  lists;
* `Source.required_eq`, `Source.defaulted_eq`, `record_object`: reading a member, and a structure
  with all of its members.
-/

namespace Mockup.Json

/-! ### Looking members up -/

theorem lookup_cons_pair (k key : String) (value : Json) (ms : List (String × Json)) :
    ((key, value) :: ms).lookup k = if k = key then some value else ms.lookup k := by
  rw [List.lookup_cons]
  by_cases hk : k = key
  · simp [hk]
  · simp [beq_false_of_ne hk, hk]

theorem lookup_insertMember (key k : String) (value : Json) (ms : List (String × Json)) :
    (insertMember key value ms).lookup k = if k = key then some value else ms.lookup k := by
  induction ms with
  | nil => exact lookup_cons_pair k key value []
  | cons m ms ih =>
    obtain ⟨k', v⟩ := m
    unfold insertMember
    split
    · exact lookup_cons_pair k key value _
    split
    · next hkey =>
      subst hkey
      rw [lookup_cons_pair, lookup_cons_pair]
      split <;> rfl
    · next hkey =>
      rw [lookup_cons_pair, lookup_cons_pair, ih]
      by_cases hk : k = k'
      · -- the key that is looked up stands before the place of the new one
        subst hk
        simp [Ne.symm hkey]
      · simp [hk]

/-- Of the members under one key the last one is found. -/
theorem lookup_sortMembers (k : String) (ms : List (String × Json)) :
    (sortMembers ms).lookup k = ms.reverse.lookup k := by
  have hfold : ∀ sorted : List (String × Json),
      (ms.foldl (fun sorted m => insertMember m.1 m.2 sorted) sorted).lookup k
        = (ms.reverse.lookup k).or (sorted.lookup k) := by
    induction ms with
    | nil => intro sorted; rfl
    | cons m ms ih =>
      intro sorted
      obtain ⟨key, value⟩ := m
      rw [List.foldl_cons, ih, lookup_insertMember, List.reverse_cons, List.lookup_append,
        lookup_cons_pair, Option.or_assoc]
      split <;> rfl
  exact (hfold []).trans Option.or_none

theorem member?_object (k : String) (ms : List (String × Json)) :
    (object ms).member? k = ms.reverse.lookup k :=
  lookup_sortMembers k ms

/-! ### Keeping members -/

/-- A member under a new key is put among the others. -/
theorem perm_insertMember {key : String} (value : Json) {ms : List (String × Json)}
    (h : key ∉ ms.map (·.1)) : (insertMember key value ms).Perm ((key, value) :: ms) := by
  induction ms with
  | nil => exact List.Perm.refl _
  | cons m ms ih =>
    obtain ⟨k, v⟩ := m
    obtain ⟨hk, hms⟩ := not_or.1 (mt List.mem_cons.2 h)
    unfold insertMember
    split
    · exact List.Perm.refl _
    · exact ((ih hms).cons (k, v)).trans (List.Perm.swap _ _ _)

/-- Members with different keys are all kept. -/
theorem perm_sortMembers {ms : List (String × Json)} (h : (ms.map (·.1)).Nodup) :
    (sortMembers ms).Perm ms := by
  have hfold (sorted : List (String × Json)) (hall : (ms.map (·.1) ++ sorted.map (·.1)).Nodup) :
      (ms.foldl (fun sorted m => insertMember m.1 m.2 sorted) sorted).Perm (ms ++ sorted) := by
    induction ms generalizing sorted with
    | nil => exact List.Perm.refl _
    | cons m ms ih =>
      have hnew : m.1 ∉ sorted.map (·.1) := fun hmem =>
        (List.nodup_cons.1 hall).1 (List.mem_append_right _ hmem)
      have hperm := perm_insertMember m.2 hnew
      have hkeys : (ms.map (·.1) ++ (insertMember m.1 m.2 sorted).map (·.1)).Perm
          (m.1 :: (ms.map (·.1) ++ sorted.map (·.1))) :=
        ((hperm.map (·.1)).append_left _).trans List.perm_middle
      have hrest := hkeys.nodup_iff.2 hall
      rw [List.foldl_cons]
      exact (ih (List.nodup_append.1 hrest).1 _ hrest).trans
        ((hperm.append_left ms).trans List.perm_middle)
  simpa [sortMembers] using hfold [] (by simpa using h)

/-! ### Reading back -/

/-- The reader takes what was written back to what it was written from. -/
def Reader.Inverts {α : Type} (r : Reader α) (write : α → Json) : Prop :=
  ∀ a, r (write a) = .ok a

namespace Reader

theorem text_inverts : text.Inverts .text := fun _ => rfl

theorem optionalText_inverts : (optional text).Inverts (ofOption .text) := by
  intro o
  cases o <;> rfl

theorem list_inverts {α : Type} {r : Reader α} {write : α → Json} (h : r.Inverts write) :
    (list r).Inverts fun as => .list (as.map write) := by
  intro as
  show (as.map write).mapM r = .ok as
  induction as with
  | nil => rfl
  | cons a as ih =>
    rw [List.map_cons, List.mapM_cons, h a, ih]
    rfl

theorem texts_inverts : (list text).Inverts texts :=
  list_inverts text_inverts

/-- A value of an enumeration is read back when its name is listed as its own. -/
theorem variant_inverts {α : Type} {names : List (String × α)} {name : α → String}
    (h : ∀ a, names.lookup (name a) = some a) :
    (variant names).Inverts fun a => .text (name a) := by
  intro a
  show named names (name a) = .ok a
  rw [named, h a]

end Reader

/-! ### Reading structures -/

section Members

variable {α : Type} {r : Reader α} {write : α → Json} {ms : List (String × Json)} {key : String}
  {a : α}

/-- The members of an object, as a structure is read from them. -/
def Source.ofObject (ms : List (String × Json)) : Source := ⟨sortMembers ms, false⟩

theorem Source.field_eq (h : r.Inverts write) (absent : Reading α)
    (hkey : ms.reverse.lookup key = some (write a)) :
    (Source.ofObject ms).field key r absent = .good a := by
  simp only [Source.field, Source.ofObject, lookup_sortMembers, hkey, h a]

theorem Source.required_eq (h : r.Inverts write)
    (hkey : ms.reverse.lookup key = some (write a)) :
    (Source.ofObject ms).required key r = .good a :=
  Source.field_eq h _ hkey

theorem Source.defaulted_eq (h : r.Inverts write) (value : α)
    (hkey : ms.reverse.lookup key = some (write a)) :
    (Source.ofObject ms).defaulted key r value = .good a :=
  Source.field_eq h _ hkey

/-- A structure is read from an object when all its members are. -/
theorem record_object {name : String} {fields : List String} {read : Source → Reading α}
    (h : read (.ofObject ms) = .good a) : record name fields read (.object ms) = .ok a := by
  rw [Source.ofObject] at h
  simp only [object, record, h]

end Members

end Mockup.Json
