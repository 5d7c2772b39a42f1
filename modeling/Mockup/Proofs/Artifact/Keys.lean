import Mathlib.Data.List.Nodup
import Mathlib.Data.List.Perm.Subperm
import Mockup.Artifact.Assemble

/-!
# The keys of components

* `numbered_inj`: a name with different numbers behind it gives different keys;
* `freshKey_notMem`: a fresh key is not taken, because there are more numbers to try than keys;
* `map_snd_keyed`, `nodup_keyed`: every component gets a key of its own, and none is lost;
* `lookup_keyed`: under a name without an underscore stands the first component of that name.
-/

namespace Mockup

theorem toList_numbered (name : String) (n : Nat) :
    (numbered name n).toList = name.toList ++ '_' :: Nat.toDigits 10 n := by
  simp only [numbered, String.toList_append, Nat.toString_eq_repr, Nat.toList_repr]
  show (name.toList ++ ['_']) ++ Nat.toDigits 10 n = _
  rw [List.append_assoc]
  rfl

theorem numbered_inj {name : String} {m n : Nat} (h : numbered name m = numbered name n) :
    m = n := by
  have hlist := congrArg String.toList h
  rw [toList_numbered, toList_numbered] at hlist
  have hdigits := (List.cons.inj (List.append_cancel_left hlist)).2
  simpa using congrArg (Nat.ofDigitChars 10 · 0) hdigits

/-- A number that is taken was the last to be tried: all before it are taken, too. -/
theorem freshNumber_mem {taken : List String} {name : String} {fuel n : Nat}
    (h : freshNumber taken name fuel n ∈ taken) : ∀ i ≤ fuel, numbered name (n + i) ∈ taken := by
  induction fuel generalizing n with
  | zero =>
    intro i hi
    obtain rfl := Nat.le_zero.1 hi
    exact h
  | succ fuel ih =>
    unfold freshNumber at h
    split at h
    · next hn =>
      intro i hi
      cases i with
      | zero => exact hn
      | succ i =>
        have hrest := ih h i (Nat.le_of_succ_le_succ hi)
        rwa [show n + 1 + i = n + (i + 1) by omega] at hrest
    · next hn => exact absurd h hn

/-- A fresh key is not taken. -/
theorem freshKey_notMem (taken : List String) (name : String) : freshKey taken name ∉ taken := by
  unfold freshKey
  split
  · intro hmem
    -- one number more would be taken than there are keys
    have hall := freshNumber_mem hmem
    have hnodup : ((List.range (taken.length + 1)).map fun i => numbered name (2 + i)).Nodup := by
      refine List.Nodup.map_on ?_ List.nodup_range
      intro i _ j _ heq
      have hij := numbered_inj heq
      omega
    have hsubset : ((List.range (taken.length + 1)).map fun i => numbered name (2 + i))
        ⊆ taken := by
      intro key hkey
      obtain ⟨i, hi, rfl⟩ := List.mem_map.1 hkey
      exact hall i (Nat.le_of_lt_succ (List.mem_range.1 hi))
    have hle := (hnodup.subperm hsubset).length_le
    rw [List.length_map, List.length_range] at hle
    exact Nat.not_succ_le_self _ hle
  · next hname => exact hname

/-- A fresh key is the name, or it has an underscore in it. -/
theorem freshKey_eq (taken : List String) (name : String) :
    name ∉ taken ∧ freshKey taken name = name ∨
      name ∈ taken ∧ '_' ∈ (freshKey taken name).toList := by
  have hnumber : ∀ fuel n, '_' ∈ (freshNumber taken name fuel n).toList := by
    intro fuel
    induction fuel with
    | zero => intro n; simp [freshNumber, toList_numbered]
    | succ fuel ih =>
      intro n
      unfold freshNumber
      split
      · exact ih (n + 1)
      · simp [toList_numbered]
  unfold freshKey
  split
  · next hname => exact .inr ⟨hname, hnumber _ _⟩
  · next hname => exact .inl ⟨hname, rfl⟩

theorem map_snd_keyed (taken : List String) (cs : List ComponentCode) :
    (keyed taken cs).map (·.2) = cs := by
  induction cs generalizing taken with
  | nil => rfl
  | cons c cs ih => rw [keyed, List.map_cons, ih]

/-- The keys differ from each other and from those that were taken. -/
theorem nodup_keyed (taken : List String) (cs : List ComponentCode) :
    ((keyed taken cs).map (·.1)).Nodup ∧ ∀ key ∈ (keyed taken cs).map (·.1), key ∉ taken := by
  induction cs generalizing taken with
  | nil => simp [keyed]
  | cons c cs ih =>
    obtain ⟨hnodup, hfree⟩ := ih (freshKey taken c.name :: taken)
    rw [keyed, List.map_cons]
    refine ⟨List.nodup_cons.2 ⟨fun hmem => ?_, hnodup⟩, ?_⟩
    · exact hfree _ hmem List.mem_cons_self
    · intro key hkey
      rcases List.mem_cons.1 hkey with rfl | hkey
      · exact freshKey_notMem taken c.name
      · exact fun hmem => hfree key hkey (List.mem_cons_of_mem _ hmem)

/-- Under a name without an underscore stands the first component of that name. -/
theorem lookup_keyed {name : String} (hplain : '_' ∉ name.toList) (cs : List ComponentCode)
    {taken : List String} (hfree : name ∉ taken) :
    (keyed taken cs).lookup name = cs.find? (·.name == name) := by
  induction cs generalizing taken with
  | nil => rfl
  | cons c cs ih =>
    rw [keyed, List.lookup_cons, List.find?_cons]
    rcases freshKey_eq taken c.name with ⟨-, hkey⟩ | ⟨htaken, hunder⟩
    · rw [hkey, show (name == c.name) = (c.name == name) from Bool.beq_comm]
      cases hc : c.name == name with
      | true => rfl
      | false =>
        have hne : name ≠ c.name := fun heq => by simp [heq] at hc
        exact ih (by simp [hne, hfree])
    · have hne : name ≠ freshKey taken c.name := fun heq => hplain (heq ▸ hunder)
      have hname : c.name ≠ name := fun heq => hfree (heq ▸ htaken)
      rw [beq_false_of_ne hne, beq_false_of_ne hname]
      exact ih (by simp [hne, hfree])

end Mockup
