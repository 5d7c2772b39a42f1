import Mathlib.Tactic.SplitIfs
import Mockup.Text.Case

/-!
# The case maps

What small forms are, and which texts are equal up to case.

* `shifted_cases`: the image of a character under the stretches of a table;
* `isSettled_of_mem_lowerChar`, `lower_lower`: small forms stay as they are;
* `lower_eq_of_sameIgnoringCase`: small forms do not depend on the case of the letters A to Z;
* `ChangesLatinOnly`, `sameIgnoringCase_lower_iff`: the texts that are equal to their small forms up
  to the case of these letters.
-/

namespace Mockup.Text

/-! ### The capital letters A to Z -/

theorem toNat_of_isUpper {c : Char} (h : c.isUpper = true) : 0x41 ≤ c.toNat ∧ c.toNat ≤ 0x5A := by
  have hbounds : 0x41 ≤ c.val ∧ c.val ≤ 0x5A := of_decide_eq_true h
  simpa [UInt32.le_iff_toNat_le] using hbounds

theorem isUpper_of_toNat {c : Char} (hge : 0x41 ≤ c.toNat) (hle : c.toNat ≤ 0x5A) :
    c.isUpper = true :=
  decide_eq_true ⟨UInt32.le_iff_toNat_le.2 hge, UInt32.le_iff_toNat_le.2 hle⟩

theorem toLower_of_not_isUpper {c : Char} (h : c.isUpper = false) : c.toLower = c := by
  unfold Char.toLower
  rw [dif_neg]
  exact of_decide_eq_false h

/-- A map that does not depend on the case of the capital letters A to Z. -/
theorem apply_toLower {α : Type} {f : Char → α}
    (h : ∀ c : Char, c.isUpper = true → f c.toLower = f c) (c : Char) : f c.toLower = f c := by
  cases hupper : c.isUpper with
  | true => exact h c hupper
  | false => rw [toLower_of_not_isUpper hupper]

/-! ### Stretches -/

/-- A character by its number, unless the number may be none of a character. -/
theorem toNat_of_ofNat_eq {n : Nat} {c : Char} (hc : c ≠ Char.ofNat 0) (h : Char.ofNat n = c) :
    n = c.toNat := by
  by_cases hn : n.isValidChar
  · rw [Char.ofNat, dif_pos hn] at h
    exact congrArg Char.toNat h
  · rw [Char.ofNat, dif_neg hn] at h
    exact absurd h.symm hc

/-- A character stays, or one of the stretches holds it and moves it. -/
theorem shifted_cases (shifts : List Shift) (c : Char) :
    shifted shifts c = c ∧ (∀ s ∈ shifts, s.holds c.toNat = false) ∨
    ∃ s ∈ shifts, s.holds c.toNat = true ∧
      shifted shifts c = Char.ofNat (c.toNat + s.offset).toNat := by
  unfold shifted
  cases hfind : shifts.find? (·.holds c.toNat) with
  | none => exact .inl ⟨rfl, fun s hs => by simpa using List.find?_eq_none.1 hfind s hs⟩
  | some s =>
    have hholds := List.find?_some hfind
    exact .inr ⟨s, List.mem_of_find?_eq_some hfind, hholds, rfl⟩

/-- The first 128 characters, one after the other. -/
theorem ascii_cases {p : Char → Bool} (h : (List.range 0x80).all (p ∘ Char.ofNat) = true) {c : Char}
    (hc : c.toNat < 0x80) : p c = true := by
  have hall := List.all_eq_true.1 h c.toNat (List.mem_range.2 hc)
  rwa [Function.comp_apply, Char.ofNat_toNat] at hall

theorem Shift.holds_iff {s : Shift} {n : Nat} : s.holds n = true ↔
    (s.first ≤ n ∧ n ≤ s.last) ∧ (n - s.first) % s.stride = 0 := by
  rw [holds, Bool.and_eq_true, Bool.and_eq_true, decide_eq_true_eq, decide_eq_true_eq, beq_iff_eq]

/-- The code points of a stretch. -/
def Shift.codes (s : Shift) : List Nat :=
  List.range' s.first ((s.last - s.first) / s.stride + 1) s.stride

theorem Shift.mem_codes {s : Shift} {n : Nat} (h : s.holds n = true) : n ∈ s.codes := by
  obtain ⟨⟨hge, hle⟩, hstride⟩ := holds_iff.1 h
  have hsteps : (n - s.first) / s.stride ≤ (s.last - s.first) / s.stride :=
    Nat.div_le_div_right (by omega)
  refine List.mem_range'.2 ⟨(n - s.first) / s.stride, by omega, ?_⟩
  rw [Nat.mul_div_cancel' (Nat.dvd_of_mod_eq_zero hstride), Nat.add_sub_cancel' hge]

/-- The code points of the characters that are not their own small forms: the capital I with a dot,
whose small form takes two characters, and those that a stretch moves. -/
def movedCodes : List Nat :=
  0x130 :: lowerShifts.flatMap Shift.codes

/-- The code points that the stretches move characters to. -/
def landingCodes : List Nat :=
  lowerShifts.flatMap fun s => s.codes.map fun n : Nat => (n + s.offset).toNat

/-- A set of numbers, as the number that has their bits. -/
def bits (ns : List Nat) : Nat :=
  ns.foldr (fun n m => Nat.lor (Nat.shiftLeft 1 n) m) 0

theorem testBit_bits {ns : List Nat} {n : Nat} (h : n ∈ ns) : (bits ns).testBit n = true := by
  induction ns with
  | nil => cases h
  | cons m ms ih =>
    show (1 <<< m ||| bits ms).testBit n = true
    rw [Nat.testBit_or, Bool.or_eq_true]
    rcases List.mem_cons.1 h with rfl | h
    · exact .inl (by simp [Nat.testBit_shiftLeft])
    · exact .inr (ih h)

theorem notMem_of_land_bits {ms ns : List Nat} (h : Nat.land (bits ms) (bits ns) = 0) {n : Nat}
    (hms : n ∈ ms) : n ∉ ns := by
  intro hns
  have hboth : (bits ms &&& bits ns).testBit n = true := by
    rw [Nat.testBit_and, testBit_bits hms, testBit_bits hns, Bool.and_self]
  change (Nat.land (bits ms) (bits ns)).testBit n = true at hboth
  rw [h, Nat.zero_testBit] at hboth
  cases hboth

/-- No character is moved to one that is moved in its turn. -/
theorem notMem_movedCodes {n : Nat} : n ∈ landingCodes → n ∉ movedCodes :=
  -- compared as two numbers, not pair by pair: the table has more than a thousand characters
  notMem_of_land_bits (by decide +kernel)

/-! ### Small forms -/

/-- The character is its own small form: it is not the capital I with a dot, whose small form takes
two characters, and no stretch moves it. -/
def IsSettled (c : Char) : Prop := c ≠ 'İ' ∧ ∀ s ∈ lowerShifts, s.holds c.toNat = false

instance (c : Char) : Decidable (IsSettled c) :=
  inferInstanceAs (Decidable (_ ∧ _))

/-- Of the first 128 characters only the capital letters A to Z are moved. -/
theorem lowerShifts_ascii : ∀ s ∈ lowerShifts,
    s.first = 0x41 ∧ s.last = 0x5A ∨ 0x80 ≤ s.first := by
  decide +kernel

theorem isSettled_of_ascii {c : Char} (hascii : c.toNat < 0x80) (hupper : c.isUpper = false) :
    IsSettled c := by
  constructor
  · rintro rfl
    exact absurd hascii (by decide)
  intro s hs
  rw [Bool.eq_false_iff, Ne, Shift.holds_iff]
  rintro ⟨⟨hge, hle⟩, -⟩
  rcases lowerShifts_ascii s hs with ⟨hfirst, hlast⟩ | hfirst
  · rw [isUpper_of_toNat (hfirst ▸ hge) (hlast ▸ hle)] at hupper
    cases hupper
  · omega

theorem shifted_of_isSettled {c : Char} (h : IsSettled c) : shifted lowerShifts c = c := by
  rcases shifted_cases lowerShifts c with ⟨heq, -⟩ | ⟨s, hs, hholds, -⟩
  · exact heq
  · rw [h.2 s hs] at hholds
    cases hholds

theorem toLower_of_isSettled {c : Char} (h : IsSettled c) : c.toLower = c := by
  refine toLower_of_not_isUpper (Bool.eq_false_iff.2 fun hupper => ?_)
  have hcapitals := h.2 ⟨0x41, 0x5A, 1, 32⟩ List.mem_cons_self
  rw [Bool.eq_false_iff, Ne, Shift.holds_iff] at hcapitals
  exact hcapitals ⟨toNat_of_isUpper hupper, Nat.mod_one _⟩

theorem lowerChar_of_isSettled {c : Char} (h : IsSettled c) : lowerChar c = [c] := by
  rw [lowerChar, toLower_of_isSettled h, if_neg h.1, shifted_of_isSettled h, ite_self]

/-- A stretch is moved to where no stretch is. -/
theorem isSettled_shifted {c : Char} (hne : c ≠ 'İ') : IsSettled (shifted lowerShifts c) := by
  rcases shifted_cases lowerShifts c with ⟨heq, hnone⟩ | ⟨s, hs, hholds, heq⟩
  · rw [heq]
    exact ⟨hne, hnone⟩
  by_cases hnull : shifted lowerShifts c = Char.ofNat 0
  · rw [hnull]
    exact isSettled_of_ascii (by decide) (by decide)
  have hnat := toNat_of_ofNat_eq hnull heq.symm
  have hlanding : (shifted lowerShifts c).toNat ∈ landingCodes :=
    List.mem_flatMap.2 ⟨s, hs, List.mem_map.2 ⟨_, Shift.mem_codes hholds, hnat⟩⟩
  obtain ⟨hdotted, hmoved⟩ := not_or.1 (mt List.mem_cons.2 (notMem_movedCodes hlanding))
  refine ⟨fun heq => hdotted (congrArg Char.toNat heq), fun s' hs' => ?_⟩
  rw [Bool.eq_false_iff]
  exact fun hholds' => hmoved (List.mem_flatMap.2 ⟨s', hs', Shift.mem_codes hholds'⟩)

theorem isSettled_toLower {c : Char} (hascii : c.toNat < 0x80) : IsSettled c.toLower := by
  have hcases : (decide (c.toLower.toNat < 0x80) && !c.toLower.isUpper) = true :=
    ascii_cases (p := fun c => decide (c.toLower.toNat < 0x80) && !c.toLower.isUpper) (by decide)
      hascii
  rw [Bool.and_eq_true, decide_eq_true_eq, Bool.not_eq_true'] at hcases
  exact isSettled_of_ascii hcases.1 hcases.2

theorem isSettled_of_mem_lowerChar {c d : Char} (h : d ∈ lowerChar c) : IsSettled d := by
  unfold lowerChar at h
  split at h
  · next hascii =>
    obtain rfl := List.mem_singleton.1 h
    exact isSettled_toLower hascii
  split at h
  · have hpair : d = 'i' ∨ d = '\u0307' := by simpa using h
    rcases hpair with rfl | rfl
    · exact isSettled_of_ascii (by decide) (by decide)
    · decide +kernel
  · next hne =>
    obtain rfl := List.mem_singleton.1 h
    exact isSettled_shifted hne

theorem isSettled_lowerSigma (before after : List Char) : IsSettled (lowerSigma before after) := by
  unfold lowerSigma
  split <;> decide +kernel

theorem isSettled_of_mem_lowerAfter {before cs : List Char} :
    ∀ d ∈ lowerAfter before cs, IsSettled d := by
  induction cs generalizing before with
  | nil => intro d hd; cases hd
  | cons c cs ih =>
    rw [lowerAfter]
    refine List.forall_mem_append.2 ⟨?_, ih⟩
    intro d hd
    split at hd
    · obtain rfl := List.mem_singleton.1 hd
      exact isSettled_lowerSigma _ _
    · exact isSettled_of_mem_lowerChar hd

theorem lowerAfter_of_isSettled {before ds : List Char} (h : ∀ d ∈ ds, IsSettled d) :
    lowerAfter before ds = ds := by
  induction ds generalizing before with
  | nil => rfl
  | cons d ds ih =>
    obtain ⟨hd, hds⟩ := List.forall_mem_cons.1 h
    have hsigma : d ≠ 'Σ' := by
      rintro rfl
      exact absurd (lowerChar_of_isSettled hd) (by decide +kernel)
    rw [lowerAfter, if_neg hsigma, lowerChar_of_isSettled hd, ih hds, List.singleton_append]

/-- Small letters stay as they are. -/
theorem lower_lower (s : String) : lower (lower s) = lower s := by
  rw [lower, lower, String.toList_ofList, lowerAfter_of_isSettled isSettled_of_mem_lowerAfter]

/-! ### The case of the letters A to Z -/

/-- The code points of the letters A to Z and a to z. -/
def latinRanges : Ranges := [(0x41, 0x5A), (0x61, 0x7A)]

theorem covers_latinRanges {c : Char} (h : c.isUpper = true) :
    latinRanges.covers c = true ∧ latinRanges.covers c.toLower = true := by
  have hascii : c.toNat < 0x80 := by
    have := toNat_of_isUpper h
    omega
  have hcases : (!c.isUpper || latinRanges.covers c && latinRanges.covers c.toLower) = true :=
    ascii_cases (p := fun c => !c.isUpper || latinRanges.covers c && latinRanges.covers c.toLower)
      (by decide) hascii
  rwa [h, Bool.not_true, Bool.false_or, Bool.and_eq_true] at hcases

theorem isCased_of_covers {c : Char} (h : latinRanges.covers c = true) : isCased c = true := by
  obtain ⟨r, hr, hbounds⟩ := Ranges.covers_iff.1 h
  have hsubset : ∀ r ∈ latinRanges, r ∈ casedRanges := by decide +kernel
  exact Ranges.covers_iff.2 ⟨r, hsubset r hr, hbounds⟩

theorem not_isCaseIgnorable_of_covers {c : Char} (h : latinRanges.covers c = true) :
    isCaseIgnorable c = false :=
  Ranges.covers_eq_false (by decide +kernel) h

theorem isCased_toLower (c : Char) : isCased c.toLower = isCased c := by
  refine apply_toLower (fun c hc => ?_) c
  rw [isCased_of_covers (covers_latinRanges hc).1, isCased_of_covers (covers_latinRanges hc).2]

theorem isCaseIgnorable_toLower (c : Char) : isCaseIgnorable c.toLower = isCaseIgnorable c := by
  refine apply_toLower (fun c hc => ?_) c
  rw [not_isCaseIgnorable_of_covers (covers_latinRanges hc).1,
    not_isCaseIgnorable_of_covers (covers_latinRanges hc).2]

theorem lowerChar_of_isUpper {c : Char} (h : c.isUpper = true) : lowerChar c = [c.toLower] := by
  have hbounds := toNat_of_isUpper h
  rw [lowerChar, if_pos (by omega)]

theorem lowerChar_toLower (c : Char) : lowerChar c.toLower = lowerChar c := by
  refine apply_toLower (fun c hc => ?_) c
  have hbounds := toNat_of_isUpper hc
  rw [lowerChar_of_isSettled (isSettled_toLower (by omega)), lowerChar_of_isUpper hc]

theorem toLower_eq_sigma_iff (c : Char) : c.toLower = 'Σ' ↔ c = 'Σ' := by
  refine Iff.of_eq (apply_toLower (f := (· = 'Σ')) (fun c hc => propext (iff_of_false ?_ ?_)) c)
  · intro h
    have hcovers := (covers_latinRanges hc).2
    rw [h] at hcovers
    exact absurd hcovers (by decide)
  · rintro rfl
    exact absurd hc (by decide)

theorem meetsCased_map_toLower (cs : List Char) :
    meetsCased (cs.map Char.toLower) = meetsCased cs := by
  have hignorable : isCaseIgnorable ∘ Char.toLower = isCaseIgnorable :=
    funext isCaseIgnorable_toLower
  rw [meetsCased, List.dropWhile_map, hignorable, meetsCased]
  cases cs.dropWhile isCaseIgnorable with
  | nil => rfl
  | cons c cs => exact isCased_toLower c

/-- Small forms do not depend on the case of the letters A to Z, before or in the text. -/
theorem lowerAfter_map_toLower (before cs : List Char) :
    lowerAfter (before.map Char.toLower) (cs.map Char.toLower) = lowerAfter before cs := by
  induction cs generalizing before with
  | nil => rfl
  | cons c cs ih =>
    have hrest := ih (c :: before)
    rw [List.map_cons] at hrest
    rw [List.map_cons, lowerAfter, hrest, lowerChar_toLower, lowerSigma, meetsCased_map_toLower,
      meetsCased_map_toLower, ← lowerSigma, lowerAfter]
    simp only [toLower_eq_sigma_iff]

/-- Texts that are equal up to the case of the letters A to Z have the same small form. -/
theorem lower_eq_of_sameIgnoringCase {a b : String} (h : sameIgnoringCase a b = true) :
    lower a = lower b := by
  have hmap : a.toList.map Char.toLower = b.toList.map Char.toLower := eq_of_beq h
  rw [lower, lower, ← lowerAfter_map_toLower [] a.toList, hmap, lowerAfter_map_toLower]

/-- In small letters no character of the text is another one, but for the capital letters A to
Z. -/
def ChangesLatinOnly (s : String) : Prop :=
  ∀ c ∈ s.toList, c.isUpper = true ∨ lowerChar c = [c]

instance (s : String) : Decidable (ChangesLatinOnly s) :=
  List.decidableBAll (fun c : Char => c.isUpper = true ∨ lowerChar c = [c]) s.toList

/-- The small form of a character is the character up to the case of the letters A to Z just if it
is the character or the character is one of these capital letters. -/
theorem toLower_cons_eq_lowerChar_iff {c : Char} {cs ds : List Char} :
    c.toLower :: cs = lowerChar c ++ ds ↔ (c.isUpper = true ∨ lowerChar c = [c]) ∧ cs = ds := by
  unfold lowerChar
  split_ifs with hascii hdotted
  · have hcases : (c.isUpper || c.toLower == c) = true :=
      ascii_cases (p := fun c => c.isUpper || c.toLower == c) (by decide) hascii
    rw [Bool.or_eq_true, beq_iff_eq] at hcases
    simpa using fun _ => hcases
  · subst hdotted
    simp [show 'İ'.isUpper = false by decide]
  · have hupper : c.isUpper = false := by
      rw [Bool.eq_false_iff]
      intro h
      have hbounds := toNat_of_isUpper h
      omega
    rw [toLower_of_not_isUpper hupper, hupper]
    simp [eq_comm]

theorem map_toLower_eq_lowerAfter_iff {before cs : List Char} :
    cs.map Char.toLower = lowerAfter before cs ↔
      ∀ c ∈ cs, c.isUpper = true ∨ lowerChar c = [c] := by
  induction cs generalizing before with
  | nil => simp [lowerAfter]
  | cons c cs ih =>
    rw [List.map_cons, lowerAfter, List.forall_mem_cons]
    by_cases hsigma : c = 'Σ'
    · -- neither of its small forms is the capital sigma
      subst hsigma
      have hne : 'Σ'.toLower ≠ lowerSigma before cs := by
        unfold lowerSigma
        split <;> decide
      have hmoved : ¬ ('Σ'.isUpper = true ∨ lowerChar 'Σ' = ['Σ']) := by decide +kernel
      rw [if_pos rfl, List.singleton_append, List.cons.injEq]
      exact iff_of_false (fun h => hne h.1) (fun h => hmoved h.1)
    · rw [if_neg hsigma, toLower_cons_eq_lowerChar_iff, ih]

/-- A text is equal to its small form up to the case of the letters A to Z just if no other
character of it is changed. -/
theorem sameIgnoringCase_lower_iff {s : String} :
    sameIgnoringCase s (lower s) = true ↔ ChangesLatinOnly s := by
  have hsettled : (lower s).toList.map Char.toLower = (lower s).toList := by
    rw [lower, String.toList_ofList]
    exact (List.map_congr_left fun d hd =>
      toLower_of_isSettled (isSettled_of_mem_lowerAfter d hd)).trans (List.map_id _)
  rw [sameIgnoringCase, beq_iff_eq, hsettled, lower, String.toList_ofList,
    map_toLower_eq_lowerAfter_iff, ChangesLatinOnly]

end Mockup.Text
