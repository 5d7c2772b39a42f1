import Mockup.Proofs.Text.CaseMaps

/-!
# Texts that become plain words in small letters

A text becomes a word of the small letters a to z, or a row of such words, when its characters do so
one by one: the rule for the capital sigma, which looks at the neighbours, plays no part.

* `isSmall`, `isPlain`: the small letters a to z and the blank, and texts made of them;
  `lowerChar_small` says what becomes plain;
* `lower_eq_iff`: a text becomes a plain one character by character;
* `lower_intercalate_eq_iff`: a row of words becomes a plain one word by word.
-/

namespace Mockup.Text

/-! ### Characters -/

/-- The small letters from a to z, and the blanks. -/
def isSmall (c : Char) : Bool :=
  c.isLower || c == ' '

/-- The text is made of small letters from a to z and blanks. -/
def isPlain (cs : List Char) : Bool :=
  cs.all isSmall

theorem isPlain_iff {cs : List Char} : isPlain cs = true ↔ ∀ c ∈ cs, isSmall c = true :=
  List.all_eq_true

theorem toNat_of_isSmall {c : Char} (h : isSmall c = true) :
    0x61 ≤ c.toNat ∧ c.toNat ≤ 0x7A ∨ c.toNat = 0x20 := by
  rcases (Bool.or_eq_true _ _).mp h with h | h
  · have hbounds : (decide (0x61 ≤ c.val) && decide (c.val ≤ 0x7A)) = true := h
    exact .inl (by simpa [UInt32.le_iff_toNat_le] using hbounds)
  · exact .inr (congrArg Char.toNat (eq_of_beq h))

/-- The sign of the unit kelvin, whose small form is the letter k. -/
def kelvin : Char := '\u212A'

/-- No stretch beyond the first 128 characters leads back to them, but for that of the kelvin
sign. -/
theorem lowerShifts_clear : ∀ s ∈ lowerShifts,
    s.last < 0x80 ∨ s.first = 0x212A ∧ s.last = 0x212A ∨ 0x80 ≤ (s.first : Int) + s.offset := by
  decide +kernel

/-- Beyond the first 128 characters only the kelvin sign becomes one of them, but for the null. -/
theorem shifted_lowerShifts {c : Char} (hc : 0x80 ≤ c.toNat) :
    c = kelvin ∨ shifted lowerShifts c = Char.ofNat 0 ∨ 0x80 ≤ (shifted lowerShifts c).toNat := by
  rcases shifted_cases lowerShifts c with ⟨heq, -⟩ | ⟨s, hs, hholds, heq⟩
  · rw [heq]
    exact .inr (.inr hc)
  · obtain ⟨⟨hge, hle⟩, -⟩ := Shift.holds_iff.1 hholds
    rcases lowerShifts_clear s hs with hlast | ⟨hfirst, hlast⟩ | hfirst
    · omega
    · exact .inl (Char.toNat_inj.1 (show c.toNat = 0x212A by omega))
    · by_cases hnull : shifted lowerShifts c = Char.ofNat 0
      · exact .inr (.inl hnull)
      · have hnat := toNat_of_ofNat_eq hnull heq.symm
        exact .inr (.inr (by omega))

/-- A character that becomes a letter from a to z, or a blank, is one, or a capital letter, or the
kelvin sign. -/
theorem lowerChar_small {c : Char} (h : isPlain (lowerChar c) = true) :
    isSmall c = true ∨ c.isUpper = true ∨ c = kelvin := by
  rw [isPlain_iff] at h
  unfold lowerChar at h
  split at h
  · next hascii =>
    have hcases : (!isSmall c.toLower || isSmall c || c.isUpper) = true :=
      ascii_cases (p := fun c => !isSmall c.toLower || isSmall c || c.isUpper) (by decide) hascii
    have hsmall := h _ (List.mem_singleton.2 rfl)
    rw [hsmall, Bool.not_true, Bool.false_or] at hcases
    exact ((Bool.or_eq_true _ _).mp hcases).imp_right .inl
  split at h
  · exact absurd (h '\u0307' (by simp)) (by decide)
  · next hascii _ =>
    have hsmall := toNat_of_isSmall (h _ (List.mem_singleton.2 rfl))
    rcases shifted_lowerShifts (Nat.le_of_not_lt hascii) with hkelvin | hnull | hge
    · exact .inr (.inr hkelvin)
    · rw [hnull] at hsmall
      exact absurd hsmall (by decide)
    · omega

theorem lowerChar_of_isSmall {c : Char} (h : isSmall c = true) : lowerChar c = [c] := by
  have hsmall := toNat_of_isSmall h
  have hupper : c.isUpper = false := by
    rw [Bool.eq_false_iff]
    intro hupper
    have hbounds := toNat_of_isUpper hupper
    omega
  exact lowerChar_of_isSettled (isSettled_of_ascii (by omega) hupper)

theorem blank_notMem_lowerChar {c : Char} (hc : c ≠ ' ')
    (h : isSmall c = true ∨ c.isUpper = true ∨ c = kelvin) : ' ' ∉ lowerChar c := by
  rcases h with h | h | rfl
  · rw [lowerChar_of_isSmall h]
    exact fun hmem => hc (List.mem_singleton.1 hmem).symm
  · have hascii : c.toNat < 0x80 := by
      have := toNat_of_isUpper h
      omega
    have hcases : (c.toLower != ' ' || c == ' ') = true :=
      ascii_cases (p := fun c => c.toLower != ' ' || c == ' ') (by decide) hascii
    rw [beq_false_of_ne hc, Bool.or_false] at hcases
    rw [lowerChar, if_pos hascii, List.mem_singleton]
    exact fun heq => absurd heq.symm (bne_iff_ne.1 hcases)
  · decide +kernel

/-! ### Texts -/

section Texts

variable {n : String} {s : String}

theorem lowerAfter_eq_flatMap {before cs : List Char} (h : 'Σ' ∉ cs) :
    lowerAfter before cs = cs.flatMap lowerChar := by
  induction cs generalizing before with
  | nil => rfl
  | cons c cs ih =>
    obtain ⟨hc, hcs⟩ := not_or.1 (mt List.mem_cons.2 h)
    rw [lowerAfter, if_neg (Ne.symm hc), ih hcs, List.flatMap_cons]

/-- There is no capital sigma in a text that becomes a plain one: neither of its small forms is
plain. -/
theorem sigma_notMem_of_lowerAfter {before cs : List Char}
    (h : isPlain (lowerAfter before cs) = true) : 'Σ' ∉ cs := by
  induction cs generalizing before with
  | nil => exact List.not_mem_nil
  | cons c cs ih =>
    rw [lowerAfter, isPlain, List.all_append] at h
    obtain ⟨hc, hcs⟩ := (Bool.and_eq_true _ _).mp h
    refine mt List.mem_cons.1 (not_or.2 ⟨?_, ih hcs⟩)
    rintro rfl
    rw [if_pos rfl] at hc
    have hsmall := isPlain_iff.1 hc _ (List.mem_singleton.2 rfl)
    unfold lowerSigma at hsmall
    split at hsmall <;> exact absurd hsmall (by decide)

theorem sigma_notMem_of_flatMap {cs : List Char}
    (h : isPlain (cs.flatMap lowerChar) = true) : 'Σ' ∉ cs := by
  intro hmem
  have hsigma : 'σ' ∈ lowerChar 'Σ' := by decide +kernel
  exact absurd (isPlain_iff.1 h 'σ' (List.mem_flatMap.2 ⟨'Σ', hmem, hsigma⟩)) (by decide)

/-- A text becomes a plain one character by character. -/
theorem toList_lower_eq_iff {ds : List Char} (hds : isPlain ds = true) :
    (lower s).toList = ds ↔ s.toList.flatMap lowerChar = ds := by
  rw [lower, String.toList_ofList]
  constructor
  · rintro rfl
    exact (lowerAfter_eq_flatMap (sigma_notMem_of_lowerAfter hds)).symm
  · rintro rfl
    exact lowerAfter_eq_flatMap (sigma_notMem_of_flatMap hds)

theorem lower_eq_iff (hn : isPlain n.toList = true) :
    lower s = n ↔ s.toList.flatMap lowerChar = n.toList := by
  rw [← String.toList_inj, toList_lower_eq_iff hn]

/-- The characters of a text that becomes a plain one in small letters. -/
theorem lowerChar_small_of_lower_eq (hn : isPlain n.toList = true) (h : lower s = n)
    {c : Char} (hc : c ∈ s.toList) : isPlain (lowerChar c) = true :=
  isPlain_iff.2 fun d hd =>
    isPlain_iff.1 hn d ((lower_eq_iff hn).1 h ▸ List.mem_flatMap.2 ⟨c, hc, hd⟩)

/-- A plain text that a text without blanks becomes has no blanks either. -/
theorem blank_notMem_of_lower_eq (hn : isPlain n.toList = true) (h : lower s = n)
    (hs : ' ' ∉ s.toList) : ' ' ∉ n.toList := by
  rw [← (lower_eq_iff hn).1 h, List.mem_flatMap]
  rintro ⟨c, hc, hmem⟩
  have hne : c ≠ ' ' := by
    rintro rfl
    exact hs hc
  exact blank_notMem_lowerChar hne (lowerChar_small (lowerChar_small_of_lower_eq hn h hc)) hmem

end Texts

/-! ### Rows of words -/

theorem mem_intercalate {α : Type} {sep : List α} {xss : List (List α)} {xs : List α} {x : α}
    (hxs : xs ∈ xss) (hx : x ∈ xs) : x ∈ sep.intercalate xss := by
  induction xss with
  | nil => cases hxs
  | cons ys xss ih =>
    cases xss with
    | nil =>
      obtain rfl := List.mem_singleton.1 hxs
      rwa [List.intercalate_singleton]
    | cons zs xss =>
      rw [List.intercalate_cons_cons]
      rcases List.mem_cons.1 hxs with rfl | hxs
      · exact List.mem_append_left _ (List.mem_append_left _ hx)
      · exact List.mem_append_right _ (ih hxs)

theorem flatMap_intercalate {α β : Type} (f : α → List β) (sep : List α) (xss : List (List α)) :
    (sep.intercalate xss).flatMap f = (sep.flatMap f).intercalate (xss.map (·.flatMap f)) := by
  induction xss with
  | nil => rfl
  | cons xs xss ih =>
    cases xss with
    | nil => simp
    | cons ys xss =>
      rw [List.intercalate_cons_cons, List.flatMap_append, List.flatMap_append, ih, List.map_cons,
        List.map_cons, List.map_cons, List.intercalate_cons_cons]

/-- A row of words becomes a plain one word by word. -/
theorem lower_intercalate_eq_iff {n : String} (hn : isPlain n.toList = true)
    (xs : List String) : lower (" ".intercalate xs) = n ↔ " ".intercalate (xs.map lower) = n := by
  have hblank : " ".toList.flatMap lowerChar = [' '] := rfl
  rw [lower_eq_iff hn, String.toList_intercalate, flatMap_intercalate, hblank, ← String.toList_inj,
    String.toList_intercalate, List.map_map, List.map_map]
  show _ ↔ [' '].intercalate _ = _
  -- both sides make the words plain, and then they are the same row
  have hwords : ∀ {f : String → List Char},
      [' '].intercalate (xs.map f) = n.toList → ∀ x ∈ xs, isPlain (f x) = true :=
    fun h x hx => isPlain_iff.2 fun d hd =>
      isPlain_iff.1 hn d (h ▸ mem_intercalate (List.mem_map.2 ⟨x, hx, rfl⟩) hd)
  constructor
  · intro h
    rw [← h]
    refine congrArg _ (List.map_congr_left fun x hx => ?_)
    exact (toList_lower_eq_iff (hwords h x hx)).2 rfl
  · intro h
    rw [← h]
    refine congrArg _ (List.map_congr_left fun x hx => ?_)
    exact (toList_lower_eq_iff (hwords h x hx)).1 rfl

end Mockup.Text
