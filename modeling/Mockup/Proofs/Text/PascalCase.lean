import Mockup.Proofs.Text.SmallLetters
import Mockup.Text.Words

/-!
# There are no underscores in names made of words

* `underscore_notMem_upperChar`: the capital form of a character has an underscore in it only if the
  character is one;
* `isAlphanumeric_of_mem_words`: words are made of letters and numerals;
* `underscore_notMem_pascalCase`: words with capitals, in a row, have no underscore in them.
-/

namespace Mockup.Text

theorem toUpper_ne_underscore {c : Char} (h : c ≠ '_') : c.toUpper ≠ '_' := by
  unfold Char.toUpper
  split
  · next hsmall =>
    intro heq
    -- the underscore is not the distance between the cases away from any small letter
    have hval : c.val + 0xFFFFFFE0 = 0x5F := by simpa using congrArg Char.val heq
    have hle : c.val.toNat ≤ 0x7A := UInt32.le_iff_toNat_le.1 hsmall.2
    have hnat := congrArg UInt32.toNat hval
    rw [UInt32.toNat_add] at hnat
    simp only [UInt32.toNat_ofNat] at hnat
    omega
  · exact h

/-- No stretch of the table moves a character onto the underscore. -/
theorem upperShifts_clear : ∀ s ∈ upperShifts,
    0x5F < (s.first : Int) + s.offset ∨ (s.last : Int) + s.offset < 0x5F := by
  decide +kernel

theorem upperExpansions_clear : ∀ e ∈ upperExpansions, '_' ∉ e.2.map Char.ofNat := by
  decide +kernel

/-- The capital form of a character has an underscore in it only if the character is one. -/
theorem underscore_notMem_upperChar {c : Char} (h : c ≠ '_') : '_' ∉ upperChar c := by
  unfold upperChar
  split
  · intro hmem
    exact toUpper_ne_underscore h (List.mem_singleton.1 hmem).symm
  split
  · next codes hcodes =>
    obtain ⟨front, back, heq, -⟩ := List.lookup_eq_some_iff.1 hcodes
    exact upperExpansions_clear (c.toNat, codes) (heq ▸ by simp)
  · intro hmem
    have heq := (List.mem_singleton.1 hmem).symm
    rcases shifted_cases upperShifts c with ⟨hsame, -⟩ | ⟨s, hs, hholds, hmoved⟩
    · exact h (hsame ▸ heq)
    · have hclear := upperShifts_clear s hs
      have hnat := toNat_of_ofNat_eq (by decide) (hmoved ▸ heq)
      have hunderscore : '_'.toNat = 0x5F := rfl
      simp only [Shift.holds, Bool.and_eq_true, decide_eq_true_eq] at hholds
      omega

/-- Words are made of letters and numerals. -/
theorem isAlphanumeric_of_mem_words {cs : List Char} :
    ∀ w ∈ words cs, ∀ c ∈ w, isAlphanumeric c = true := by
  fun_induction words cs with
  | case1 => simp
  | case2 c hc => simpa using hc
  | case3 c hc d cs hd w ws hws ih =>
    rw [hws] at ih ⊢
    intro w' hw' e he
    rcases List.mem_cons.1 hw' with rfl | hw'
    · rcases List.mem_cons.1 he with rfl | he
      · exact hc
      · exact ih w List.mem_cons_self e he
    · exact ih w' (List.mem_cons_of_mem _ hw') e he
  | case4 c hc d cs hd hws ih =>
    rw [hws]
    simpa using hc
  | case5 c hc d cs hd ih =>
    intro w hw e he
    rcases List.mem_cons.1 hw with rfl | hw
    · obtain rfl := List.mem_singleton.1 he
      exact hc
    · exact ih w hw e he
  | case6 c cs hc ih => exact ih

/-- Words with capitals, in a row, have no underscore in them. -/
theorem underscore_notMem_pascalCase (s : String) : '_' ∉ (pascalCase s).toList := by
  have hunderscore : isAlphanumeric '_' = false := by decide +kernel
  simp only [pascalCase, String.toList_ofList, List.mem_flatMap, not_exists, not_and]
  intro w hw hmem
  have hword := isAlphanumeric_of_mem_words w hw
  cases w with
  | nil => cases hmem
  | cons c cs =>
    have hne : ∀ d ∈ c :: cs, d ≠ '_' := by
      rintro d hd rfl
      rw [hword _ hd] at hunderscore
      cases hunderscore
    rcases List.mem_append.1 hmem with hmem | hmem
    · exact underscore_notMem_upperChar (hne c List.mem_cons_self) hmem
    · exact hne '_' (List.mem_cons_of_mem _ hmem) rfl

end Mockup.Text
