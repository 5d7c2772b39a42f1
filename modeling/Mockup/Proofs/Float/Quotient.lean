import Mockup.Proofs.Float.Rounding

/-!
# Quotients of machine integers as floats

The quotient of two 64-bit integers in `Float` is rounded three times: both integers, and then their
quotient.

* `value?`: the rational of a finite float;
* `toFloat_nearest`: a positive integer as a float;
* `div_nearest`: the quotient of two floats with mantissas of 53 bits;
* `exists_value_toFloat_div`: the quotient of two integers, with a relative error of
  `2 ^ (-51)` at most, and on the same side of every integer as the exact quotient if both integers
  are below `2 ^ 53`.
-/

namespace Mockup.Binary64

open Float.Model Float.Model.UnpackedFloat

/-- The rational of a finite float. -/
def value? (x : Float) : Option ℚ :=
  match x.toModel.unpack with
  | .zero _ => some 0
  | .finite s m e _ => some (s.apply m * (2 : ℚ) ^ e)
  | .infinity _ | .notANumber => none

theorem value?_of_isNormal {x : Float} {m : ℕ} {e : ℤ} (h : IsNormal x.toModel.unpack m e) :
    value? x = some ((m : ℚ) * 2 ^ e) := by
  obtain ⟨hpos, hx, -⟩ := h
  rw [value?, hx]
  simp [Sign.apply]

/-! ### Integers -/

/-- A positive machine integer as a float. -/
theorem toFloat_nearest {n : UInt64} (hpos : 0 < n.toNat) :
    ∃ (m : ℕ) (e : ℤ), IsNormal n.toFloat.toModel.unpack m e ∧ -52 ≤ e ∧ e ≤ 12 ∧
      Nearest n.toNat (m * 2 ^ e) := by
  have hlog : n.toNat.log2 < 64 := (Nat.log2_lt hpos.ne').2 n.toNat_lt
  have htarget : Format.binary64.targetExponent (totalExponent n.toNat 0)
      = (n.toNat.log2 : ℤ) - 52 := by
    simp only [Format.targetExponent, totalExponent, Format.mantissaBits, Format.minExponent]
    omega
  -- small integers are shifted to the left first, until they have 53 bits
  obtain ⟨k, hk⟩ : ∃ k, (0 - ((n.toNat.log2 : ℤ) - 52)).toNat = k := ⟨_, rfl⟩
  obtain ⟨hlower, hupper⟩ := (Nat.log2_eq_iff hpos.ne').1 rfl
  have hshift : (n.toNat <<< k).log2 = n.toNat.log2 + k := by
    rw [Nat.shiftLeft_eq]
    refine (Nat.log2_eq_iff (by positivity)).2 ⟨?_, ?_⟩
    · rw [pow_add]
      exact Nat.mul_le_mul_right _ hlower
    · rw [add_right_comm, pow_add]
      exact Nat.mul_lt_mul_of_pos_right hupper (by positivity)
  have hmantissa : 2 ^ 52 ≤ n.toNat <<< k := by
    refine (Nat.le_log2 ?_).1 (by omega)
    rw [Nat.shiftLeft_eq]
    positivity
  obtain ⟨m, e, hnormal, hle, hle', hnear⟩ :=
    roundWithAccuracy_nearest (e := 0 - (k : ℤ)) (a := .exact) (y := (n.toNat <<< k : ℕ)) hmantissa
      (by omega) rfl
  have hround : UnpackedFloat.ofUInt64 Format.binary64 n
      = roundWithAccuracy Format.binary64 .positive (n.toNat <<< k) (0 - (k : ℤ)) .exact := by
    have hcompare : compare (n.toNat : ℤ) 0 = .gt := Int.compare_eq_gt.2 (by omega)
    rw [UnpackedFloat.ofUInt64, UnpackedFloat.ofNat, UnpackedFloat.ofInt, UnpackedFloat.normalize,
      hcompare]
    dsimp only
    rw [Int.toNat_natCast, UnpackedFloat.round, htarget, decreaseExponent, hk]
  rw [← hround] at hnormal
  refine ⟨m, e, ?_, by omega, by omega, ?_⟩
  · change IsNormal (Float.Model.pack (UnpackedFloat.ofUInt64 Format.binary64 n)).unpack m e
    rwa [unpack_pack_of_isNormal hnormal (by omega) (by omega)]
  · convert hnear using 1
    rw [Nat.shiftLeft_eq, zero_sub, zpow_neg, zpow_natCast]
    push_cast
    rw [mul_assoc, mul_inv_cancel₀ (by positivity), mul_one]

/-! ### Quotients -/

/-- Mantissas of 53 bits are divided after a shift by 53. -/
theorem divCore_eq {m₁ m₂ : ℕ} {e₁ e₂ : ℤ} (hm₁ : m₁.log2 = 52) (hm₂ : m₂.log2 = 52)
    (he : -1000 ≤ e₁ - e₂) :
    divCore Format.binary64 m₁ e₁ m₂ e₂ =
      (m₁ * 2 ^ 53 / m₂, e₁ - e₂ - 53, accuracyOfFraction (m₁ * 2 ^ 53 % m₂) m₂) := by
  have htarget : Format.binary64.targetExponent (totalExponent m₁ e₁ - totalExponent m₂ e₂)
      = e₁ - e₂ - 53 := by
    simp only [Format.targetExponent, totalExponent, Format.mantissaBits, Format.minExponent, hm₁,
      hm₂]
    omega
  have hshift : (e₁ - e₂ - (e₁ - e₂ - 53)).toNat = 53 := by omega
  rw [divCore, htarget, min_eq_right (by omega), hshift, Nat.shiftLeft_eq]

/-- The quotient of two floats with mantissas of 53 bits is the nearest float. -/
theorem div_nearest {f g : UnpackedFloat} {m₁ m₂ : ℕ} {e₁ e₂ : ℤ} (h₁ : IsNormal f m₁ e₁)
    (h₂ : IsNormal g m₂ e₂) (he : -1000 ≤ e₁ - e₂) :
    ∃ (m : ℕ) (e : ℤ), IsNormal (UnpackedFloat.div Format.binary64 f g) m e ∧
      e₁ - e₂ - 53 ≤ e ∧ e ≤ e₁ - e₂ - 50 ∧
      Nearest ((m₁ * 2 ^ e₁) / (m₂ * 2 ^ e₂)) (m * 2 ^ e) := by
  obtain ⟨hpos₁, rfl, hm₁, hm₁'⟩ := h₁
  obtain ⟨hpos₂, rfl, hm₂, hm₂'⟩ := h₂
  have hlog₁ : m₁.log2 = 52 := (Nat.log2_eq_iff hpos₁.ne').2 ⟨hm₁, hm₁'⟩
  have hlog₂ : m₂.log2 = 52 := (Nat.log2_eq_iff hpos₂.ne').2 ⟨hm₂, hm₂'⟩
  have hquotient : 2 ^ 52 ≤ m₁ * 2 ^ 53 / m₂ := by
    rw [Nat.le_div_iff_mul_le hpos₂]
    omega
  have hquotient' : m₁ * 2 ^ 53 / m₂ < 2 ^ 54 := by
    rw [Nat.div_lt_iff_lt_mul hpos₂]
    omega
  have hlog : (m₁ * 2 ^ 53 / m₂).log2 < 54 := (Nat.log2_lt (by omega)).2 hquotient'
  obtain ⟨m, e, hnormal, hle, hle', hnear⟩ := roundWithAccuracy_nearest (e := e₁ - e₂ - 53)
    hquotient (by omega) (represents_div (m₁ * 2 ^ 53) hpos₂)
  refine ⟨m, e, ?_, by omega, by omega, ?_⟩
  · rw [UnpackedFloat.div, divCore_eq hlog₁ hlog₂ he]
    exact hnormal
  · convert hnear using 1
    rw [zpow_sub₀ two_ne_zero, zpow_sub₀ two_ne_zero]
    push_cast
    field_simp

theorem toModel_div (x y : Float) :
    (x / y).toModel
      = pack (UnpackedFloat.div Format.binary64 x.toModel.unpack y.toModel.unpack) :=
  rfl

theorem value?_zero_div {n : UInt64} {m : ℕ} {e : ℤ} (h : IsNormal n.toFloat.toModel.unpack m e) :
    value? ((0 : UInt64).toFloat / n.toFloat) = some 0 := by
  obtain ⟨hpos, hn, -⟩ := h
  have hzero : (0 : UInt64).toFloat.toModel.unpack = .zero .positive := rfl
  have hquotient : (Float.Model.pack (.zero (.positive / .positive))).unpack = .zero .positive :=
    rfl
  rw [value?, toModel_div, hzero, hn, UnpackedFloat.div, hquotient]

/-- The quotient of two positive machine integers is rounded three times. -/
theorem value?_toFloat_div {a b : UInt64} (ha : 0 < a.toNat) (hb : 0 < b.toNat) :
    ∃ x y v, Nearest a.toNat x ∧ Nearest b.toNat y ∧ Nearest (x / y) v ∧
      value? (a.toFloat / b.toFloat) = some v := by
  obtain ⟨m₁, e₁, hx, he₁, he₁', hnear₁⟩ := toFloat_nearest ha
  obtain ⟨m₂, e₂, hy, he₂, he₂', hnear₂⟩ := toFloat_nearest hb
  obtain ⟨m, e, hv, he, he', hnear⟩ := div_nearest hx hy (by omega)
  refine ⟨_, _, _, hnear₁, hnear₂, hnear, value?_of_isNormal ?_⟩
  rwa [toModel_div, unpack_pack_of_isNormal hv (by omega) (by omega)]

/-- Three roundings, to 53 bits each, change a quotient by less than `2 ^ (-51)` of it. -/
theorem abs_sub_div_le {a b x y v : ℚ} (ha : 0 < a) (hb : 0 < b) (hx : Nearest a x)
    (hy : Nearest b y) (hv : Nearest (x / y) v) : |v - a / b| ≤ a / b / 2 ^ 51 := by
  obtain ⟨hx₁, hx₂⟩ := abs_le.1 hx.abs_sub_le
  obtain ⟨hy₁, hy₂⟩ := abs_le.1 hy.abs_sub_le
  obtain ⟨hv₁, hv₂⟩ := abs_le.1 hv.abs_sub_le
  have hypos : 0 < y := by linarith
  have hquotient : x / y ≤ a / b * ((2 ^ 53 + 1) / (2 ^ 53 - 1)) := by
    rw [div_mul_div_comm, div_le_div_iff₀ hypos (by positivity)]
    nlinarith
  have hquotient' : a / b * ((2 ^ 53 - 1) / (2 ^ 53 + 1)) ≤ x / y := by
    rw [div_mul_div_comm, div_le_div_iff₀ (by positivity) hypos]
    nlinarith
  have hpos : 0 < a / b := by positivity
  rw [abs_le]
  constructor <;> linarith

/-- The quotient of two machine integers, the second one positive, is finite.  Its relative error is
`2 ^ (-51)` at most, and it is on the same side of every integer as the exact quotient if both
integers are floats. -/
theorem exists_value_toFloat_div (a : UInt64) {b : UInt64} (hb : 0 < b.toNat) :
    ∃ v, value? (a.toFloat / b.toFloat) = some v ∧
      |v - a.toNat / b.toNat| ≤ (a.toNat / b.toNat : ℚ) / 2 ^ 51 ∧
      (a.toNat < 2 ^ 53 → b.toNat < 2 ^ 53 → ∀ k : ℕ,
        ((k : ℚ) ≤ a.toNat / b.toNat → k ≤ v) ∧ ((a.toNat / b.toNat : ℚ) ≤ k → v ≤ k)) := by
  rcases a.toNat.eq_zero_or_pos with hzero | ha
  · obtain rfl : a = 0 := UInt64.toNat_inj.1 hzero
    obtain ⟨m, e, hnormal, -⟩ := toFloat_nearest hb
    exact ⟨0, value?_zero_div hnormal, by simp, by simp⟩
  obtain ⟨x, y, v, hx, hy, hv, hvalue⟩ := value?_toFloat_div ha hb
  refine ⟨v, hvalue, abs_sub_div_le (by exact_mod_cast ha) (by exact_mod_cast hb) hx hy hv,
    fun ha' hb' k => ?_⟩
  obtain rfl := hx.eq_natCast ha'
  obtain rfl := hy.eq_natCast hb'
  have hlt : (a.toNat / b.toNat : ℚ) < 2 ^ 53 := by
    rw [div_lt_iff₀ (by exact_mod_cast hb)]
    exact_mod_cast ha'.trans_le (Nat.le_mul_of_pos_right _ hb)
  exact ⟨hv.natCast_le hlt, hv.le_natCast hlt⟩

end Mockup.Binary64
