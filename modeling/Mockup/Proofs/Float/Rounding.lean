import Mathlib

/-!
# Rounding in the model of `Float`

Positive rationals rounded to 53 bits, for exponents far from both ends of the binary64 range.

* `Represents`: the rational for which a mantissa and its two residual bits stand;
* `Nearest`: a rational rounded to 53 bits, with `Nearest.abs_sub_le` and the comparisons with
  integers `Nearest.natCast_le` and `Nearest.le_natCast`;
* `IsNormal`: a float with a 53-bit mantissa;
* `roundWithAccuracy_nearest`: rounding gives the nearest such float;
* `unpack_pack_of_isNormal`: packing it loses nothing.
-/

namespace Mockup.Binary64

open Float.Model Float.Model.UnpackedFloat

/-! ### Residual bits -/

/-- The rational for which a mantissa and its residual bits stand: the mantissa itself, a half more,
or a rational strictly between two of these. -/
def Represents (em : ExtendedMantissa) (x : ℚ) : Prop :=
  match em.roundBit, em.stickyBit with
  | false, false => x = em.mantissa
  | false, true => em.mantissa < x ∧ x < em.mantissa + 1 / 2
  | true, false => x = em.mantissa + 1 / 2
  | true, true => em.mantissa + 1 / 2 < x ∧ x < em.mantissa + 1

variable {em : ExtendedMantissa} {x : ℚ}

theorem Represents.bounds (h : Represents em x) : em.mantissa ≤ x ∧ x < em.mantissa + 1 := by
  obtain ⟨m, r, s⟩ := em
  cases r <;> cases s <;> simp only [Represents] at h <;> constructor <;> linarith

/-- Rounding to the nearest mantissa is off by a half at most. -/
theorem Represents.abs_roundedMantissa_sub_le (h : Represents em x) :
    |(em.roundedMantissa : ℚ) - x| ≤ 1 / 2 := by
  obtain ⟨m, r, s⟩ := em
  rw [abs_le]
  cases r <;> cases s <;>
    simp only [Represents, ExtendedMantissa.roundedMantissa, ExtendedMantissa.accuracy,
      Accuracy.roundToNearestEven] at h ⊢
  · constructor <;> linarith
  · constructor <;> linarith
  · -- a tie: the parity of the mantissa is added
    have hle : ((m % 2 : ℕ) : ℚ) ≤ 1 := by exact_mod_cast Nat.lt_succ_iff.1 (Nat.mod_lt m two_pos)
    have hnonneg : (0 : ℚ) ≤ ((m % 2 : ℕ) : ℚ) := Nat.cast_nonneg _
    push_cast at hle hnonneg ⊢
    constructor <;> linarith
  · push_cast
    constructor <;> linarith

/-- A shift to the right halves the rational. -/
theorem Represents.shiftRightOne (h : Represents em x) : Represents em.shiftRightOne (x / 2) := by
  obtain ⟨m, r, s⟩ := em
  have hm : ((m % 2 : ℕ) : ℚ) + 2 * ((m / 2 : ℕ) : ℚ) = m := by exact_mod_cast Nat.mod_add_div m 2
  rcases Nat.mod_two_eq_zero_or_one m with hpar | hpar <;> rw [hpar] at hm <;>
    cases r <;> cases s <;>
    simp only [Represents, ExtendedMantissa.shiftRightOne, hpar, bne_self_eq_false, Bool.or_false,
      Bool.or_true, Bool.or_self] at h ⊢ <;>
    push_cast at hm ⊢ <;> first | (constructor <;> linarith) | linarith

theorem Represents.shiftRight (h : Represents em x) (n : ℕ) :
    Represents (em >>> n) (x / 2 ^ n) := by
  change Represents (n.repeat ExtendedMantissa.shiftRightOne em) _
  induction n with
  | zero => simpa [Nat.repeat] using h
  | succ n ih =>
    rw [Nat.repeat, pow_succ, ← div_div]
    exact ih.shiftRightOne

/-- Quotient and remainder stand for the fraction. -/
theorem represents_div (a : ℕ) {b : ℕ} (hb : 0 < b) :
    Represents (.ofMantissaAndAccuracy (a / b) (accuracyOfFraction (a % b) b)) (a / b : ℚ) := by
  have hb' : (0 : ℚ) < b := by exact_mod_cast hb
  have hsplit : (a : ℚ) / b = (a / b : ℕ) + ((a % b : ℕ) : ℚ) / b := by
    rw [← sub_eq_iff_eq_add', eq_div_iff hb'.ne', sub_mul, div_mul_cancel₀ _ hb'.ne',
      sub_eq_iff_eq_add]
    exact_mod_cast (Nat.mod_add_div' a b).symm
  have hlt : ((a % b : ℕ) : ℚ) < b := by exact_mod_cast Nat.mod_lt a hb
  rw [hsplit]
  unfold accuracyOfFraction
  split
  · next hzero => simp [Represents, ExtendedMantissa.ofMantissaAndAccuracy, hzero]
  next hzero =>
  have hpos : (0 : ℚ) < (a % b : ℕ) := by exact_mod_cast Nat.pos_of_ne_zero hzero
  rcases hcompare : compare (2 * (a % b)) b with _ | _ | _
  · have h : (2 : ℚ) * (a % b : ℕ) < b := by exact_mod_cast Nat.compare_eq_lt.1 hcompare
    refine ⟨lt_add_of_pos_right _ (div_pos hpos hb'), add_lt_add_right ?_ _⟩
    rw [div_lt_iff₀ hb']
    linarith
  · have h : (2 : ℚ) * (a % b : ℕ) = b := by exact_mod_cast Nat.compare_eq_eq.1 hcompare
    refine congrArg _ ?_
    rw [div_eq_iff hb'.ne']
    linarith
  · have h : (b : ℚ) < 2 * (a % b : ℕ) := by exact_mod_cast Nat.compare_eq_gt.1 hcompare
    refine ⟨add_lt_add_right ?_ _, add_lt_add_right ((div_lt_one hb').2 hlt) _⟩
    rw [lt_div_iff₀ hb']
    linarith

/-! ### Rounding to 53 bits -/

/-- Rounding to 53 bits: `v` is a multiple of the power of two at which `q` has that many bits, and
off by a half of it at most. -/
def Nearest (q v : ℚ) : Prop :=
  ∃ (t : ℤ) (r : ℕ), v = r * 2 ^ t ∧ 2 ^ 52 * 2 ^ t ≤ q ∧ q < 2 ^ 53 * 2 ^ t ∧ |v - q| ≤ 2 ^ t / 2

namespace Nearest

variable {q v : ℚ}

theorem abs_sub_le (h : Nearest q v) : |v - q| ≤ q / 2 ^ 53 := by
  obtain ⟨t, r, -, hlower, -, herror⟩ := h
  refine herror.trans ?_
  rw [div_le_div_iff₀ two_pos (by positivity)]
  linarith

/-- Below `2 ^ 53` integers are multiples of the power of two that is counted. -/
theorem exists_natCast_eq (h : Nearest q v) (hq : q < 2 ^ 53) :
    ∃ (t : ℤ) (r : ℕ), v = r * 2 ^ t ∧ |v - q| ≤ 2 ^ t / 2 ∧
      ∀ k : ℕ, ∃ j : ℕ, (k : ℚ) = j * 2 ^ t := by
  obtain ⟨t, r, hv, hlower, -, herror⟩ := h
  have ht : t ≤ 0 := by
    by_contra hpos
    have htwo : (2 : ℚ) ^ (1 : ℤ) ≤ 2 ^ t := zpow_le_zpow_right₀ one_le_two (by omega)
    rw [zpow_one] at htwo
    linarith
  obtain ⟨n, hn⟩ := Int.eq_ofNat_of_zero_le (neg_nonneg.2 ht)
  obtain rfl : t = -n := neg_eq_iff_eq_neg.1 hn
  refine ⟨_, r, hv, herror, fun k => ⟨k * 2 ^ n, ?_⟩⟩
  rw [zpow_neg, zpow_natCast]
  push_cast
  rw [mul_assoc, mul_inv_cancel₀ (by positivity), mul_one]

theorem natCast_le (h : Nearest q v) (hq : q < 2 ^ 53) {k : ℕ} (hk : k ≤ q) : k ≤ v := by
  obtain ⟨t, r, rfl, herror, hmultiple⟩ := h.exists_natCast_eq hq
  obtain ⟨j, hj⟩ := hmultiple k
  have hunit : (0 : ℚ) < 2 ^ t := by positivity
  rw [hj] at hk ⊢
  have hlt : (j : ℚ) * 2 ^ t < (r + 1) * 2 ^ t := by linarith [(abs_le.1 herror).1]
  have hle : j ≤ r := Nat.lt_succ_iff.1 (by exact_mod_cast lt_of_mul_lt_mul_right hlt hunit.le)
  exact mul_le_mul_of_nonneg_right (by exact_mod_cast hle) hunit.le

theorem le_natCast (h : Nearest q v) (hq : q < 2 ^ 53) {k : ℕ} (hk : q ≤ k) : v ≤ k := by
  obtain ⟨t, r, rfl, herror, hmultiple⟩ := h.exists_natCast_eq hq
  obtain ⟨j, hj⟩ := hmultiple k
  have hunit : (0 : ℚ) < 2 ^ t := by positivity
  rw [hj] at hk ⊢
  have hlt : (r : ℚ) * 2 ^ t < (j + 1) * 2 ^ t := by linarith [(abs_le.1 herror).2]
  have hle : r ≤ j := Nat.lt_succ_iff.1 (by exact_mod_cast lt_of_mul_lt_mul_right hlt hunit.le)
  exact mul_le_mul_of_nonneg_right (by exact_mod_cast hle) hunit.le

/-- Integers below `2 ^ 53` are rounded to themselves. -/
theorem eq_natCast {n : ℕ} (h : Nearest n v) (hn : n < 2 ^ 53) : v = n :=
  have hq : (n : ℚ) < 2 ^ 53 := by exact_mod_cast hn
  le_antisymm (h.le_natCast hq le_rfl) (h.natCast_le hq le_rfl)

end Nearest

/-- A positive float with a mantissa of 53 bits. -/
def IsNormal (f : UnpackedFloat) (m : ℕ) (e : ℤ) : Prop :=
  ∃ h, f = .finite .positive m e h ∧ 2 ^ 52 ≤ m ∧ m < 2 ^ 53

theorem targetExponent_eq {m : ℕ} {e : ℤ} (hm : 52 ≤ m.log2) (he : -1074 ≤ e) :
    Format.binary64.targetExponent (totalExponent m e) = e + (m.log2 - 52 : ℕ) := by
  simp only [Format.targetExponent, totalExponent, Format.mantissaBits, Format.minExponent]
  omega

theorem shiftToTargetExponent_eq {m : ℕ} {e : ℤ} (hm : 52 ≤ m.log2) (he : -1074 ≤ e)
    (a : Accuracy) :
    shiftToTargetExponent Format.binary64 m e a =
      (ExtendedMantissa.ofMantissaAndAccuracy m a >>> (m.log2 - 52), e + (m.log2 - 52 : ℕ)) := by
  rw [shiftToTargetExponent, targetExponent_eq hm he, shiftToExponent, add_sub_cancel_left,
    Int.toNat_natCast]

/-- A mantissa of 53 bits stays as it is. -/
theorem shiftToTargetExponent_of_log2_eq {m : ℕ} {e : ℤ} (hm : m.log2 = 52) (he : -1074 ≤ e) :
    shiftToTargetExponent Format.binary64 m e .exact = (⟨m, false, false⟩, e) := by
  rw [shiftToTargetExponent_eq hm.ge he, hm, Nat.sub_self, Nat.cast_zero, add_zero]
  rfl

/-- A carry into a bit more is taken back by a shift. -/
theorem shiftToTargetExponent_carry {e : ℤ} (he : -1074 ≤ e) :
    shiftToTargetExponent Format.binary64 (2 ^ 53) e .exact = (⟨2 ^ 52, false, false⟩, e + 1) := by
  have hlog : (2 ^ 53 : ℕ).log2 = 53 := Nat.log2_two_pow
  rw [shiftToTargetExponent_eq (by omega) he, hlog]
  rfl

/-- Rounding keeps the number of bits, but for a carry. -/
theorem Represents.roundedMantissa_bounds (h : Represents em x) (hx : 2 ^ 52 ≤ x)
    (hx' : x < 2 ^ 53) : 2 ^ 52 ≤ em.roundedMantissa ∧ em.roundedMantissa ≤ 2 ^ 53 := by
  obtain ⟨hnear, hnear'⟩ := abs_le.1 h.abs_roundedMantissa_sub_le
  have hlower : (2 ^ 52 : ℚ) < em.roundedMantissa + 1 := by linarith
  have hupper : (em.roundedMantissa : ℚ) < 2 ^ 53 + 1 := by linarith
  exact ⟨Nat.lt_succ_iff.1 (by exact_mod_cast hlower),
    Nat.lt_succ_iff.1 (by exact_mod_cast hupper)⟩

theorem Represents.nearest (h : Represents em x) (hx : 2 ^ 52 ≤ x) (hx' : x < 2 ^ 53) (t : ℤ) :
    Nearest (x * 2 ^ t) (em.roundedMantissa * 2 ^ t) := by
  have hunit : (0 : ℚ) < 2 ^ t := by positivity
  refine ⟨t, em.roundedMantissa, rfl, mul_le_mul_of_nonneg_right hx hunit.le,
    mul_lt_mul_of_pos_right hx' hunit, ?_⟩
  rw [← sub_mul, abs_mul, abs_of_pos hunit]
  linarith [mul_le_mul_of_nonneg_right h.abs_roundedMantissa_sub_le hunit.le]

/-- A mantissa of `53 + k` bits has 53 bits before the point once it is divided by `2 ^ k`, and so
has what it stands for. -/
theorem div_two_pow_bounds {m k : ℕ} {y : ℚ} (hm : m ≠ 0) (hk : m.log2 = 52 + k) (hle : m ≤ y)
    (hlt : y < m + 1) : 2 ^ 52 ≤ y / 2 ^ k ∧ y / 2 ^ k < 2 ^ 53 := by
  obtain ⟨hlower, hupper⟩ := (Nat.log2_eq_iff hm).1 hk
  have hunit : (0 : ℚ) < 2 ^ k := by positivity
  rw [le_div_iff₀ hunit, div_lt_iff₀ hunit, ← pow_add, ← pow_add]
  have hupper' : m + 1 ≤ 2 ^ (53 + k) := by
    rw [show 53 + k = 52 + k + 1 by omega]
    exact hupper
  exact ⟨le_trans (by exact_mod_cast hlower) hle, lt_of_lt_of_le hlt (by exact_mod_cast hupper')⟩

/-- A mantissa with residual bits is rounded to the nearest float. -/
theorem roundWithAccuracy_nearest {m : ℕ} {e : ℤ} {a : Accuracy} {y : ℚ} (hm : 2 ^ 52 ≤ m)
    (he : -1074 ≤ e) (hy : Represents (.ofMantissaAndAccuracy m a) y) :
    ∃ (m' : ℕ) (e' : ℤ), IsNormal (roundWithAccuracy Format.binary64 .positive m e a) m' e' ∧
      e ≤ e' ∧ e' ≤ e + m.log2 - 51 ∧ Nearest (y * 2 ^ e) (m' * 2 ^ e') := by
  have hlog : 52 ≤ m.log2 := (Nat.le_log2 (by omega)).2 hm
  obtain ⟨k, hk⟩ : ∃ k, m.log2 = 52 + k := Nat.exists_eq_add_of_le hlog
  have hmantissa : (ExtendedMantissa.ofMantissaAndAccuracy m a).mantissa = m := by
    rcases a with _ | _ | _ | _ <;> rfl
  obtain ⟨hym, hym'⟩ := hy.bounds
  rw [hmantissa] at hym hym'
  obtain ⟨hlower, hupper⟩ := div_two_pow_bounds (by omega) hk hym hym'
  -- the shifted mantissa stands for a rational with 53 bits before the point
  set em := ExtendedMantissa.ofMantissaAndAccuracy m a >>> k with hem
  have hrep : Represents em (y / 2 ^ k) := hy.shiftRight k
  obtain ⟨hr, hr'⟩ := hrep.roundedMantissa_bounds hlower hupper
  have hnearest : Nearest (y * 2 ^ e) (em.roundedMantissa * 2 ^ (e + k)) := by
    convert hrep.nearest hlower hupper (e + k) using 1
    rw [zpow_add₀ two_ne_zero, zpow_natCast]
    field_simp
  have hfirst : shiftToTargetExponent Format.binary64 m e a = (em, e + k) := by
    rw [shiftToTargetExponent_eq hlog he, hk, Nat.add_sub_cancel_left]
  unfold roundWithAccuracy
  rw [hfirst]
  dsimp only
  rcases hr'.lt_or_eq with hlt | heq
  · have hlog' : em.roundedMantissa.log2 = 52 := (Nat.log2_eq_iff (by omega)).2 ⟨hr, hlt⟩
    rw [shiftToTargetExponent_of_log2_eq hlog' (by omega)]
    refine ⟨em.roundedMantissa, e + k, ⟨by omega, ?_, hr, hlt⟩, by omega, by omega, hnearest⟩
    exact dif_neg (show em.roundedMantissa ≠ 0 by omega)
  · rw [heq, shiftToTargetExponent_carry (by omega)]
    refine ⟨2 ^ 52, e + k + 1, ⟨by omega, rfl, le_rfl, by omega⟩, by omega, by omega, ?_⟩
    rw [heq] at hnearest
    convert hnearest using 1
    rw [zpow_add_one₀ two_ne_zero]
    push_cast
    ring

/-! ### Packing -/

/-- Packing a float with a mantissa of 53 bits loses nothing if its exponent is in range. -/
theorem unpack_pack_of_isNormal {f : UnpackedFloat} {m : ℕ} {e : ℤ} (h : IsNormal f m e)
    (he : -1074 ≤ e) (he' : e ≤ 971) : (Float.Model.pack f).unpack = f := by
  obtain ⟨hpos, rfl, hm, hm'⟩ := h
  have hlog : m.log2 = 52 := (Nat.log2_eq_iff hpos.ne').2 ⟨hm, hm'⟩
  obtain ⟨b, hb⟩ := Int.eq_ofNat_of_zero_le (show 0 ≤ e + 1075 by omega)
  obtain rfl : e = b - 1075 := by omega
  have hexponent : (BitVec.ofNat 11 b).toNat = b := by
    rw [BitVec.toNat_ofNat, Nat.mod_eq_of_lt (by omega)]
  have hne_zero : BitVec.ofNat 11 b ≠ 0#11 := fun h => by
    have := congrArg BitVec.toNat h
    rw [hexponent, BitVec.toNat_zero] at this
    omega
  have hne_ones : BitVec.ofNat 11 b ≠ -1#11 := fun h => by
    have := congrArg BitVec.toNat h
    rw [hexponent] at this
    change b = 2047 at this
    omega
  -- the leading bit is put back
  have hmantissa : (1#1 ++ BitVec.ofNat 52 m).toNat = m := by
    rw [BitVec.toNat_append, ← Nat.shiftLeft_add_eq_or_of_lt (BitVec.isLt _), BitVec.toNat_ofNat,
      Nat.shiftLeft_eq]
    simp only [BitVec.toNat_ofNat]
    omega
  have hpack : UnpackedFloat.pack Format.binary64 (.finite .positive m (b - 1075) hpos)
      = packComponents Format.binary64 .positive (BitVec.ofNat 11 b) (BitVec.ofNat 52 m) := by
    have hbiased : ((b : ℤ) - 1075 + Format.binary64.exponentBias
        + Format.binary64.mantissaBitsWithoutImplicit).toNat = b := by
      simp only [Format.exponentBias]
      omega
    unfold UnpackedFloat.pack
    dsimp only
    rw [hbiased, if_neg (by omega), if_pos (by rw [hlog]; rfl)]
  have hunpack : (Float.Model.pack (.finite .positive m (b - 1075) hpos)).unpack
      = UnpackedFloat.unpack Format.binary64
        (packComponents Format.binary64 .positive (BitVec.ofNat 11 b) (BitVec.ofNat 52 m)) := by
    rw [← hpack]
    rfl
  rw [hunpack]
  unfold UnpackedFloat.unpack
  simp only [unpackMantissa_packComponents, unpackExponent_packComponents,
    unpackSign_packComponents, hne_zero, hne_ones, if_false, hexponent, hmantissa]
  rfl

end Mockup.Binary64
