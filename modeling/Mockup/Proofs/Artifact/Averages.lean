import Mathlib.Algebra.Order.BigOperators.Group.List
import Mockup.Proofs.Artifact.Accounts
import Mockup.Proofs.Float.Quotient

/-!
# The average time of accepted work

There is an average just if an output was accepted.  The sum of the times is checked to fit in 64
bits: if it does, it is exact, and the average is the nearest float of its quotient by the number of
accepted outputs, up to the rounding of both.  Otherwise the merge fails.

* `Settlement.Accepted`: a result whose output is accepted;
* `Merged.times_ofList`: the times are those of the accepted results, in order;
* `foldlM_addTime`: a chain of checked additions checks the exact sum once;
* `le_meanOf`, `meanOf_le`: the exact mean lies between the least and the greatest time;
* `Merged.value_averageTime`: the float that stands for the mean;
* `merge_mean`: the results that can be merged, and their average;
* `merge_overflow_halves`: two accepted results that cannot be merged.
-/

namespace Mockup

open Binary64 (value?)

namespace Settlement

/-- The output of a result is accepted. -/
def Accepted (r : Settlement) : Prop :=
  ∃ p, r.Yields p

theorem accepted_iff {r : Settlement} : r.Accepted ↔ (productOf r).isOk = true := by
  unfold Accepted
  simp only [yields_iff]
  cases productOf r <;> simp [Except.isOk, Except.toBool]

instance : DecidablePred Accepted :=
  fun _ => decidable_of_iff' _ accepted_iff

/-- The milliseconds of the work on a result. -/
def time (r : Settlement) : ℕ :=
  r.metadata.processingTime

end Settlement

/-- The times of the accepted results, in order. -/
def acceptedTimes (results : List Settlement) : List ℕ :=
  (results.filter (·.Accepted)).map Settlement.time

theorem acceptedTimes_cons (r : Settlement) (results : List Settlement) :
    acceptedTimes (r :: results)
      = (if r.Accepted then [r.time] else []) ++ acceptedTimes results := by
  rw [acceptedTimes, List.filter_cons]
  by_cases h : r.Accepted <;> simp [h, acceptedTimes]

theorem acceptedTimes_eq_nil {results : List Settlement} :
    acceptedTimes results = [] ↔ ∀ r ∈ results, ¬ r.Accepted := by
  simp [acceptedTimes]

/-! ### The exact mean -/

/-- The mean of times, as a rational. -/
def meanOf (times : List ℕ) : ℚ :=
  times.sum / times.length

section mean

variable {times : List ℕ} {n : ℕ}

theorem le_meanOf (h : times.min? = some n) : (n : ℚ) ≤ meanOf times := by
  obtain ⟨hmem, hle⟩ := List.min?_eq_some_iff.1 h
  have hpos : (0 : ℚ) < times.length := by exact_mod_cast List.length_pos_of_mem hmem
  have hsum : times.length * n ≤ times.sum := List.card_nsmul_le_sum times n hle
  rw [meanOf, le_div_iff₀ hpos, mul_comm]
  exact_mod_cast hsum

theorem meanOf_le (h : times.max? = some n) : meanOf times ≤ n := by
  obtain ⟨hmem, hle⟩ := List.max?_eq_some_iff.1 h
  have hpos : (0 : ℚ) < times.length := by exact_mod_cast List.length_pos_of_mem hmem
  have hsum : times.sum ≤ times.length * n := List.sum_le_card_nsmul times n hle
  rw [meanOf, div_le_iff₀ hpos, mul_comm]
  exact_mod_cast hsum

end mean

/-! ### The checked sum -/

theorem addTime_eq_ok_iff {sum time n : ℕ} :
    addTime sum time = .ok n ↔ sum + time < UInt64.size ∧ n = sum + time := by
  unfold addTime
  split <;> simp_all [eq_comm]

/-- Checking each addition is the same as checking the exact sum once. -/
theorem foldlM_addTime {sum : ℕ} (h : sum < UInt64.size) (times : List ℕ) :
    times.foldlM addTime sum = addTime sum times.sum := by
  induction times generalizing sum with
  | nil => exact (if_pos h).symm
  | cons time times ih =>
    rw [List.foldlM_cons, List.sum_cons]
    by_cases hlt : sum + time < UInt64.size
    · rw [addTime, if_pos hlt]
      refine (ih hlt).trans ?_
      rw [addTime, addTime, add_assoc]
    · rw [addTime, if_neg hlt, addTime, if_neg (by omega)]
      rfl

namespace Merged

/-- One more result adds its time if its output is accepted. -/
theorem times_add (m : Merged) (r : Settlement) :
    (m.add r).times = m.times ++ if r.Accepted then [r.time] else [] := by
  unfold add
  simp only [Settlement.accepted_iff]
  cases productOf r with
  | ok p => cases p <;> rfl
  | error error => exact (List.append_nil _).symm

theorem times_foldl_add (results : List Settlement) (m : Merged) :
    (results.foldl add m).times = m.times ++ acceptedTimes results := by
  induction results generalizing m with
  | nil => exact (List.append_nil _).symm
  | cons r rs ih => rw [List.foldl_cons, ih, times_add, List.append_assoc, acceptedTimes_cons]

theorem times_ofList (results : List Settlement) :
    (ofList results).times = acceptedTimes results :=
  times_foldl_add results {}

theorem timeSum_eq (m : Merged) : m.timeSum = addTime 0 m.times.sum :=
  foldlM_addTime (by decide) m.times

theorem timeSum_eq_ok_iff {m : Merged} {n : ℕ} :
    m.timeSum = .ok n ↔ m.times.sum < UInt64.size ∧ n = m.times.sum := by
  rw [timeSum_eq, addTime_eq_ok_iff, zero_add]

theorem averageTime_eq_error_iff {m : Merged} :
    m.averageTime = .error .timeOverflow ↔ UInt64.size ≤ m.times.sum := by
  unfold averageTime
  split
  · next h => simp [List.isEmpty_iff.1 h]
  · rw [timeSum_eq, addTime, zero_add]
    split <;> simp_all [Except.map]

theorem averageTime_eq_none_iff {m : Merged} : m.averageTime = .ok none ↔ m.times = [] := by
  unfold averageTime
  split
  · next h => simpa using List.isEmpty_iff.1 h
  · next h =>
    rw [timeSum_eq, addTime]
    split <;> simp_all [Except.map]

/-- The float that stands for the mean. -/
theorem value_averageTime {m : Merged} (hne : m.times ≠ []) (hsum : m.times.sum < UInt64.size)
    (hlength : m.times.length < UInt64.size) :
    ∃ mean v, m.averageTime = .ok (some mean) ∧ value? mean = some v ∧
      |v - meanOf m.times| ≤ meanOf m.times / 2 ^ 51 ∧
      (m.times.sum < 2 ^ 53 → m.times.length < 2 ^ 53 → ∀ k : ℕ,
        ((k : ℚ) ≤ meanOf m.times → k ≤ v) ∧ (meanOf m.times ≤ k → v ≤ k)) := by
  have hsum' : m.times.sum.toUInt64.toNat = m.times.sum := UInt64.toNat_ofNat_of_lt hsum
  have hlength' : m.times.length.toUInt64.toNat = m.times.length :=
    UInt64.toNat_ofNat_of_lt hlength
  have hpos : 0 < m.times.length.toUInt64.toNat := by
    rw [hlength']
    exact List.length_pos_iff.2 hne
  obtain ⟨v, hv, herror, hside⟩ := Binary64.exists_value_toFloat_div m.times.sum.toUInt64 hpos
  rw [hsum', hlength'] at herror hside
  refine ⟨_, v, ?_, hv, herror, hside⟩
  rw [averageTime, if_neg (by simpa using hne), timeSum_eq_ok_iff.2 ⟨hsum, rfl⟩]
  rfl

end Merged

theorem merge_eq_error_iff {results : List Settlement} :
    merge results = .error .timeOverflow ↔ UInt64.size ≤ (acceptedTimes results).sum := by
  rw [← Merged.times_ofList, ← Merged.averageTime_eq_error_iff, merge]
  cases (Merged.ofList results).averageTime <;> simp [Except.map]

theorem merge_eq_ok {results : List Settlement} (h : (acceptedTimes results).sum < UInt64.size) :
    merge results = .ok (.ofList results) := by
  cases haverage : (Merged.ofList results).averageTime with
  | error fault =>
    rw [Merged.averageTime_eq_error_iff, Merged.times_ofList] at haverage
    omega
  | ok average => simp [merge, haverage, Except.map]

/-- Results cannot be merged just if the times of accepted results add up to `UInt64.size` or more.
Otherwise their sum is exact, and there is no average just if no output was accepted.  The exact
mean lies between the least and the greatest time; the average is a float whose relative error is
`2 ^ (-51)` at most, and it lies between these two times itself as long as the sum and the number of
times are floats. -/
theorem merge_mean (results : List Settlement) :
    (merge results = .error .timeOverflow ↔ UInt64.size ≤ (acceptedTimes results).sum) ∧
    ((acceptedTimes results).sum < UInt64.size →
      ∃ m, merge results = .ok m ∧ m = .ofList results ∧
        m.timeSum = .ok (acceptedTimes results).sum ∧
        (m.averageTime = .ok none ↔ ∀ r ∈ results, ¬ r.Accepted) ∧
        ((∃ r ∈ results, r.Accepted) → results.length < UInt64.size →
          ∃ least greatest mean v,
            (acceptedTimes results).min? = some least ∧
            (acceptedTimes results).max? = some greatest ∧
            m.averageTime = .ok (some mean) ∧ value? mean = some v ∧
            least ≤ meanOf (acceptedTimes results) ∧ meanOf (acceptedTimes results) ≤ greatest ∧
            |v - meanOf (acceptedTimes results)| ≤ meanOf (acceptedTimes results) / 2 ^ 51 ∧
            ((acceptedTimes results).sum < 2 ^ 53 → (acceptedTimes results).length < 2 ^ 53 →
              least ≤ v ∧ v ≤ greatest))) := by
  refine ⟨merge_eq_error_iff, fun hsum => ⟨_, merge_eq_ok hsum, rfl, ?_, ?_, ?_⟩⟩
  · rw [Merged.timeSum_eq_ok_iff, Merged.times_ofList]
    exact ⟨hsum, rfl⟩
  · rw [Merged.averageTime_eq_none_iff, Merged.times_ofList, acceptedTimes_eq_nil]
  intro haccepted hlength
  have hne : acceptedTimes results ≠ [] := fun hnil => by
    obtain ⟨r, hr, hyes⟩ := haccepted
    exact acceptedTimes_eq_nil.1 hnil r hr hyes
  have hcount : (acceptedTimes results).length ≤ results.length := by
    rw [acceptedTimes, List.length_map]
    exact List.length_filter_le _ _
  obtain ⟨least, hleast⟩ := Option.isSome_iff_exists.1 (List.isSome_min?_iff.2 hne)
  obtain ⟨greatest, hgreatest⟩ := Option.isSome_iff_exists.1 (List.isSome_max?_iff.2 hne)
  obtain ⟨mean, v, hmean, hv, herror, hside⟩ :=
    Merged.value_averageTime (m := .ofList results) (by rwa [Merged.times_ofList])
      (by rwa [Merged.times_ofList]) (by rw [Merged.times_ofList]; omega)
  rw [Merged.times_ofList] at herror hside
  exact ⟨least, greatest, mean, v, hleast, hgreatest, hmean, hv, le_meanOf hleast,
    meanOf_le hgreatest, herror, fun hsmall hfew =>
      ⟨(hside hsmall hfew least).1 (le_meanOf hleast),
        (hside hsmall hfew greatest).2 (meanOf_le hgreatest)⟩⟩

/-- The result of a task for a view, which took this long. -/
def timedResult (time : Nat) (success : Bool) : Settlement :=
  { taskId := "orders-list", kind := .component, success
    output := some (.obj [("code", .text ""), ("name", .text "OrdersList"),
      ("table", .text "orders"), ("view_kind", .text "list")])
    error := none
    metadata := { processingTime := time, confidence := none, attempts := 1 } }

theorem merge_mean_mixed :
    let results := [timedResult 4 true, timedResult 100 false, timedResult 8 true]
    ∃ m mean v, merge results = .ok m ∧ m.timeSum = .ok 12 ∧ m.averageTime = .ok (some mean) ∧
      value? mean = some v ∧ (4 : ℚ) ≤ v ∧ v ≤ 8 := by
  intro results
  have htimes : acceptedTimes results = [4, 8] := by decide
  obtain ⟨m, hmerge, -, hsum, -, hmean⟩ := (merge_mean results).2 (by rw [htimes]; decide)
  obtain ⟨least, greatest, mean, v, hleast, hgreatest, haverage, hv, -, -, -, hbetween⟩ :=
    hmean ⟨timedResult 4 true, List.mem_cons_self, by decide⟩ (by decide)
  rw [htimes] at hleast hgreatest hsum hbetween
  obtain rfl : 4 = least := Option.some.inj hleast
  obtain rfl : 8 = greatest := Option.some.inj hgreatest
  exact ⟨m, mean, v, hmerge, hsum, haverage, hv, hbetween (by decide) (by decide)⟩

/-- The sum of these three equal times is rounded down, and the average is below them. -/
example :
    let times := List.replicate 3 6004799503160662
    times.sum < 2 ^ 55 ∧
      ∃ mean, ({ times } : Merged).averageTime = .ok (some mean) ∧
        mean < (6004799503160662 : ℕ).toUInt64.toFloat :=
  ⟨by decide, _, rfl, by decide +kernel⟩

/-- Two times of half of `UInt64.size` each fit in 64 bits, and so does their mean, but their sum
does not. -/
theorem merge_overflow_halves :
    let results := [timedResult (2 ^ 63) true, timedResult (2 ^ 63) true]
    acceptedTimes results = [2 ^ 63, 2 ^ 63] ∧ (∀ r ∈ results, r.time < UInt64.size) ∧
      [2 ^ 63, 2 ^ 63].sum = UInt64.size ∧ merge results = .error .timeOverflow := by
  refine ⟨?_, ?_, ?_, ?_⟩ <;> decide

end Mockup
