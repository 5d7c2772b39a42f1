import Mockup.Proofs.Schedule.Skips

/-!
# The books of the board

The states, the results, the tasks in flight and the count of settled tasks say the same of every
task.  While skipped tasks are settled one by one, some of them are still due: they are marked but
have no result yet.

* `Board.Sound`: the four agree, up to the tasks that are due;
* `Board.Sound.mark`, `Board.Sound.settle_skipped`: all tasks that a skip reaches become due, and
  one is settled;
* `Board.Sound.start`, `Board.Sound.settle_inFlight`: a task is started, and one that is in flight
  is settled;
* `Board.Sound.le_settled_iff`: the count tells when all tasks have settled;
* `Met`, `isSatisfied_iff`: the condition on the dependencies of a task that may start;
* `mem_readyTasks`, `nodup_readyTasks`: the tasks that may start.
-/

namespace Mockup.Schedule.Board

/-- The books agree, but for the tasks that are due. -/
structure Sound (n : Nat) (due : List Nat) (b : Board) : Prop where
  length_states : b.states.length = n
  length_results : b.results.length = n
  nodup_inFlight : b.inFlight.Nodup
  mem_inFlight : ∀ i, i ∈ b.inFlight ↔ b.states[i]? = some .executing
  nodup_due : due.Nodup
  skipped_of_due : ∀ i ∈ due, b.states[i]? = some .skipped
  result_iff : ∀ i, (∃ r, b.results[i]? = some (some r)) ↔ SettledAt b.states i ∧ i ∉ due
  settled_add : b.settled + due.length = b.states.countP Standing.isSettled

theorem Sound.fresh (n : Nat) : Sound n [] (Board.fresh n) where
  length_states := by simp [Board.fresh]
  length_results := by simp [Board.fresh]
  nodup_inFlight := List.nodup_nil
  mem_inFlight := by simp [Board.fresh, List.getElem?_replicate]
  nodup_due := List.nodup_nil
  skipped_of_due := by simp
  result_iff := by simp [Board.fresh, List.getElem?_replicate, SettledAt, DownAt]
  settled_add := by simp [Board.fresh, List.countP_replicate, Standing.isSettled]

namespace Sound

variable {n i : Nat} {due : List Nat} {b b' : Board}

theorem lt_of_getElem? (h : Sound n due b) {s : Standing} (hi : b.states[i]? = some s) : i < n :=
  h.length_states ▸ (List.getElem?_eq_some_iff.1 hi).1

theorem mark (h : Sound n [] b) (table : List (List Nat)) :
    Sound n (spreadSkips table b.states).1 { b with states := (spreadSkips table b.states).2 } where
  length_states := by
    simp only [spreadSkips_snd, length_markSkipped]
    exact h.length_states
  length_results := h.length_results
  nodup_inFlight := h.nodup_inFlight
  mem_inFlight := by
    intro i
    rw [h.mem_inFlight i]
    simp only [spreadSkips_snd, getElem?_markSkipped]
    by_cases hi : i ∈ (spreadSkips table b.states).1
    · simp [pending_of_mem_spreadSkips hi, hi]
    · simp [hi]
  nodup_due := nodup_spreadSkips table b.states
  skipped_of_due := by
    intro i hi
    simp only [spreadSkips_snd, getElem?_markSkipped]
    simp [pending_of_mem_spreadSkips hi, hi]
  result_iff := by
    intro i
    rw [h.result_iff i]
    simp only [spreadSkips_snd, SettledAt, DownAt, getElem?_markSkipped]
    by_cases hi : i ∈ (spreadSkips table b.states).1
    · simp [pending_of_mem_spreadSkips hi, hi]
    · simp [hi]
  settled_add := by
    have hcount := countP_markSkipped (nodup_spreadSkips table b.states)
      fun i hi => pending_of_mem_spreadSkips hi
    have hsum := h.settled_add
    simp only [spreadSkips_snd, hcount, List.length_nil] at hsum ⊢
    omega

theorem settle_skipped (h : Sound n (i :: due) b) (result : Settlement) :
    Sound n due (b.settle i .skipped result) := by
  have hi := h.skipped_of_due i List.mem_cons_self
  have hlt := h.lt_of_getElem? hi
  obtain ⟨hdue, hnodup⟩ := List.nodup_cons.1 h.nodup_due
  have hstates : b.states.set i .skipped = b.states := set_getElem?_some hi
  -- a task that is skipped was never in flight
  have hflight : b.inFlight.erase i = b.inFlight := by
    refine List.erase_of_not_mem fun hmem => ?_
    rw [h.mem_inFlight, hi] at hmem
    cases hmem
  refine ⟨?_, ?_, ?_, ?_, hnodup, ?_, ?_, ?_⟩ <;> simp only [Board.settle, hstates, hflight]
  · exact h.length_states
  · simpa using h.length_results
  · exact h.nodup_inFlight
  · exact h.mem_inFlight
  · exact fun j hj => h.skipped_of_due j (List.mem_cons_of_mem _ hj)
  · intro j
    rw [List.getElem?_set]
    by_cases hij : i = j
    · subst hij
      simp [h.length_results, hlt, SettledAt, DownAt, hi, hdue]
    · simp [hij, h.result_iff j, Ne.symm hij]
  · have := h.settled_add
    simp only [List.length_cons] at this
    omega

theorem start (h : Sound n [] b) (hb : b.start? i = some b') : Sound n [] b' := by
  unfold Board.start? at hb
  split at hb
  · next hi =>
    cases hb
    have hcount := countP_set_add (p := Standing.isSettled) (b := .executing) hi
    refine ⟨?_, h.length_results, ?_, ?_, List.nodup_nil, by simp, ?_, ?_⟩
    · simpa using h.length_states
    · refine List.nodup_append.2 ⟨h.nodup_inFlight, List.nodup_singleton i, ?_⟩
      rintro a ha c hc rfl
      obtain rfl := List.mem_singleton.1 hc
      rw [h.mem_inFlight, hi] at ha
      cases ha
    · intro j
      simp only [List.mem_append, h.mem_inFlight j, List.mem_singleton]
      rw [getElem?_set_some hi]
      by_cases hij : i = j
      · simp [hij]
      · simp [hij, Ne.symm hij]
    · intro j
      rw [h.result_iff j]
      simp only [SettledAt, DownAt, getElem?_set_some hi]
      by_cases hij : i = j
      · simp [← hij, hi]
      · simp [hij]
    · have := h.settled_add
      simp only [Standing.isSettled, Bool.toNat_false] at hcount
      simp only [List.length_nil] at this ⊢
      omega
  · cases hb

theorem settle_inFlight (h : Sound n [] b) (hi : i ∈ b.inFlight) (success : Bool)
    (result : Settlement) : Sound n [] (b.settle i (.ofSuccess success) result) := by
  have hexec := (h.mem_inFlight i).1 hi
  have hlt := h.lt_of_getElem? hexec
  have hcount := countP_set_add (p := Standing.isSettled) (b := .ofSuccess success) hexec
  refine ⟨?_, ?_, ?_, ?_, List.nodup_nil, by simp, ?_, ?_⟩ <;> simp only [Board.settle]
  · simpa using h.length_states
  · simpa using h.length_results
  · exact h.nodup_inFlight.erase i
  · intro j
    rw [h.nodup_inFlight.mem_erase_iff, h.mem_inFlight j, getElem?_set_some hexec]
    by_cases hij : i = j
    · cases success <;> simp [hij, Standing.ofSuccess]
    · simp [hij, Ne.symm hij]
  · intro j
    have hj := h.result_iff j
    simp only [SettledAt, DownAt, getElem?_set_some hexec] at hj ⊢
    rw [List.getElem?_set]
    by_cases hij : i = j
    · subst hij
      cases success <;> simp [h.length_results, hlt, Standing.ofSuccess]
    · simpa [hij] using hj
  · have := h.settled_add
    cases success <;> simp [Standing.isSettled, Standing.ofSuccess] at hcount this ⊢ <;> omega

/-- The count tells when all tasks have settled. -/
theorem le_settled_iff (h : Sound n [] b) :
    n ≤ b.settled ↔ ∀ i < n, SettledAt b.states i := by
  have hcount : b.settled = b.states.countP Standing.isSettled := h.settled_add
  have hle := List.countP_le_length (p := Standing.isSettled) (l := b.states)
  have hlen := h.length_states
  constructor
  · intro hn i hi
    have hall := List.countP_eq_length.1 (show b.states.countP Standing.isSettled = _ by omega)
    have hlt : i < b.states.length := hlen ▸ hi
    refine any_isSettled_iff.1 ?_
    rw [List.getElem?_eq_getElem hlt]
    exact hall _ (List.getElem_mem hlt)
  · intro hall
    rw [hcount, ← hlen]
    refine Nat.le_of_eq (List.countP_eq_length.2 fun s hs => ?_).symm
    obtain ⟨i, hi, rfl⟩ := List.mem_iff_getElem.1 hs
    have hsettled := any_isSettled_iff.2 (hall i (hlen ▸ hi))
    rwa [List.getElem?_eq_getElem hi] at hsettled

end Sound

end Mockup.Schedule.Board

namespace Mockup.Schedule

/-! ### Ready tasks -/

variable {policy : FailurePolicy} {states : List Standing} {table : List (List Nat)} {i d : Nat}

/-- The task at a place has come to what a task needs that depends on it. -/
def Met (policy : FailurePolicy) (states : List Standing) (d : Nat) : Prop :=
  match policy with
  | .skip => states[d]? = some .completed
  | .proceed => SettledAt states d

theorem Met.settledAt (h : Met policy states d) : SettledAt states d := by
  cases policy with
  | skip => exact .inl h
  | proceed => exact h

theorem isSatisfied_iff {ds : List Nat} :
    isSatisfied policy states ds = true ↔ ∀ d ∈ ds, Met policy states d := by
  unfold isSatisfied Met
  cases policy <;> simp [any_isSettled_iff]

/-- A dependency is met by a state that is settled, so that a start changes nothing. -/
theorem met_set_executing_iff (hi : states[i]? = some .pending) :
    Met policy (states.set i .executing) d ↔ Met policy states d := by
  unfold Met SettledAt DownAt
  by_cases hid : i = d
  · cases policy <;> simp [getElem?_set_some hi, ← hid, hi]
  · cases policy <;> simp [getElem?_set_some hi, hid]

/-- No task is down because others were started. -/
theorem downAt_of_foldl_executing {is : List Nat}
    (h : DownAt (is.foldl (fun states i => states.set i .executing) states) d) :
    DownAt states d :=
  h.imp (fun h => ((getElem?_foldl_set_of_ne (by decide)).1 h).1)
    fun h => ((getElem?_foldl_set_of_ne (by decide)).1 h).1

theorem met_of_foldl_executing {is : List Nat}
    (h : Met policy (is.foldl (fun states i => states.set i .executing) states) d) :
    Met policy states d := by
  cases policy with
  | skip => exact ((getElem?_foldl_set_of_ne (by decide)).1 h).1
  | proceed =>
    exact h.imp (fun h => ((getElem?_foldl_set_of_ne (by decide)).1 h).1) downAt_of_foldl_executing

theorem mem_readyTasks {tasks : List Task} : i ∈ readyTasks policy tasks table states ↔
    states[i]? = some .pending ∧ ∀ d ∈ table.getD i [], Met policy states d := by
  simp only [readyTasks, List.mem_mergeSort, satisfiedTasks, List.mem_filter, List.mem_range,
    Bool.and_eq_true, beq_iff_eq, isSatisfied_iff, and_iff_right_iff_imp]
  rintro ⟨hi, -⟩
  exact (List.getElem?_eq_some_iff.1 hi).1

theorem nodup_readyTasks {tasks : List Task} : (readyTasks policy tasks table states).Nodup :=
  (List.mergeSort_perm _ _).nodup_iff.2 (List.nodup_range.filter _)

end Mockup.Schedule
