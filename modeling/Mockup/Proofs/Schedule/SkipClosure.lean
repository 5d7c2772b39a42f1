import Mathlib.Logic.Relation
import Mockup.Proofs.Schedule.Skips

/-!
# The closure of skips

`spreadSkips` marks the blocked tasks, round after round, until nothing is blocked.  The tasks that
it marks form a closure: the pending tasks that lead to a task which is down, along dependencies and
through pending tasks, however long the way and whether or not there are circles.

* `WaitsFor`, `Doomed`: a pending task and what it depends on; a pending task that leads to one
  which is down;
* `Doomed.of_markSkipped`, `doomed_of_mem_spreadSkips`: a round adds no way to a task that is down,
  so that only doomed tasks are marked;
* `mem_spreadSkips_of_doomed`: all of them are marked;
* `spreadSkips_closure`: the closure of skips.
-/

namespace Mockup.Schedule

variable {table : List (List Nat)} {states : List Standing} {i d : Nat}

/-- The first task is pending and depends on the second one. -/
def WaitsFor (table : List (List Nat)) (states : List Standing) (i d : Nat) : Prop :=
  states[i]? = some .pending ∧ d ∈ table.getD i []

/-- From the task, which is pending, dependencies lead through pending tasks to one that is down. -/
def Doomed (table : List (List Nat)) (states : List Standing) (i : Nat) : Prop :=
  ∃ d, Relation.TransGen (WaitsFor table states) i d ∧ DownAt states d

theorem doomed_of_mem_blockedTasks (h : i ∈ blockedTasks table states) : Doomed table states i := by
  obtain ⟨hi, d, hd, hdown⟩ := mem_blockedTasks_iff.1 h
  exact ⟨d, .single ⟨hi, hd⟩, hdown⟩

theorem Doomed.pending (h : Doomed table states i) : states[i]? = some .pending := by
  obtain ⟨d, hway, -⟩ := h
  obtain ⟨_, hfirst, -⟩ := Relation.TransGen.head'_iff.1 hway
  exact hfirst.1

/-- A round makes no task doomed: what it marks was doomed itself. -/
theorem Doomed.of_markSkipped
    (h : Doomed table (markSkipped states (blockedTasks table states)) i) :
    Doomed table states i := by
  obtain ⟨d, hway, hdown⟩ := h
  -- a task that is pending after the round was so before
  have hwait : WaitsFor table (markSkipped states (blockedTasks table states))
      ≤ WaitsFor table states := fun _ _ h => ⟨(pending_markSkipped_iff.1 h.1).1, h.2⟩
  have hway : Relation.TransGen (WaitsFor table states) i d :=
    Relation.TransGen.mono hwait _ _ hway
  by_cases hd : d ∈ blockedTasks table states
  · obtain ⟨d', hon, hdown'⟩ := doomed_of_mem_blockedTasks hd
    exact ⟨d', hway.trans hon, hdown'⟩
  · refine ⟨d, hway, ?_⟩
    simpa [DownAt, getElem?_markSkipped, hd] using hdown

theorem doomed_of_mem_spreadSkips (h : i ∈ (spreadSkips table states).1) :
    Doomed table states i := by
  fun_induction spreadSkips table states with
  | case1 => simp at h
  | case2 states j js hblocked next ih =>
    rcases List.mem_append.1 h with h | h
    · exact doomed_of_mem_blockedTasks (hblocked ▸ h)
    · have hround := ih h
      rw [← hblocked] at hround
      exact hround.of_markSkipped

theorem skipped_of_mem_spreadSkips (h : i ∈ (spreadSkips table states).1) :
    (spreadSkips table states).2[i]? = some .skipped := by
  rw [spreadSkips_snd, getElem?_markSkipped, pending_of_mem_spreadSkips h]
  simp only [h, if_true, Option.map_some]

theorem getElem?_spreadSkips_of_not_mem (h : i ∉ (spreadSkips table states).1) :
    (spreadSkips table states).2[i]? = states[i]? := by
  rw [spreadSkips_snd, getElem?_markSkipped]
  simp only [h, if_false, Option.map_id']

/-- A task that is down stays down. -/
theorem DownAt.spreadSkips (h : DownAt states i) (table : List (List Nat)) :
    DownAt (spreadSkips table states).2 i := by
  rw [spreadSkips_snd]
  exact h.markSkipped _

/-- In the end no pending task depends on one that is down. -/
theorem not_downAt_of_waitsFor_spreadSkips (h : WaitsFor table (spreadSkips table states).2 i d) :
    ¬ DownAt (spreadSkips table states).2 d := by
  intro hdown
  have hmem : i ∈ blockedTasks table (spreadSkips table states).2 :=
    mem_blockedTasks_iff.2 ⟨h.1, d, h.2, hdown⟩
  rw [blockedTasks_spreadSkips] at hmem
  cases hmem

/-- A pending task that is not marked stays pending, so it cannot wait for one that ends down. -/
theorem mem_spreadSkips_of_waitsFor (hwait : WaitsFor table states i d)
    (hdown : DownAt (spreadSkips table states).2 d) : i ∈ (spreadSkips table states).1 := by
  by_contra hi
  refine not_downAt_of_waitsFor_spreadSkips ⟨?_, hwait.2⟩ hdown
  rw [spreadSkips_snd]
  exact pending_markSkipped_iff.2 ⟨hwait.1, hi⟩

theorem mem_spreadSkips_of_doomed (h : Doomed table states i) :
    i ∈ (spreadSkips table states).1 := by
  obtain ⟨d, hway, hdown⟩ := h
  -- along the way, from its end
  induction hway using Relation.TransGen.head_induction_on with
  | single hwait => exact mem_spreadSkips_of_waitsFor hwait (hdown.spreadSkips table)
  | head hwait _ ih =>
    exact mem_spreadSkips_of_waitsFor hwait (.inr (skipped_of_mem_spreadSkips ih))

/-- Each doomed task is marked once and nothing else is; what is marked becomes skipped, and all
else keeps its state.  No pending task is left that depends on a task which is down, so that marking
once more changes nothing. -/
theorem spreadSkips_closure (table : List (List Nat)) (states : List Standing) :
    (spreadSkips table states).1.Nodup ∧
    (∀ i, i ∈ (spreadSkips table states).1 ↔ Doomed table states i) ∧
    (∀ i, Doomed table states i →
      states[i]? = some .pending ∧ (spreadSkips table states).2[i]? = some .skipped) ∧
    (∀ i, ¬ Doomed table states i → (spreadSkips table states).2[i]? = states[i]?) ∧
    (∀ i, (spreadSkips table states).2[i]? = some .pending →
      ∀ d ∈ table.getD i [], ¬ DownAt (spreadSkips table states).2 d) ∧
    spreadSkips table (spreadSkips table states).2 = ([], (spreadSkips table states).2) := by
  have hmarked : ∀ i, i ∈ (spreadSkips table states).1 ↔ Doomed table states i :=
    fun _ => ⟨doomed_of_mem_spreadSkips, mem_spreadSkips_of_doomed⟩
  refine ⟨nodup_spreadSkips table states, hmarked, fun i hi => ⟨hi.pending, ?_⟩, fun i hi => ?_,
    fun i hi d hd => not_downAt_of_waitsFor_spreadSkips ⟨hi, hd⟩,
    spreadSkips_of_blockedTasks_eq_nil (blockedTasks_spreadSkips table states)⟩
  · exact skipped_of_mem_spreadSkips ((hmarked i).2 hi)
  · exact getElem?_spreadSkips_of_not_mem (mt (hmarked i).1 hi)

/-- A chain behind a failure is marked to its end, a circle without a failure is not. -/
example : spreadSkips [[], [0], [1], [4], [3]]
    [.failed, .pending, .pending, .pending, .pending] =
      ([1, 2], [.failed, .skipped, .skipped, .pending, .pending]) := by cbv

end Mockup.Schedule
