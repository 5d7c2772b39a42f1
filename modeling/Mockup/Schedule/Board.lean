import Mockup.Config.Basic
import Mockup.Task.Basic

/-!
# The board

The coordinator of a run keeps on a board where each task stands.  Tasks go by their place in the
list of tasks.

* `Standing`: pending, executing, or settled in one of three ways;
* `dependencyTable`: the places of the dependencies of each task;
* `spreadSkips`: marks the pending tasks that can no longer run;
* `readyTasks`: the tasks that can start, in their starting order;
* `Board`: the states, the results, the tasks in flight and the number of settled tasks, with
  `Board.start?` and `Board.settle`.
-/

namespace Mockup.Schedule

/-- The states of a task. -/
inductive Standing where
  | pending
  | executing
  | completed
  | failed
  | skipped
  deriving DecidableEq, Repr

namespace Standing

/-- The states in which a task is over. -/
def isSettled : Standing → Bool
  | .completed | .failed | .skipped => true
  | .pending | .executing => false

/-- The states in which a task is over without an output. -/
def isDown : Standing → Bool
  | .failed | .skipped => true
  | .pending | .executing | .completed => false

/-- The state of a task that a worker has reported on. -/
def ofSuccess (success : Bool) : Standing :=
  if success then .completed else .failed

end Standing

/-- The places of the dependencies of each task, in the order of their names. -/
def dependencyTable (tasks : List Task) : List (List Nat) :=
  tasks.map fun t => t.dependencies.filterMap fun d => tasks.findIdx? (·.id == d)

/-! ### Skipping -/

/-- The task is pending, and one of its dependencies is down. -/
def isBlocked (table : List (List Nat)) (states : List Standing) (i : Nat) : Bool :=
  states[i]? == some .pending && (table.getD i []).any fun d => (states[d]?).any Standing.isDown

/-- The blocked tasks, in order. -/
def blockedTasks (table : List (List Nat)) (states : List Standing) : List Nat :=
  (List.range states.length).filter (isBlocked table states)

/-- Puts tasks into the state `skipped`. -/
def markSkipped (states : List Standing) (is : List Nat) : List Standing :=
  is.foldl (fun states i => states.set i .skipped) states

theorem count_set_le {states : List Standing} {i : Nat} {s : Standing} (hs : s ≠ .pending) :
    (states.set i s).count .pending ≤ states.count .pending := by
  by_cases hi : i < states.length
  · rw [List.count_set hi]
    simp [hs]
  · exact Nat.le_of_eq (by rw [List.set_eq_of_length_le (Nat.le_of_not_lt hi)])

theorem count_set_lt {states : List Standing} {i : Nat} {s : Standing} (hs : s ≠ .pending)
    (hi : states[i]? = some .pending) :
    (states.set i s).count .pending < states.count .pending := by
  obtain ⟨h, hp⟩ := List.getElem?_eq_some_iff.1 hi
  have hpos : 0 < states.count .pending := List.count_pos_iff.2 (hp ▸ List.getElem_mem h)
  rw [List.count_set h]
  simp only [hp, hs, beq_iff_eq, if_true, if_false]
  omega

theorem count_markSkipped_le (states : List Standing) (is : List Nat) :
    (markSkipped states is).count .pending ≤ states.count .pending := by
  induction is generalizing states with
  | nil => exact Nat.le_refl _
  | cons i is ih => exact Nat.le_trans (ih (states.set i .skipped)) (count_set_le (by decide))

theorem count_markSkipped_lt {table : List (List Nat)} {states : List Standing} {i : Nat}
    {is : List Nat} (h : blockedTasks table states = i :: is) :
    (markSkipped states (i :: is)).count .pending < states.count .pending := by
  have hmem : i ∈ blockedTasks table states := h ▸ List.mem_cons_self
  have hblocked := (List.mem_filter.1 hmem).2
  have hi : states[i]? = some .pending := by
    simp only [isBlocked, Bool.and_eq_true, beq_iff_eq] at hblocked
    exact hblocked.1
  exact Nat.lt_of_le_of_lt (count_markSkipped_le (states.set i .skipped) is)
    (count_set_lt (by decide) hi)

/-- Marks the blocked tasks as skipped, then those that this blocks, and so on.  Answers them in the
order in which they were marked, and the states that result. -/
def spreadSkips (table : List (List Nat)) (states : List Standing) :
    List Nat × List Standing :=
  match _h : blockedTasks table states with
  | [] => ([], states)
  | i :: is =>
    let next := spreadSkips table (markSkipped states (i :: is))
    (i :: is ++ next.1, next.2)
termination_by states.count .pending
decreasing_by exact count_markSkipped_lt _h

theorem count_spreadSkips_le (table : List (List Nat)) (states : List Standing) :
    (spreadSkips table states).2.count .pending ≤ states.count .pending := by
  fun_induction spreadSkips table states with
  | case1 => exact Nat.le_refl _
  | case2 states i is h next ih => exact Nat.le_trans ih (Nat.le_of_lt (count_markSkipped_lt h))

/-! ### Starting -/

/-- The dependencies of a task allow it to start: under `skip` all have completed, under `proceed`
all have settled. -/
def isSatisfied (policy : FailurePolicy) (states : List Standing) (dependencies : List Nat) :
    Bool :=
  dependencies.all fun d => match policy with
    | .skip => states[d]? == some .completed
    | .proceed => (states[d]?).any Standing.isSettled

/-- The pending tasks that may start. -/
def satisfiedTasks (policy : FailurePolicy) (table : List (List Nat)) (states : List Standing) :
    List Nat :=
  (List.range states.length).filter fun i =>
    states[i]? == some .pending && isSatisfied policy states (table.getD i [])

def priorityAt (tasks : List Task) (i : Nat) : Int :=
  ((tasks[i]?).map (·.priority)).getD 0

/-- The tasks that may start: a higher priority first, then the order of the list. -/
def readyTasks (policy : FailurePolicy) (tasks : List Task) (table : List (List Nat))
    (states : List Standing) : List Nat :=
  (satisfiedTasks policy table states).mergeSort fun i j =>
    decide (priorityAt tasks j ≤ priorityAt tasks i)

/-! ### The board -/

/-- The coordinator's record of the tasks: the state and the result of each, those that a worker has
not reported yet, and the number of settled ones. -/
structure Board where
  states : List Standing
  results : List (Option Settlement)
  inFlight : List Nat
  settled : Nat
  deriving BEq, Repr

namespace Board

/-- The board before anything has happened. -/
def fresh (n : Nat) : Board :=
  { states := List.replicate n .pending, results := List.replicate n none, inFlight := [],
    settled := 0 }

/-- The board once a pending task has been handed to a worker. -/
def start? (b : Board) (i : Nat) : Option Board :=
  if b.states[i]? = some .pending then
    some { b with states := b.states.set i .executing, inFlight := b.inFlight ++ [i] }
  else none

/-- The board once a task has settled. -/
def settle (b : Board) (i : Nat) (state : Standing) (result : Settlement) : Board :=
  { states := b.states.set i state
    results := b.results.set i (some result)
    inFlight := b.inFlight.erase i
    settled := b.settled + 1 }

def pending (b : Board) : Nat :=
  b.states.count .pending

theorem pending_start? {b b' : Board} {i : Nat} (h : b.start? i = some b') :
    b'.pending < b.pending := by
  unfold start? at h
  split at h
  · next hi => cases h; exact count_set_lt (by decide) hi
  · simp at h

theorem pending_settle (b : Board) (i : Nat) {state : Standing} (result : Settlement)
    (hs : state ≠ .pending) : (b.settle i state result).pending ≤ b.pending :=
  count_set_le hs

/-- The name of the first dependency of a task that is down. -/
def blocker (tasks : List Task) (table : List (List Nat)) (states : List Standing) (i : Nat) :
    String :=
  let down := (table.getD i []).find? fun d => (states[d]?).any Standing.isDown
  ((down.bind fun d => tasks[d]?).map (·.id)).getD ""

end Board

end Mockup.Schedule
