import Mockup.Task.Basic
import Mockup.Task.Weight

/-!
# Graphs of tasks

A list of tasks can be run when the names differ, every dependency is the name of a task, and no
task depends on itself through others.

* `GraphFault`: the refusals of a list of tasks;
* `Countdown`: the open dependencies of each task, and the tasks that have none left;
* `Countdown.run`: takes tasks without open dependencies one after the other;
* `checkGraph`: the verdict.
-/

namespace Mockup

/-- The refusals of a list of tasks. -/
inductive GraphFault where
  | duplicate (id : String)
  | selfDependency (id : String)
  | unknownDependency (id dependency : String)
  | cycle
  deriving DecidableEq, Repr

def GraphFault.message : GraphFault → String
  | .duplicate id => "task graph is invalid: duplicate task id '" ++ id ++ "'"
  | .selfDependency id => "task graph is invalid: task '" ++ id ++ "' depends on itself"
  | .unknownDependency id dependency =>
    "task graph is invalid: task '" ++ id ++ "' depends on unknown task '" ++ dependency ++ "'"
  | .cycle => "task graph is invalid: dependency cycle detected"

/-- The first name that was there before. -/
def firstDuplicate (seen : List String) : List String → Option String
  | [] => none
  | id :: ids => if id ∈ seen then some id else firstDuplicate (id :: seen) ids

/-- The first dependency of a task that cannot be met. -/
def dependencyFault? (ids : List String) (task : Task) : Option GraphFault :=
  task.dependencies.findSome? fun d =>
    if d = task.id then some (.selfDependency task.id)
    else if d ∉ ids then some (.unknownDependency task.id d)
    else none

/-- The number of open dependencies of each task, the tasks that wait to be taken because they have
none, and the number of tasks taken so far. -/
structure Countdown where
  counts : List (String × Nat)
  queue : List String
  taken : Nat
  deriving Repr

namespace Countdown

/-- Lowers the count of a task, and answers the new count, unless the count is zero. -/
def lower (id : String) : List (String × Nat) → Option (Nat × List (String × Nat))
  | [] => none
  | (key, n) :: rest =>
    if key = id then
      match n with
      | 0 => none
      | n + 1 => some (n, (key, n) :: rest)
    else (lower id rest).map fun (m, rest) => (m, (key, n) :: rest)

/-- Lowers the count of a task, which is ready once its count is zero. -/
def release (c : Countdown) (id : String) : Countdown :=
  match lower id c.counts with
  | none => c
  | some (n, counts) =>
    { c with counts := counts, queue := if n = 0 then c.queue ++ [id] else c.queue }

/-- Takes a task: the counts of all that depend on it are lowered. -/
def take (tasks : List Task) (c : Countdown) (id : String) : Countdown :=
  ((tasks.filter (id ∈ ·.dependencies)).map (·.id)).foldl release { c with taken := c.taken + 1 }

/-- A bound on the number of steps that may still follow. -/
def weight (c : Countdown) : Nat :=
  2 * weigh (·.2) c.counts + c.queue.length

theorem weigh_lower {id : String} {counts counts' : List (String × Nat)} {n : Nat}
    (h : lower id counts = some (n, counts')) : weigh (·.2) counts' + 1 = weigh (·.2) counts := by
  induction counts generalizing counts' n with
  | nil => simp [lower] at h
  | cons p rest ih =>
    obtain ⟨key, m⟩ := p
    unfold lower at h
    split at h
    · cases m with
      | zero => simp at h
      | succ m =>
        simp only [Option.some.injEq, Prod.mk.injEq] at h
        rw [← h.2]
        simp only [weigh_cons]; omega
    · obtain ⟨⟨m', rest'⟩, hl, he⟩ := Option.map_eq_some_iff.1 h
      simp only [Prod.mk.injEq] at he
      rw [← he.2]
      have := ih hl
      simp only [weigh_cons]; omega

theorem weight_release (c : Countdown) (id : String) : (c.release id).weight ≤ c.weight := by
  unfold release
  split
  · exact Nat.le_refl _
  · next n counts h =>
    have := weigh_lower h
    simp only [weight]
    split
    · simp only [List.length_append, List.length_cons, List.length_nil]; omega
    · omega

theorem weight_foldl_release (ids : List String) (c : Countdown) :
    (ids.foldl release c).weight ≤ c.weight := by
  induction ids generalizing c with
  | nil => exact Nat.le_refl _
  | cons id ids ih => exact Nat.le_trans (ih (c.release id)) (weight_release c id)

/-- Takes tasks as long as any is ready, and answers how many were taken. -/
def run (tasks : List Task) (c : Countdown) : Nat :=
  match _h : c.queue with
  | [] => c.taken
  | id :: queue => run tasks (take tasks { c with queue := queue } id)
termination_by c.weight
decreasing_by
  have := weight_foldl_release ((tasks.filter (id ∈ ·.dependencies)).map (·.id))
    { c with queue := queue, taken := c.taken + 1 }
  simp only [take]
  refine Nat.lt_of_le_of_lt this ?_
  simp only [weight, _h, List.length_cons]
  omega

/-- The countdown before any task is taken. -/
def start (tasks : List Task) : Countdown :=
  { counts := tasks.map fun t => (t.id, t.dependencies.length)
    queue := (tasks.filter (·.dependencies.isEmpty)).map (·.id)
    taken := 0 }

end Countdown

/-- Refuses a list of tasks that cannot be run to its end. -/
def checkGraph (tasks : List Task) : Except GraphFault Unit :=
  let ids := tasks.map (·.id)
  match firstDuplicate [] ids with
  | some id => .error (.duplicate id)
  | none => match tasks.findSome? (dependencyFault? ids) with
    | some fault => .error fault
    | none =>
      if (Countdown.start tasks).run tasks = tasks.length then .ok () else .error .cycle

end Mockup
