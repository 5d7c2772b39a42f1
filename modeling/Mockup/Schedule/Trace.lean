import Mockup.Schedule.Flight

/-!
# Observations of a trace

* `attemptsOf`: the number of attempts at a task;
* `firstStarts`: the tasks in the order of their first attempts;
* `peak`: the greatest number of attempts at one time;
* `completions`: the settled tasks, in order.
-/

namespace Mockup.Schedule

def Event.began? : Event → Option Nat
  | .began _ i => some i
  | .ended _ _ | .settled _ _ => none

def Event.result? : Event → Option Settlement
  | .settled _ r => some r
  | .began _ _ | .ended _ _ => none

/-- The tasks at which attempts begin, in order. -/
def begun (trace : List Event) : List Nat :=
  trace.filterMap Event.began?

/-- The number of attempts at a task. -/
def attemptsOf (trace : List Event) (i : Nat) : Nat :=
  (begun trace).count i

/-- The tasks in the order of their first attempts. -/
def firstStarts (trace : List Event) : List Nat :=
  (begun trace).foldl (fun seen i => if i ∈ seen then seen else seen ++ [i]) []

/-- The greatest number of attempts at one time, when `running` go on at the start. -/
def peakFrom (running : Nat) : List Event → Nat
  | [] => running
  | .began _ _ :: rest => max running (peakFrom (running + 1) rest)
  | .ended _ _ :: rest => max running (peakFrom (running - 1) rest)
  | .settled _ _ :: rest => peakFrom running rest

def peak (trace : List Event) : Nat :=
  peakFrom 0 trace

/-- The results in the order in which tasks settled. -/
def completions (trace : List Event) : List Settlement :=
  trace.filterMap Event.result?

end Mockup.Schedule
