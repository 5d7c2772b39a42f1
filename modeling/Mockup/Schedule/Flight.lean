import Mockup.Config.Basic
import Mockup.Task.Attempt

/-!
# Flights

A flight is the work on one task from the moment at which it is handed to a worker: attempts, and
pauses between them.  Time is in milliseconds from the start of the run.

* `Phase`, `Flight`: the work on a task;
* `Event`: the events of a run;
* `Landing`: the work goes on, or there is a result;
* `Flight.advance`: the events at a flight that is due, up to the next moment at which it has to
  wait.
-/

namespace Mockup.Schedule

/-- The work on a task has not begun, is in an attempt that ends at a time with an outcome, or rests
until the next attempt. -/
inductive Phase where
  | waiting
  | attempting (ends : Nat) (outcome : Except AttemptError Output)
  | resting (ends : Nat)

/-- The work on one task: its place in the list, the number of the current or next attempt, the
number of attempts that may follow it, the time at which the work began, and its phase. -/
structure Flight where
  index : Nat
  task : Task
  attempt : Nat
  left : Nat
  begun : Nat
  phase : Phase

/-- The events of a run: an attempt at the task with this index begins or ends, or the task settles.
-/
inductive Event where
  | began (time index : Nat)
  | ended (time index : Nat)
  | settled (index : Nat) (result : Settlement)
  deriving BEq, Repr

/-- The work on a task goes on, or is over with a result. -/
inductive Landing where
  | flying (f : Flight)
  | landed (index : Nat) (result : Settlement)

def Landing.flight? : Landing → Option Flight
  | .flying f => some f
  | .landed _ _ => none

def Landing.report? : Landing → Option (Nat × Settlement)
  | .flying _ => none
  | .landed index result => some (index, result)

/-- The events at a flight, and its state after them. -/
structure Progress where
  events : List Event
  landing : Landing

namespace Flight

/-- The flight has something to do at this time. -/
def isDue (now : Nat) (f : Flight) : Bool :=
  match f.phase with
  | .waiting => true
  | .attempting ends _ | .resting ends => ends ≤ now

/-- The next time at which the flight has something to do. -/
def nextTime (now : Nat) (f : Flight) : Nat :=
  match f.phase with
  | .waiting => now
  | .attempting ends _ | .resting ends => ends

/-- The flight has come to its end with this result. -/
def report (f : Flight) (now : Nat) (result : WorkRecord → Settlement)
    (confidence : Option Float) : Progress :=
  { events := [.ended now f.index]
    landing := .landed f.index (result ⟨now - f.begun, confidence, f.attempt⟩) }

/-- Begins an attempt.  One that takes no time is over at once, and `conclude` says what follows. -/
def launch (worker : Worker) (limit : Nat) (now : Nat) (f : Flight)
    (conclude : Except AttemptError Output → Progress) : Progress :=
  let a := (worker f.task f.attempt).within limit
  if a.latency = 0 then
    let p := conclude a.outcome
    { p with events := .began now f.index :: p.events }
  else
    { events := [.began now f.index]
      landing := .flying { f with phase := .attempting (now + a.latency) a.outcome } }

/-- The end of attempt number `attempt`, when `left` more may follow: the result, or a pause and
another attempt, which begins at once if there is no pause. -/
def conclude (worker : Worker) (config : SchedulerRules) (now : Nat) (f : Flight) :
    (left attempt : Nat) → Except AttemptError Output → Progress
  | _, attempt, .ok out =>
    report { f with attempt } now (.succeeded f.task out.payload) out.confidence
  | 0, attempt, .error e => report { f with attempt } now (.failed f.task e.message) none
  | left + 1, attempt, .error e =>
    if e.mayPass then
      let next := { f with attempt := attempt + 1, left }
      let delay := waitFor (config.backoff attempt)
      if delay = 0 then
        let p := launch worker config.timeout now next
          (conclude worker config now f left (attempt + 1))
        { p with events := .ended now f.index :: p.events }
      else
        { events := [.ended now f.index]
          landing := .flying { next with phase := .resting (now + delay) } }
    else report { f with attempt } now (.failed f.task e.message) none

/-- Goes on with a flight that is due. -/
def advance (worker : Worker) (config : SchedulerRules) (now : Nat) (f : Flight) : Progress :=
  match f.phase with
  | .attempting _ outcome => conclude worker config now f f.left f.attempt outcome
  | .resting _ => launch worker config.timeout now f
      (conclude worker config now f f.left f.attempt)
  | .waiting =>
    let f := { f with begun := now }
    launch worker config.timeout now f (conclude worker config now f f.left f.attempt)

/-- The work on a task that was just handed to a worker. -/
def fresh (config : SchedulerRules) (index : Nat) (task : Task) : Flight :=
  { index, task, attempt := 1, left := config.retryAttempts, begun := 0, phase := .waiting }

/-! ### Every step brings the end nearer -/

/-- A bound on the steps that the flight may still take. -/
def weight (f : Flight) : Nat :=
  match f.phase with
  | .attempting _ _ => 2 * f.left + 2
  | .waiting | .resting _ => 2 * f.left + 3

end Flight

/-- A bound on the steps that the work may still take; taking in a result is one of them. -/
def Landing.weight : Landing → Nat
  | .flying f => f.weight
  | .landed _ _ => 1

namespace Flight

theorem weight_launch_le {worker : Worker} {limit now : Nat} {f : Flight}
    {cont : Except AttemptError Output → Progress}
    (hc : ∀ o, (cont o).landing.weight ≤ 2 * f.left + 1) :
    (launch worker limit now f cont).landing.weight ≤ 2 * f.left + 2 := by
  simp only [launch]
  split
  · exact Nat.le_trans (hc _) (by omega)
  · simp [Landing.weight, weight]

theorem weight_conclude_le (worker : Worker) (config : SchedulerRules) (now : Nat)
    (f : Flight) (left attempt : Nat) (o : Except AttemptError Output) :
    (conclude worker config now f left attempt o).landing.weight ≤ 2 * left + 1 := by
  induction left generalizing attempt o with
  | zero => cases o <;> simp [conclude, report, Landing.weight]
  | succ left ih =>
    cases o with
    | ok out => simp [conclude, report, Landing.weight]
    | error e =>
      simp only [conclude]
      split
      · split
        · refine Nat.le_trans (weight_launch_le fun o => ih (attempt + 1) o) ?_
          simp only; omega
        · simp only [Landing.weight, weight]; omega
      · simp [report, Landing.weight]

theorem weight_advance_lt (worker : Worker) (config : SchedulerRules) (now : Nat)
    (f : Flight) : (advance worker config now f).landing.weight < f.weight := by
  unfold advance
  split
  · next hp =>
    have := weight_conclude_le worker config now f f.left f.attempt
    simp only [weight, hp]
    exact Nat.lt_of_le_of_lt (this _) (by omega)
  · next hp =>
    have : f.weight = 2 * f.left + 3 := by simp [weight, hp]
    rw [this]
    exact Nat.lt_of_le_of_lt
      (weight_launch_le fun o => weight_conclude_le worker config now f f.left f.attempt o)
      (by omega)
  · next hp =>
    have : f.weight = 2 * f.left + 3 := by simp [weight, hp]
    rw [this]
    refine Nat.lt_of_le_of_lt (weight_launch_le fun o =>
      weight_conclude_le worker config now { f with begun := now } f.left f.attempt o) ?_
    simp only; omega

end Flight

end Mockup.Schedule
