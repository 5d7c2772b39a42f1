import Mockup.Artifact.Render
import Mockup.Config.Basic

/-!
# Workers at hand

* `builtinWorker`: renders every task, after a pause and with a confidence that are configured;
* `Script`, `scriptedWorker`: a worker whose pauses and failures are laid down beforehand.
-/

namespace Mockup.Schedule

def renderWith (confidence : Float) (task : Task) : Except AttemptError Output :=
  (outputFor task).map fun payload => { payload, confidence := some confidence }

/-- The worker that renders every task. -/
def builtinWorker (config : WorkerRules) : Worker :=
  fun task _ => { latency := config.latency, outcome := renderWith config.confidence task }

/-- A failure for the first `times` attempts at a task, or for all of them. -/
structure ScriptedFailure where
  task : String
  error : AttemptError
  times : Option Nat
  deriving DecidableEq, Repr

/-- Latencies in milliseconds, for all tasks and for single ones, and failures. -/
structure Script where
  latency : Nat := 0
  latencies : List (String × Nat) := []
  failures : List ScriptedFailure := []
  deriving DecidableEq, Repr

namespace Script

/-- The latency of every attempt at a task. -/
def latencyOf (s : Script) (id : String) : Nat :=
  (s.latencies.lookup id).getD s.latency

/-- The error of every attempt at a task, the last one that the script has for it. -/
def lasting? (s : Script) (id : String) : Option AttemptError :=
  ((s.failures.filter fun f => f.task == id && f.times.isNone).getLast?).map (·.error)

/-- The error of attempt number `k`, counted from zero, when each error of the list lasts for so
many attempts. -/
def nth? : List (AttemptError × Nat) → Nat → Option AttemptError
  | [], _ => none
  | (error, times) :: rest, k => if k < times then some error else nth? rest (k - times)

/-- The errors of a task that last for some attempts only. -/
def passing (s : Script) (id : String) : List (AttemptError × Nat) :=
  s.failures.filterMap fun f =>
    if f.task = id then f.times.map fun n => (f.error, n) else none

/-- The error of an attempt at a task, attempts being counted from one. -/
def failure? (s : Script) (id : String) (attempt : Nat) : Option AttemptError :=
  s.lasting? id <|> nth? (s.passing id) (attempt - 1)

end Script

/-- The worker that follows a script and renders what the script says nothing about. -/
def scriptedWorker (s : Script) : Worker :=
  fun task attempt =>
    { latency := s.latencyOf task.id
      outcome := match s.failure? task.id attempt with
        | some error => .error error
        | none => renderWith 1.0 task }

end Mockup.Schedule
