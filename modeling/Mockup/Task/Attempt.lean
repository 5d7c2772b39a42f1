import Mockup.Task.Basic

/-!
# Attempts and workers

* `AttemptError`: the errors of an attempt, with `AttemptError.mayPass`;
* `Attempt`: one attempt at a task, with its latency and its outcome;
* `Worker`: the attempts at each task;
* `waitFor`: the length of a wait;
* `durationText`: a span of time as messages give it.
-/

namespace Mockup

/-- A fraction of a second in milliseconds, without zeros at its end. -/
def fractionText (ms : Nat) : String :=
  let digits := [ms / 100 % 10, ms / 10 % 10, ms % 10]
  let kept := (digits.reverse.dropWhile (· == 0)).reverse
  String.ofList (kept.map fun d => Char.ofNat ('0'.toNat + d))

/-- A span of milliseconds: in seconds from one second on, in milliseconds below. -/
def durationText (ms : Nat) : String :=
  if ms = 0 then "0ns"
  else if ms < 1000 then toString ms ++ "ms"
  else if ms % 1000 = 0 then toString (ms / 1000) ++ "s"
  else toString (ms / 1000) ++ "." ++ fractionText (ms % 1000) ++ "s"

/-- The errors of an attempt.  `timeout` has the limit in milliseconds. -/
inductive AttemptError where
  | transient (message : String)
  | permanent (message : String)
  | timeout (limit : Nat)
  | cancelled
  deriving DecidableEq, Repr

namespace AttemptError

def message : AttemptError → String
  | .transient m => "transient failure: " ++ m
  | .permanent m => "permanent failure: " ++ m
  | .timeout limit => "attempt timed out after " ++ durationText limit
  | .cancelled => "run was cancelled"

/-- The errors after which another attempt is made. -/
def mayPass : AttemptError → Bool
  | .transient _ | .timeout _ => true
  | .permanent _ | .cancelled => false

end AttemptError

/-- An output of a worker, with its confidence. -/
structure Output where
  payload : Json
  confidence : Option Float
  deriving BEq, Repr

/-- One attempt at a task: its latency in milliseconds, and its outcome. -/
structure Attempt where
  latency : Nat
  outcome : Except AttemptError Output

/-- A worker: the attempts at each task, counted from one. -/
abbrev Worker := Task → Nat → Attempt

/-- Thirty years of 365 days, in milliseconds.  No wait is longer: the async runtime cuts off
deadlines beyond that, not the scheduler itself. -/
def longestWait : Nat := 30 * 365 * 24 * 60 * 60 * 1000

/-- The time for which a wait of this many milliseconds lasts, given the cut of the async runtime.
-/
def waitFor (ms : Nat) : Nat :=
  min ms longestWait

theorem waitFor_le (ms : Nat) : waitFor ms ≤ ms :=
  Nat.min_le_left _ _

/-- The attempt with a limit on its time.  Both the attempt and its limit are waits. -/
def Attempt.within (a : Attempt) (limit : Nat) : Attempt :=
  if waitFor a.latency ≤ waitFor limit then { a with latency := waitFor a.latency }
  else ⟨waitFor limit, .error (.timeout limit)⟩

theorem Attempt.latency_within (a : Attempt) (limit : Nat) :
    (a.within limit).latency ≤ limit := by
  unfold within
  split
  · exact Nat.le_trans ‹_› (waitFor_le limit)
  · exact waitFor_le limit

end Mockup
