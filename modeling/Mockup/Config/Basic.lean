import Mockup.Decimal.Layout

/-!
# Configuration

* `SchedulerRules`, `EventRules`, `WorkerRules`: the three sections, with their defaults;
* `Config`: all of them;
* `SchedulerRules.check`, `Config.check`: the first value that is out of its range;
* `SchedulerRules.backoff`: the pause before another attempt.
-/

namespace Mockup

/-- The greatest number of 64 bits. -/
def maxWord64 : Nat := UInt64.size - 1

/-- A task of which a dependency fails is skipped, or it starts once all its dependencies have
settled. -/
inductive FailurePolicy where
  | skip
  | proceed
  deriving DecidableEq, Repr

/-- The rules of the scheduler: the number of tasks in flight at one time, the milliseconds for one
attempt, the number of attempts after the first one, the milliseconds before the second attempt, and
the policy for failed dependencies. -/
structure SchedulerRules where
  maxConcurrency : Nat := 3
  timeout : Nat := 30000
  retryAttempts : Nat := 2
  retryBaseDelay : Nat := 100
  policy : FailurePolicy := .skip
  deriving DecidableEq, Repr

/-- The number of events that are kept for receivers that lag behind. -/
structure EventRules where
  channelCapacity : Nat := 256
  deriving DecidableEq, Repr

/-- The milliseconds and the confidence of the built-in worker. -/
structure WorkerRules where
  latency : Nat := 25
  confidence : Float := 0.85
  deriving DecidableEq, Repr

structure Config where
  scheduler : SchedulerRules := {}
  events : EventRules := {}
  executor : WorkerRules := {}
  deriving DecidableEq, Repr

/-- The refusals of a configuration: three values must not be zero, and the confidence lies between
zero and one. -/
inductive ConfigFault where
  | noConcurrency
  | noTimeout
  | noCapacity
  | confidenceOutside (found : Float)
  | unreadable
  deriving DecidableEq, Repr

def ConfigFault.message : ConfigFault → String
  | .noConcurrency => "Configuration error: scheduler.max_concurrency must be greater than 0"
  | .noTimeout => "Configuration error: scheduler.timeout_ms must be greater than 0"
  | .noCapacity => "Configuration error: events.channel_capacity must be greater than 0"
  | .confidenceOutside x =>
    "Configuration error: executor.simulated_confidence must be within 0.0..=1.0, got "
      ++ Decimal.plain x
  | .unreadable => "Configuration error"

namespace SchedulerRules

/-- Refuses rules under which no run could end. -/
def check (c : SchedulerRules) : Except ConfigFault Unit :=
  if c.maxConcurrency = 0 then .error .noConcurrency
  else if c.timeout = 0 then .error .noTimeout
  else .ok ()

theorem check_eq_ok_iff {c : SchedulerRules} :
    c.check = .ok () ↔ 0 < c.maxConcurrency ∧ 0 < c.timeout := by
  unfold check
  split
  · simp_all
  · split
    · simp_all
    · simp; omega

/-- The pause after an attempt, in milliseconds: it doubles with each attempt, sixteen times at the
most, and never passes the greatest number of 64 bits. -/
def backoff (c : SchedulerRules) (attempt : Nat) : Nat :=
  min (c.retryBaseDelay <<< min (attempt - 1) 16) maxWord64

end SchedulerRules

/-- Refuses a configuration with a value out of its range. -/
def Config.check (c : Config) : Except ConfigFault Unit := do
  c.scheduler.check
  if c.events.channelCapacity = 0 then throw .noCapacity
  unless 0.0 ≤ c.executor.confidence ∧ c.executor.confidence ≤ 1.0 do
    throw (.confidenceOutside c.executor.confidence)

end Mockup
