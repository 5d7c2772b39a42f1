import Mockup.Config.Basic
import Mockup.Json.Record

/-!
# Configuration as data

* `Config.toJson`, `Config.reader`: a configuration as a data value, and back; every absent value
  has its default.
-/

namespace Mockup

open Json (Reader record)

def FailurePolicy.names : List (String × FailurePolicy) :=
  [("skip", .skip), ("proceed", .proceed)]

def FailurePolicy.name : FailurePolicy → String
  | .skip => "skip"
  | .proceed => "proceed"

namespace SchedulerRules

def toJson (c : SchedulerRules) : Json :=
  .object [("max_concurrency", .nat c.maxConcurrency), ("timeout_ms", .nat c.timeout),
    ("retry_attempts", .nat c.retryAttempts), ("retry_base_delay_ms", .nat c.retryBaseDelay),
    ("dependency_failure_policy", .text c.policy.name)]

def reader : Reader SchedulerRules :=
  let d : SchedulerRules := {}
  record "SchedulerRules" ["max_concurrency", "timeout_ms", "retry_attempts",
      "retry_base_delay_ms", "dependency_failure_policy"] fun src =>
    SchedulerRules.mk <$> src.defaulted "max_concurrency" .size d.maxConcurrency
      <*> src.defaulted "timeout_ms" .word64 d.timeout
      <*> src.defaulted "retry_attempts" .word32 d.retryAttempts
      <*> src.defaulted "retry_base_delay_ms" .word64 d.retryBaseDelay
      <*> src.defaulted "dependency_failure_policy" (.variant FailurePolicy.names) d.policy

end SchedulerRules

namespace EventRules

def toJson (c : EventRules) : Json :=
  .object [("channel_capacity", .nat c.channelCapacity)]

def reader : Reader EventRules :=
  record "EventRules" ["channel_capacity"] fun src =>
    EventRules.mk <$> src.defaulted "channel_capacity" .size ({} : EventRules).channelCapacity

end EventRules

namespace WorkerRules

def toJson (c : WorkerRules) : Json :=
  .object [("simulated_latency_ms", .nat c.latency),
    ("simulated_confidence", .real c.confidence)]

def reader : Reader WorkerRules :=
  let d : WorkerRules := {}
  record "WorkerRules" ["simulated_latency_ms", "simulated_confidence"] fun src =>
    WorkerRules.mk <$> src.defaulted "simulated_latency_ms" .word64 d.latency
      <*> src.defaulted "simulated_confidence" .real d.confidence

end WorkerRules

namespace Config

def toJson (c : Config) : Json :=
  .object [("scheduler", c.scheduler.toJson), ("events", c.events.toJson),
    ("executor", c.executor.toJson)]

def reader : Reader Config :=
  record "Config" ["scheduler", "events", "executor"] fun src =>
    Config.mk <$> src.defaulted "scheduler" SchedulerRules.reader {}
      <*> src.defaulted "events" EventRules.reader {}
      <*> src.defaulted "executor" WorkerRules.reader {}

end Config

end Mockup
