import Mockup.Config.Codec
import Mockup.Config.Setting
import Mockup.Decimal.Reading

/-!
# Configurations out of settings

A setting of another type is converted where it can be: a truth value to zero or one, a text to the
number that it stands for, a real number to the next whole one.

* `Setting.word64?`, `Setting.word32?`, `Setting.number?`, `Setting.choice?`: the value that a
  setting is taken for;
* `Config.ofSettings`: the configuration that settings stand for; a field that is absent has its
  default, and what a configuration does not have is passed over.
-/

namespace Mockup

namespace Setting

/-- The truth value of a text such as `yes` or `off`. -/
def switch? (s : String) : Option Bool :=
  let word := Text.lower s
  if word ∈ ["true", "on", "yes"] then some true
  else if word ∈ ["false", "off", "no"] then some false
  else none

/-- A natural number below `2 ^ 64`. -/
def word64? : Setting → Option Nat
  | .int n => if 0 ≤ n then some n.toNat else none
  | .bool b => some b.toNat
  | .real x => some x.round.toUInt64.toNat
  | .text s => (switch? s).map Bool.toNat <|> Decimal.natural? UInt64.size s
  | .absent | .list _ | .table _ => none

/-- A natural number below `2 ^ 32`. -/
def word32? (v : Setting) : Option Nat :=
  v.word64?.filter (· < UInt32.size)

/-- A real number. -/
def number? : Setting → Option Float
  | .real x => some x
  | .int n => some (Float.ofInt n)
  | .bool b => some (Float.ofNat b.toNat)
  | .text s => (switch? s).map (Float.ofNat ·.toNat) <|> Decimal.real? s
  | .absent | .list _ | .table _ => none

/-- The value that goes by a name, whatever the case of its letters. -/
def named? {α : Type} (names : List (String × α)) (s : String) : Option α :=
  (names.find? fun (name, _) => Text.lower name == Text.lower s).map (·.2)

/-- One of several values, by its name: a text, or the only key of a table. -/
def choice? {α : Type} (names : List (String × α)) : Setting → Option α
  | .text s => named? names s
  | .table [(key, _)] => named? names key
  | _ => none

/-- The fields of a section: a table by key, or a list by place. -/
def fields? (names : List String) : Setting → Option (List (String × Setting))
  | .table ms => some ms
  | .list vs => some (names.zip vs)
  | _ => none

/-- The value of a field, or what it is by default. -/
def field? {α : Type} (fields : List (String × Setting)) (name : String)
    (read : Setting → Option α) (default : α) : Option α :=
  match fields.lookup name with
  | some v => read v
  | none => some default

end Setting

open Setting in
/-- The section that settings stand for. -/
def SchedulerRules.ofSetting? (v : Setting) : Option SchedulerRules := do
  let d : SchedulerRules := {}
  let fs ← v.fields? ["max_concurrency", "timeout_ms", "retry_attempts", "retry_base_delay_ms",
    "dependency_failure_policy"]
  return {
    maxConcurrency := ← field? fs "max_concurrency" word64? d.maxConcurrency
    timeout := ← field? fs "timeout_ms" word64? d.timeout
    retryAttempts := ← field? fs "retry_attempts" word32? d.retryAttempts
    retryBaseDelay := ← field? fs "retry_base_delay_ms" word64? d.retryBaseDelay
    policy := ← field? fs "dependency_failure_policy" (choice? FailurePolicy.names) d.policy }

open Setting in
/-- The section that settings stand for. -/
def EventRules.ofSetting? (v : Setting) : Option EventRules := do
  let d : EventRules := {}
  let fs ← v.fields? ["channel_capacity"]
  return { channelCapacity := ← field? fs "channel_capacity" word64? d.channelCapacity }

open Setting in
/-- The section that settings stand for. -/
def WorkerRules.ofSetting? (v : Setting) : Option WorkerRules := do
  let d : WorkerRules := {}
  let fs ← v.fields? ["simulated_latency_ms", "simulated_confidence"]
  return {
    latency := ← field? fs "simulated_latency_ms" word64? d.latency
    confidence := ← field? fs "simulated_confidence" number? d.confidence }

open Setting in
/-- The configuration that settings stand for, which may be out of its range. -/
def Config.ofSettings? (settings : Setting) : Option Config := do
  return {
    scheduler := ← field? settings.members "scheduler" SchedulerRules.ofSetting? {}
    events := ← field? settings.members "events" EventRules.ofSetting? {}
    executor := ← field? settings.members "executor" WorkerRules.ofSetting? {} }

/-- The configuration that settings stand for. -/
def Config.ofSettings (settings : Setting) : Except ConfigFault Config :=
  match ofSettings? settings with
  | none => .error .unreadable
  | some c => c.check.map fun () => c

end Mockup
