import Mockup.Artifact.Generated
import Mockup.Task.Basic

/-!
# Merging results

The results of all tasks in one value: what was generated, what failed, and figures.

* `productOf`: a result whose output has the wanted form, or the cause for which there is none;
* `Merged`: components, integration, failures and the times of accepted results, with
  `Merged.add` for one more result and `Merged.ofList` for all of them;
* `Merged.averageTime`: the mean of the times, whose sum has to fit in 64 bits;
* `merge`: all results with their average, unless the sum overflows.
-/

namespace Mockup

/-- An output of the form that its task asks for. -/
inductive Product where
  | component (c : ComponentCode)
  | integration (b : Integration)
  deriving DecidableEq, Repr

def badOutput (cause : String) : String :=
  "invalid output: " ++ cause

/-- The output of a task of this kind. -/
def readOutput (kind : WorkKind) (output : Json) : Except Json.Mismatch Product :=
  match kind with
  | .component => (ComponentCode.reader output).map .component
  | .integration => (Integration.reader output).map .integration

/-- The output of a result, if the task ended well and the output has the wanted form. -/
def productOf (r : Settlement) : Except String Product :=
  if !r.success then .error (r.error.getD "unknown error")
  else match r.output with
    | none => .error (badOutput "missing payload")
    | some output => (readOutput r.kind output).mapError fun m => badOutput m.message

/-- A task without an output, and the cause. -/
structure MissingOutput where
  taskId : String
  error : String
  deriving DecidableEq, Repr

/-- The failures of `merge`. -/
inductive MergeFault where
  | timeOverflow
  deriving DecidableEq, Repr

/-- The sum of two times, checked to fit in 64 bits. -/
def addTime (sum time : Nat) : Except MergeFault Nat :=
  if sum + time < UInt64.size then .ok (sum + time) else .error .timeOverflow

/-- All results in one value: the components, the first routes, the tasks without an output, and the
times of the accepted results in milliseconds, each in the order of the results. -/
structure Merged where
  components : List ComponentCode := []
  integration : Option Integration := none
  failures : List MissingOutput := []
  times : List Nat := []
  deriving DecidableEq, Repr

namespace Merged

/-- One more result.  Routes after the first ones are dropped, but their time counts. -/
def add (m : Merged) (r : Settlement) : Merged :=
  match productOf r with
  | .ok (.component c) =>
    { m with components := m.components ++ [c], times := m.times ++ [r.metadata.processingTime] }
  | .ok (.integration b) =>
    { m with
      integration := m.integration <|> some b
      times := m.times ++ [r.metadata.processingTime] }
  | .error error => { m with failures := m.failures ++ [⟨r.taskId, error⟩] }

def successful (m : Merged) : Nat :=
  m.times.length

def failed (m : Merged) : Nat :=
  m.failures.length

def total (m : Merged) : Nat :=
  m.successful + m.failed

/-- The sum of the times. -/
def timeSum (m : Merged) : Except MergeFault Nat :=
  m.times.foldlM addTime 0

/-- The mean of the times, if there are any. -/
def averageTime (m : Merged) : Except MergeFault (Option Float) :=
  if m.times.isEmpty then .ok none
  else m.timeSum.map fun sum => some (sum.toUInt64.toFloat / m.times.length.toUInt64.toFloat)

/-- The loop over all results. -/
def ofList (results : List Settlement) : Merged :=
  results.foldl add {}

theorem total_add (m : Merged) (r : Settlement) : (m.add r).total = m.total + 1 := by
  unfold add
  split <;> simp [total, successful, failed] <;> omega

theorem total_foldl_add (results : List Settlement) (m : Merged) :
    (results.foldl add m).total = m.total + results.length := by
  induction results generalizing m with
  | nil => rfl
  | cons r rs ih => rw [List.foldl_cons, ih, total_add, List.length_cons]; omega

theorem total_ofList (results : List Settlement) : (ofList results).total = results.length :=
  (total_foldl_add results {}).trans (Nat.zero_add _)

end Merged

/-- All results in one value.  The sum of the times of accepted results is checked: without such
checks it would start over at `UInt64.size`, and with it the average. -/
def merge (results : List Settlement) : Except MergeFault Merged :=
  let merged := Merged.ofList results
  merged.averageTime.map fun _ => merged

end Mockup
