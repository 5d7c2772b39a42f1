import Mockup.Json.Basic
import Mockup.Text.Sorted

/-!
# Tasks and their results

* `Task`: one unit of work, with its dependencies;
* `Settlement`: the result of a task, with `Settlement.succeeded`, `failed` and `skipped`.
-/

namespace Mockup

/-- The kinds of tasks: a component for one view, or the routes that join all components. -/
inductive WorkKind where
  | component
  | integration
  deriving DecidableEq, Repr

/-- The form of an output: its name, the component that it is, and the members that it must have. -/
structure OutputForm where
  format : String
  componentName : Option String
  requiredFields : List String
  deriving DecidableEq, Repr

/-- One unit of work.  Of the tasks that may start, those with a higher priority start first;
dependencies are names of tasks, in rising order and each once. -/
structure Task where
  id : String
  kind : WorkKind
  prompt : String
  context : Json
  expectedOutput : OutputForm
  priority : Int
  dependencies : List String
  deriving BEq, Repr

/-- The milliseconds that the work took, the confidence in the output, and the number of attempts.
-/
structure WorkRecord where
  processingTime : Nat
  confidence : Option Float
  attempts : Nat
  deriving DecidableEq, Repr

/-- The result of a task: an output or an error, and the record of the work. -/
structure Settlement where
  taskId : String
  kind : WorkKind
  success : Bool
  output : Option Json
  error : Option String
  metadata : WorkRecord
  deriving BEq, Repr

namespace Settlement

def succeeded (task : Task) (output : Json) (metadata : WorkRecord) : Settlement :=
  { taskId := task.id, kind := task.kind, success := true, output := some output, error := none,
    metadata }

def failed (task : Task) (error : String) (metadata : WorkRecord) : Settlement :=
  { taskId := task.id, kind := task.kind, success := false, output := none, error := some error,
    metadata }

/-- The result of a task that is not run because a task that it depends on did not complete. -/
def skipped (task : Task) (blocker : String) : Settlement :=
  failed task ("skipped: dependency " ++ blocker ++ " did not complete")
    { processingTime := 0, confidence := none, attempts := 0 }

/-- The task settled without an attempt. -/
def isSkipped (r : Settlement) : Bool :=
  r.metadata.attempts == 0 && !r.success

end Settlement

end Mockup
