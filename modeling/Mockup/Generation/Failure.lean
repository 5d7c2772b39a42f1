import Mockup.Artifact.Assemble
import Mockup.Progress.Tracker
import Mockup.Schedule.Run
import Mockup.Schema.Fault
import Mockup.Schema.Review

/-!
# Why there is no mockup

* `RunFault`: the failures of a run;
* `Failure`: the failures of a request, with `Failure.message`.
-/

namespace Mockup

/-- The failures of a run: refused rules or tasks, tasks that never start, tasks in flight that
never report, cancellation at a stage, and a mockup that cannot be put together. -/
inductive RunFault where
  | config (fault : ConfigFault)
  | graph (fault : GraphFault)
  | stuck (waiting : Nat)
  | silent
  | cancelled (stage : Stage)
  | assembly (fault : AssemblyFault)
  deriving DecidableEq, Repr

namespace RunFault

def message : RunFault → String
  | .config fault => "scheduler error: " ++ fault.message
  | .graph fault => fault.message
  | .stuck n => "scheduler error: " ++ toString n ++ " task(s) can never become ready"
  | .silent => "scheduler error: completion channel closed unexpectedly"
  | .cancelled stage => "run was cancelled during " ++ stage.name
  | .assembly fault => fault.message

def ofRefused : Schedule.RefusedRun → RunFault
  | .config fault => .config fault
  | .graph fault => .graph fault

end RunFault

/-- The results of a run in which all tasks have settled. -/
def Schedule.Ending.results : Schedule.Ending → Except RunFault (List Settlement)
  | .finished results => .ok results
  | .cancelled => .error (.cancelled .running)
  | .stuck n => .error (.stuck n)
  | .silent => .error .silent

/-- The failures of a request: the parser, the review, or the run. -/
inductive Failure where
  | parse (error : Schema.ReadError)
  | review (errors : List Schema.Issue)
  | run (fault : RunFault)
  deriving DecidableEq, Repr

def Failure.message : Failure → String
  | .parse error => "Parse error: " ++ error.message
  | .review errors => "Schema validation failed with " ++ toString errors.length ++ " error(s)"
  | .run fault => "Pipeline error: " ++ fault.message

end Mockup
