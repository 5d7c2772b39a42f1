import Mockup.Generation.Failure
import Mockup.Progress.Channel
import Mockup.Schedule.Trace
import Mockup.Schedule.Worker
import Mockup.Schema.Parser
import Mockup.Store.Basic
import Mockup.Task.Plan
import Mockup.View.Suggest

/-!
# From a request to a stored mockup

The schema is reviewed and read, views are suggested, tasks are planned and run, their results are
merged, and the mockup is put together and stored.

* `readSchema`: the schema of a text that passes the review;
* `Step`: the steps that listeners are told of, and `Session` all that they were told so far;
* `Outcome`: the product of a run that ends well;
* `Generation`: a whole run, with its steps, its ending and the store after it;
* `Generator`: the rules and the workers; `Generator.run` is the run for a request.
-/

namespace Mockup

/-- The schema of a text, which has to pass the review first. -/
def readSchema (text : String) : Except Failure Schema :=
  let issues := Schema.review text
  if Schema.sound issues then (Schema.parse text).mapError .parse
  else .error (.review (Schema.errorsOf issues))

/-- The steps that listeners are told of: milestones, and tasks that settle. -/
inductive Step where
  | milestone (m : Milestone)
  | task (r : Settlement)
  deriving BEq, Repr

/-- The steps that follow from tasks that settle one after the other, `count` of `total` having
settled before. -/
def settlingSteps (total : Nat) (count : Nat) : List Settlement → List Step
  | [] => []
  | r :: rs =>
    .task r :: .milestone (.settled (count + 1) total) :: settlingSteps total (count + 1) rs

/-- The tracker, and all events published so far. -/
structure Session where
  tracker : Tracker := {}
  events : List RunEvent := []
  deriving BEq, Repr

namespace Session

/-- Tells listeners of one more step. -/
def tell (s : Session) : Step → Session
  | .task r => { s with events := s.events ++ [.taskCompleted r] }
  | .milestone m =>
    let tracker := s.tracker.reach m
    let new := tracker.history.drop s.tracker.history.length
    { tracker, events := s.events ++ new.map .progress }

end Session

/-- The product of a run that ends well: the views, the results of the tasks, and the mockup, also
as stored. -/
structure Outcome where
  suggestions : List Suggestion
  results : List Settlement
  artifact : Artifact
  stored : StoredMockup
  deriving BEq, Repr

/-- No task is without an accepted output. -/
def Outcome.isComplete (o : Outcome) : Bool :=
  o.artifact.merged.failed == 0

/-- A whole run: its steps, the run of its tasks if there was one, its outcome, and the store after
it. -/
structure Generation where
  steps : List Step
  run : Option Schedule.Run
  outcome : Except Failure Outcome
  store : Store

namespace Generation

def session (g : Generation) : Session :=
  g.steps.foldl Session.tell {}

def reports (g : Generation) : List Report :=
  g.session.tracker.history

/-- The results of the tasks in the order in which they settled. -/
def settled (g : Generation) : List Settlement :=
  match g.run with
  | some run => Schedule.completions run.trace
  | none => []

/-- The milliseconds that the tasks took. -/
def duration (g : Generation) : Nat :=
  match g.run with
  | some run => run.clock
  | none => 0

end Generation

namespace Generation

def failing (store : Store) (steps : List Step) (run : Option Schedule.Run) (failure : Failure) :
    Generation :=
  { steps := steps ++ [.milestone (.failed failure.message)]
    run
    outcome := .error failure
    store }

end Generation

def entering (stage : Stage) (message : String) : Step :=
  .milestone (.entered stage message)

/-- The name and the time under which a mockup is stored. -/
structure Ticket where
  id : StoreId
  now : Nat
  deriving DecidableEq, Repr

structure Generator where
  config : Config
  worker : Worker

namespace Generator

/-- A generator, unless the rules are out of their range. -/
def create? (config : Config) (worker : Worker) : Except ConfigFault Generator :=
  config.check.map fun () => { config, worker }

/-- The generator with the built-in worker. -/
def builtin? (config : Config) : Except ConfigFault Generator :=
  create? config (Schedule.builtinWorker config.executor)

/-- The tasks for a schema, with the rules that the request asks for. -/
def jobFor (g : Generator) (request : Request) (cancellation : Schedule.Cancellation)
    (schema : Schema) : Schedule.Job :=
  { tasks := planTasks request.preferences (suggest schema)
    config := request.schedulerRules g.config.scheduler
    worker := g.worker
    cancellation }

/-- The stages up to the run of the tasks, once the schema has been read. -/
def planningSteps (schema : Schema) (job : Schedule.Job) : List Step :=
  [entering .suggesting ("Mapping " ++ toString schema.tables.length ++ " table(s) to views"),
   entering .planning
    ("Creating tasks for " ++ toString (suggest schema).length ++ " view suggestion(s)"),
   entering .running
    ("Running " ++ toString job.tasks.length ++ " generation task(s)")]

def closingMessage (m : Merged) : String :=
  "Generated " ++ toString m.components.length ++ " component(s), " ++ toString m.failed
    ++ " task(s) failed"

/-- Merges the results, puts the mockup together and stores it.  The times of the results are taken
from the clock of the run and are supposed to add up to less than `UInt64.size`, so that `merge`
does not fail. -/
def conclude (store : Store) (ticket : Ticket) (request : Request) (schema : Schema)
    (steps : List Step) (run : Schedule.Run) (results : List Settlement) : Generation :=
  let steps := steps ++ [entering .merging "Validating generated output",
    entering .assembling "Assembling prototype"]
  let merged := Merged.ofList results
  match assemble request schema merged with
  | .error fault => .failing store steps run (.run (.assembly fault))
  | .ok artifact =>
    if run.cancelled then .failing store steps run (.run (.cancelled .assembling))
    else
      let (store, stored) := store.create ticket.id ticket.now artifact []
      { steps := steps ++ [.milestone (.completed (closingMessage merged))]
        run
        outcome := .ok { suggestions := suggest schema, results, artifact, stored }
        store }

/-- The run once the schema has been read: tasks are planned and run. -/
def runFrom (g : Generator) (store : Store) (ticket : Ticket) (request : Request)
    (cancellation : Schedule.Cancellation) (steps : List Step) (schema : Schema) : Generation :=
  let job := g.jobFor request cancellation schema
  let steps := steps ++ planningSteps schema job
  match Schedule.schedule job with
  | .error refused => .failing store steps none (.run (.ofRefused refused))
  | .ok (ending, run) =>
    let steps := steps
      ++ settlingSteps job.tasks.length 0 (Schedule.completions run.trace)
    match ending.results with
    | .error fault => .failing store steps run (.run fault)
    | .ok results => conclude store ticket request schema steps run results

/-- The run for a request. -/
def run (g : Generator) (store : Store) (ticket : Ticket) (request : Request)
    (cancellation : Schedule.Cancellation) : Generation :=
  let steps := [entering .reading "Validating and parsing schema"]
  match readSchema request.schemaText with
  | .error failure => .failing store steps none failure
  | .ok schema =>
    if cancellation.before then .failing store steps none (.run (.cancelled .reading))
    else g.runFrom store ticket request cancellation steps schema

end Generator

end Mockup
