import Mockup.Task.Basic

/-!
# Progress of a run

* `Stage`: the stages of a run, with the percentage at which each begins;
* `Report`: one report of progress;
* `Milestone`: the milestones of a run;
* `Tracker`: the reports so far; `Tracker.reach` adds the report for a milestone.  Percentages never
  fall, and nothing is reported after the run is over.
-/

namespace Mockup

/-- The stages of a run. -/
inductive Stage where
  | reading
  | suggesting
  | planning
  | running
  | merging
  | assembling
  | complete
  | error
  deriving DecidableEq, Repr

namespace Stage

def all : List Stage :=
  [.reading, .suggesting, .planning, .running, .merging,
   .assembling, .complete, .error]

def name : Stage → String
  | .reading => "parsing"
  | .suggesting => "mapping"
  | .planning => "prompt_creation"
  | .running => "subagent_coordination"
  | .merging => "response_validation"
  | .assembling => "prototype_creation"
  | .complete => "complete"
  | .error => "error"

def names : List (String × Stage) :=
  all.map fun s => (s.name, s)

/-- The percentage at which the stage begins. -/
def percent : Stage → Nat
  | .reading => 5
  | .suggesting => 15
  | .planning => 25
  | .running => 35
  | .merging => 85
  | .assembling => 92
  | .complete => 100
  | .error => 0

/-- The stages at which a run is over. -/
def endsRun : Stage → Bool
  | .complete | .error => true
  | _ => false

end Stage

/-- A report of progress, with the cause if the run has failed. -/
structure Report where
  stage : Stage
  percent : Nat
  message : String
  error : Option String
  deriving DecidableEq, Repr

/-- A report without an error; there is no more than 100 percent. -/
def Report.plain (stage : Stage) (percent : Nat) (message : String) : Report :=
  { stage, percent := min percent 100, message, error := none }

/-- The milestones of a run: a stage begins, a task settles as the `count`-th of `total`, or the run
ends. -/
inductive Milestone where
  | entered (stage : Stage) (message : String)
  | settled (count total : Nat)
  | completed (message : String)
  | failed (error : String)
  deriving DecidableEq, Repr

/-- The share of the tasks in the fifty percent that are theirs, in 32 bits.  The product wraps, as
it does without overflow checks: with them the source fails from `50 * total = 2 ^ 32` on, and in
every build it fails if `total` is a positive multiple of `2 ^ 32`, where the divisor is zero. -/
def runningShare (count total : Nat) : Nat :=
  if total = 0 then 50 else 50 * min count total % UInt32.size / (total % UInt32.size)

/-- The percentage once so many tasks of all have settled, in 8 bits. -/
def runningPercent (count total : Nat) : Nat :=
  min (Stage.running.percent + runningShare count total % UInt8.size) (UInt8.size - 1)

/-- The percentage reached, whether the run is over, and all reports so far, in order. -/
structure Tracker where
  percent : Nat := 0
  finished : Bool := false
  history : List Report := []
  deriving DecidableEq, Repr

namespace Tracker

/-- One more report, unless the run is over. -/
def report (t : Tracker) (stage : Stage) (percent : Nat) (message : String)
    (error : Option String) : Tracker :=
  if t.finished then t
  else
    let percent := max t.percent (min percent 100)
    { percent
      finished := stage.endsRun
      history := t.history ++ [{ Report.plain stage percent message with error }] }

/-- The report for a milestone. -/
def reach (t : Tracker) : Milestone → Tracker
  | .entered stage message => t.report stage stage.percent message none
  | .settled count total =>
    t.report .running (runningPercent count total)
      (toString count ++ "/" ++ toString total ++ " generation tasks settled") none
  | .completed message => t.report .complete 100 message none
  | .failed error => t.report .error t.percent ("Generation failed: " ++ error) (some error)

def reachAll (t : Tracker) (ms : List Milestone) : Tracker :=
  ms.foldl reach t

theorem report_of_finished {t : Tracker} (h : t.finished = true) (stage : Stage) (percent : Nat)
    (message : String) (error : Option String) : t.report stage percent message error = t := by
  simp [report, h]

theorem reach_of_finished {t : Tracker} (h : t.finished = true) (m : Milestone) :
    t.reach m = t := by
  cases m <;> exact report_of_finished h _ _ _ _

end Tracker

/-- The events of a run: reports of progress, and tasks that settle. -/
inductive RunEvent where
  | progress (r : Report)
  | taskCompleted (r : Settlement)
  deriving BEq, Repr

def RunEvent.isProgress : RunEvent → Bool
  | .progress _ => true
  | .taskCompleted _ => false

end Mockup
