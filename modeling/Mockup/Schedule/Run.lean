import Mockup.Schedule.Board
import Mockup.Schedule.Flight
import Mockup.Task.Graph

/-!
# Runs

A coordinator hands tasks to workers, takes in their reports one at a time, and never has more tasks
in flight than the configuration allows.  Time passes only while the coordinator waits.

* `Cancellation`: the times at which a run is called off;
* `Job`: the tasks, the rules and the workers;
* `Run`: the board, the flights, the reports that were not taken in yet, and the trace so far;
* `Run.dispatch`, `Run.receive?`, `Run.wait`: settling and starting, taking in a report, waiting;
* `Run.step`: one round of the coordinator, made of these;
* `Run.finish`: rounds up to the end, which is reached because every round lowers `Run.weight`;
* `schedule`: a whole run, from a list of tasks to its ending.
-/

namespace Mockup.Schedule

/-- A run is called off before it starts, once this many tasks have settled, or at this time. -/
structure Cancellation where
  before : Bool := false
  afterSettled : Option Nat := none
  atTime : Option Nat := none
  deriving DecidableEq, Repr

/-- The tasks with their dependencies by place, the rules, the workers, and the cancellation. -/
structure Job where
  tasks : List Task
  config : SchedulerRules
  worker : Worker
  cancellation : Cancellation := {}
  table : List (List Nat) := dependencyTable tasks
  table_eq : table = dependencyTable tasks := by rfl

/-- A run under way: the board, the flights in the order in which they were last waited for, the
reports that were not taken in yet, the clock in milliseconds, and all events so far. -/
structure Run where
  board : Board
  flights : List Flight
  mailbox : List (Nat × Settlement)
  clock : Nat
  cancelled : Bool
  trace : List Event

/-- A run ends with all results, is cancelled, is stuck with tasks that can never start, or waits
for reports that never come. -/
inductive Ending where
  | finished (results : List Settlement)
  | cancelled
  | stuck (waiting : Nat)
  | silent
  deriving BEq, Repr

/-- A round ends the run or leads to another round. -/
inductive Outcome where
  | over (ending : Ending) (run : Run)
  | again (run : Run)

namespace Run

def fresh (job : Job) : Run :=
  { board := .fresh job.tasks.length, flights := [], mailbox := [], clock := 0,
    cancelled := job.cancellation.before, trace := [] }

/-- Takes in a settled task, upon which the run may be cancelled. -/
def settle (job : Job) (run : Run) (i : Nat) (state : Standing) (result : Settlement) : Run :=
  let board := run.board.settle i state result
  { run with
    board
    cancelled := run.cancelled || job.cancellation.afterSettled == some board.settled
    trace := run.trace ++ [.settled i result] }

def settleSkipped (job : Job) (run : Run) (i : Nat) : Run :=
  match job.tasks[i]? with
  | some task => run.settle job i .skipped
      (.skipped task (Board.blocker job.tasks job.table run.board.states i))
  | none => run

/-- Settles all tasks that can no longer run, if the rules say so. -/
def skipPhase (job : Job) (run : Run) : Run :=
  match job.config.policy with
  | .proceed => run
  | .skip =>
    let (skipped, states) := spreadSkips job.table run.board.states
    skipped.foldl (settleSkipped job) { run with board := { run.board with states } }

/-- Hands a task to a worker. -/
def start (job : Job) (run : Run) (i : Nat) : Run :=
  match run.board.start? i, job.tasks[i]? with
  | some board, some task =>
    { run with board, flights := run.flights ++ [.fresh job.config i task] }
  | _, _ => run

/-- Starts as many tasks as may be in flight. -/
def startPhase (job : Job) (run : Run) : Run :=
  let capacity := job.config.maxConcurrency - run.board.inFlight.length
  ((readyTasks job.config.policy job.tasks job.table run.board.states).take capacity).foldl
    (start job) run

/-- Goes on with all flights that are due at the given time. -/
def wake (job : Job) (run : Run) (now : Nat) : Run :=
  let progress := (run.flights.filter (·.isDue now)).map (Flight.advance job.worker job.config now)
  { run with
    flights := run.flights.filter (!·.isDue now) ++ progress.filterMap (·.landing.flight?)
    mailbox := run.mailbox ++ progress.filterMap (·.landing.report?)
    clock := now
    trace := run.trace ++ progress.flatMap (·.events) }

/-- The next time at which something is to be done on a flight. -/
def nextTime? (run : Run) : Option Nat :=
  (run.flights.map (·.nextTime run.clock)).min?

/-- Lets time pass until there is something to do. -/
def wait (job : Job) (run : Run) : Outcome :=
  match run.nextTime? with
  | none => .over .silent run
  | some next => match job.cancellation.atTime.map waitFor with
    | none => .again (run.wake job next)
    | some stop =>
      if run.clock < next ∧ stop ≤ next then
        .again { run.wake job stop with cancelled := true }
      else .again (run.wake job next)

/-- The coordinator's work before it listens: it settles blocked tasks and starts ready ones.
Either the run ends, or a task is in flight. -/
def dispatch (job : Job) (run : Run) : Outcome :=
  let n := job.tasks.length
  if n ≤ run.board.settled then .over (.finished (run.board.results.filterMap id)) run
  else if run.cancelled then .over .cancelled run
  else
    let run := run.skipPhase job
    if n ≤ run.board.settled then .over (.finished (run.board.results.filterMap id)) run
    else
      let run := run.startPhase job
      if run.board.inFlight.isEmpty then .over (.stuck (n - run.board.settled)) run
      else .again run

/-- Takes in the first report, if there is one. -/
def receive? (job : Job) (run : Run) : Option Run :=
  match run.mailbox with
  | [] => none
  | (i, result) :: mailbox =>
    some ({ run with mailbox }.settle job i (.ofSuccess result.success) result)

/-- One round of the coordinator: it dispatches, then takes in one report, or waits if there is
none. -/
def step (job : Job) (run : Run) : Outcome :=
  match run.dispatch job with
  | .over ending run => .over ending run
  | .again run =>
    if run.cancelled then .over .cancelled run
    else match run.receive? job with
      | some run => .again run
      | none => run.wait job

/-! ### Every round brings the end nearer -/

/-- A bound on the number of rounds that may still follow. -/
def weight (job : Job) (run : Run) : Nat :=
  run.board.pending * (2 * job.config.retryAttempts + 4) + weigh Flight.weight run.flights
    + run.mailbox.length + (!run.cancelled).toNat

theorem weight_le_of_pending_le {job : Job} {run run' : Run}
    (hp : run'.board.pending ≤ run.board.pending) (hf : run'.flights = run.flights)
    (hm : run'.mailbox = run.mailbox) (hc : run.cancelled = true → run'.cancelled = true) :
    run'.weight job ≤ run.weight job := by
  have hmul := Nat.mul_le_mul_right (2 * job.config.retryAttempts + 4) hp
  simp only [weight, hf, hm]
  cases h : run.cancelled
  · have := Bool.toNat_le (!run'.cancelled)
    simp only [Bool.not_false, Bool.toNat_true]; omega
  · simp only [hc h]; omega

theorem weight_settle_le (job : Job) (run : Run) (i : Nat) {state : Standing}
    (result : Settlement) (hs : state ≠ .pending) :
    (run.settle job i state result).weight job ≤ run.weight job :=
  weight_le_of_pending_le (run.board.pending_settle i result hs) rfl rfl
    fun h => by simp [settle, h]

theorem weight_settleSkipped_le (job : Job) (run : Run) (i : Nat) :
    (run.settleSkipped job i).weight job ≤ run.weight job := by
  unfold settleSkipped
  split
  · exact weight_settle_le job run i _ (by decide)
  · exact Nat.le_refl _

theorem weight_foldl_le {job : Job} {f : Run → Nat → Run}
    (hf : ∀ run i, (f run i).weight job ≤ run.weight job) (is : List Nat) (run : Run) :
    (is.foldl f run).weight job ≤ run.weight job := by
  induction is generalizing run with
  | nil => exact Nat.le_refl _
  | cons i is ih => exact Nat.le_trans (ih (f run i)) (hf run i)

theorem weight_skipPhase_le (job : Job) (run : Run) :
    (run.skipPhase job).weight job ≤ run.weight job := by
  unfold skipPhase
  split
  · exact Nat.le_refl _
  · refine Nat.le_trans (weight_foldl_le (weight_settleSkipped_le job) _ _) ?_
    exact weight_le_of_pending_le (count_spreadSkips_le job.table run.board.states) rfl rfl id

theorem weight_start_le (job : Job) (run : Run) (i : Nat) :
    (run.start job i).weight job ≤ run.weight job := by
  unfold start
  split
  · next board task hb _ =>
    have hp := Board.pending_start? hb
    have hmul := Nat.mul_le_mul_right (2 * job.config.retryAttempts + 4) hp
    rw [Nat.succ_mul] at hmul
    simp only [weight, weigh_append, weigh_cons, weigh_nil]
    have : (Flight.fresh job.config i task).weight = 2 * job.config.retryAttempts + 3 := rfl
    omega
  · exact Nat.le_refl _

theorem weight_startPhase_le (job : Job) (run : Run) :
    (run.startPhase job).weight job ≤ run.weight job :=
  weight_foldl_le (weight_start_le job) _ _

/-- The flights and the reports that progress leads to weigh what the landings weigh. -/
theorem weigh_landings (ps : List Progress) :
    weigh Flight.weight (ps.filterMap (·.landing.flight?))
      + (ps.filterMap (·.landing.report?)).length = weigh (·.landing.weight) ps := by
  induction ps with
  | nil => rfl
  | cons p ps ih =>
    rw [weigh_cons, ← ih]
    cases h : p.landing <;>
      simp only [List.filterMap_cons, h, Landing.flight?, Landing.report?, weigh_cons,
        List.length_cons, Landing.weight] <;> omega

theorem weigh_advance_le (job : Job) (now : Nat) (fs : List Flight) :
    weigh (fun f => (f.advance job.worker job.config now).landing.weight) fs + fs.length
      ≤ weigh Flight.weight fs := by
  induction fs with
  | nil => exact Nat.le_refl _
  | cons f fs ih =>
    have := Flight.weight_advance_lt job.worker job.config now f
    simp only [weigh_cons, List.length_cons]
    omega

theorem weight_wake_add_le (job : Job) (run : Run) (now : Nat) :
    (run.wake job now).weight job + (run.flights.filter (·.isDue now)).length
      ≤ run.weight job := by
  have h₁ := weigh_filter_add Flight.weight (·.isDue now) run.flights
  have h₂ := weigh_landings ((run.flights.filter (·.isDue now)).map
    (Flight.advance job.worker job.config now))
  have h₃ := weigh_advance_le job now (run.flights.filter (·.isDue now))
  rw [weigh_map] at h₂
  simp only [weight, wake, weigh_append, List.length_append]
  omega

theorem exists_isDue_of_nextTime? {run : Run} {next : Nat} (h : run.nextTime? = some next) :
    0 < (run.flights.filter (·.isDue next)).length := by
  have hmem := List.min?_mem h
  obtain ⟨f, hf, hn⟩ := List.mem_map.1 hmem
  refine List.length_pos_of_mem (a := f) (List.mem_filter.2 ⟨hf, ?_⟩)
  unfold Flight.nextTime at hn
  unfold Flight.isDue
  split at hn <;> simp_all

theorem weight_wait_lt {job : Job} {run run' : Run} (hc : run.cancelled = false)
    (h : run.wait job = .again run') : run'.weight job < run.weight job := by
  unfold wait at h
  split at h
  · cases h
  · next next hn =>
    have hdue := exists_isDue_of_nextTime? hn
    have hlt : (run.wake job next).weight job < run.weight job := by
      have := weight_wake_add_le job run next
      omega
    split at h
    · cases h; exact hlt
    · next stop _ =>
      split at h
      · cases h
        have := weight_wake_add_le job run stop
        simp only [weight, wake, hc] at this ⊢
        simp at this ⊢
        omega
      · cases h; exact hlt

theorem weight_dispatch_le {job : Job} {run run' : Run} (h : run.dispatch job = .again run') :
    run'.weight job ≤ run.weight job := by
  unfold dispatch at h
  simp only at h
  split at h
  · cases h
  split at h
  · cases h
  split at h
  · cases h
  split at h
  · cases h
  · cases h
    exact Nat.le_trans (weight_startPhase_le job _) (weight_skipPhase_le job run)

theorem weight_receive?_lt {job : Job} {run run' : Run} (h : run.receive? job = some run') :
    run'.weight job < run.weight job := by
  unfold receive? at h
  split at h
  · cases h
  · next i result mailbox hm =>
    cases h
    have hs : Standing.ofSuccess result.success ≠ .pending := by
      cases result.success <;> decide
    have hle := weight_settle_le job { run with mailbox } i result hs
    have hlt : { run with mailbox : Run }.weight job < run.weight job := by
      simp only [weight, hm, List.length_cons]; omega
    omega

/-- Every round lowers the weight. -/
theorem weight_step_lt {job : Job} {run run' : Run} (h : run.step job = .again run') :
    run'.weight job < run.weight job := by
  unfold step at h
  split at h
  · cases h
  · next run₁ hd =>
    have hle := weight_dispatch_le hd
    split at h
    · cases h
    · next hc =>
      split at h
      · next hr =>
        cases h
        exact Nat.lt_of_lt_of_le (weight_receive?_lt hr) hle
      · exact Nat.lt_of_lt_of_le (weight_wait_lt (by simpa using hc) h) hle

/-- Rounds up to the end of the run. -/
def finish (job : Job) (run : Run) : Ending × Run :=
  match _h : run.step job with
  | .over ending run => (ending, run)
  | .again run => finish job run
termination_by run.weight job
decreasing_by exact weight_step_lt _h

end Run

/-- The refusals of a job. -/
inductive RefusedRun where
  | config (fault : ConfigFault)
  | graph (fault : GraphFault)
  deriving DecidableEq, Repr

/-- A whole run: how it ends, and the run at its end. -/
def schedule (job : Job) : Except RefusedRun (Ending × Run) :=
  match job.config.check with
  | .error fault => .error (.config fault)
  | .ok () => match checkGraph job.tasks with
    | .error fault => .error (.graph fault)
    | .ok () => .ok ((Run.fresh job).finish job)

end Mockup.Schedule
