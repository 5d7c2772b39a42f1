import Mathlib.Data.Set.Card
import Mockup.Proofs.Schedule.Course
import Mockup.Proofs.Schedule.Results

/-!
# Which tasks are started

When the coordinator starts tasks it takes those that may be started from the highest priority on,
and of tasks with the same priority those that stand first in the list.  It leaves none waiting for
which there is room.

* `Startable`: a task may be started, with `mem_readyTasks_iff`;
* `Ahead`: one task is ahead of another, with `pairwise_readyTasks`;
* `Board.Sound.count_executing`: the number of executing tasks;
* `Run.Starts`: the start of tasks, with `Run.Books.starts`;
* `Run.AtWork`: there is nothing that the coordinator could start, with `Reached.atWork`;
* `starts_by_priority`: so it is in every run, whenever tasks are started and whenever the
  coordinator waits.
-/

namespace Mockup.Schedule

/-! ### The order in which tasks are started -/

/-- The task at a place may be started: it is pending, and all that it depends on has come to what
the rules ask for. -/
def Startable (job : Job) (states : List Standing) (i : Nat) : Prop :=
  states[i]? = some .pending ∧ ∀ d, DependsOn job.tasks i d → Met job.config.policy states d

/-- The task at place `i` is ahead of the one at place `j`: it has a higher priority, or the same
one and an earlier place. -/
def Ahead (tasks : List Task) (i j : Nat) : Prop :=
  ∃ t u, tasks[i]? = some t ∧ tasks[j]? = some u ∧
    (u.priority < t.priority ∨ u.priority = t.priority ∧ i < j)

variable {job : Job} {states : List Standing} {i j : Nat}

theorem mem_readyTasks_iff (hgraph : Runnable job.tasks) :
    i ∈ readyTasks job.config.policy job.tasks job.table states ↔ Startable job states i := by
  simp only [mem_readyTasks, Startable, Job.mem_table hgraph]

theorem ncard_startable (hgraph : Runnable job.tasks) :
    {i | Startable job states i}.ncard
      = (readyTasks job.config.policy job.tasks job.table states).length := by
  have hset : {i | Startable job states i}
      = ↑(readyTasks job.config.policy job.tasks job.table states).toFinset := by
    ext i
    simp only [Set.mem_ofPred_eq, List.coe_toFinset, mem_readyTasks_iff hgraph]
  rw [hset, Set.ncard_coe_finset, List.toFinset_card_of_nodup nodup_readyTasks]

/-- Comparing priorities is a way to sort tasks. -/
theorem priorityAt_trans {tasks : List Task} (a b c : Nat)
    (hab : decide (priorityAt tasks b ≤ priorityAt tasks a) = true)
    (hbc : decide (priorityAt tasks c ≤ priorityAt tasks b) = true) :
    decide (priorityAt tasks c ≤ priorityAt tasks a) = true := by
  simp only [decide_eq_true_eq] at *
  exact hbc.trans hab

theorem priorityAt_total {tasks : List Task} (a b : Nat) :
    (decide (priorityAt tasks b ≤ priorityAt tasks a)
      || decide (priorityAt tasks a ≤ priorityAt tasks b)) = true := by
  simp only [Bool.or_eq_true, decide_eq_true_eq]
  exact le_total _ _

section Order

variable {policy : FailurePolicy} {tasks : List Task} {table : List (List Nat)}

/-- Sorting leaves tasks of one priority in the order of the list. -/
theorem filter_readyTasks (p : Int) :
    (readyTasks policy tasks table states).filter (priorityAt tasks · = p)
      = (satisfiedTasks policy table states).filter (priorityAt tasks · = p) := by
  have hsame : ((satisfiedTasks policy table states).filter (priorityAt tasks · = p)).Pairwise
      fun a b => decide (priorityAt tasks b ≤ priorityAt tasks a) = true := by
    refine List.pairwise_of_forall_mem_list fun a ha b hb => ?_
    simp only [List.mem_filter, decide_eq_true_eq] at ha hb
    simp [ha.2, hb.2]
  have hkept := (List.sublist_mergeSort priorityAt_trans priorityAt_total hsame
    List.filter_sublist).filter (priorityAt tasks · = p)
  rw [List.filter_filter] at hkept
  simp only [Bool.and_self] at hkept
  exact (hkept.eq_of_length ((List.mergeSort_perm _ _).filter _).length_eq.symm).symm

/-- The tasks that may start stand in the order of their priorities, and in that of the list where
these are the same. -/
theorem pairwise_readyTasks (hlen : states.length = tasks.length) :
    (readyTasks policy tasks table states).Pairwise (Ahead tasks) := by
  have hsorted := List.pairwise_mergeSort priorityAt_trans (@priorityAt_total tasks)
    (satisfiedTasks policy table states)
  have hplaces : (satisfiedTasks policy table states).Pairwise (· < ·) :=
    List.pairwise_lt_range.filter _
  refine List.pairwise_iff_forall_sublist.2 fun {i j} hij => ?_
  have htask : ∀ k ∈ [i, j], ∃ t, tasks[k]? = some t ∧ priorityAt tasks k = t.priority := by
    intro k hk
    have hp := (mem_readyTasks.1 (hij.subset hk)).1
    have hlt : k < tasks.length := hlen ▸ (List.getElem?_eq_some_iff.1 hp).1
    exact ⟨tasks[k], List.getElem?_eq_getElem hlt, by simp [priorityAt, hlt]⟩
  obtain ⟨t, ht, hti⟩ := htask i (by simp)
  obtain ⟨u, hu, huj⟩ := htask j (by simp)
  have hle : u.priority ≤ t.priority :=
    hti ▸ huj ▸ of_decide_eq_true (List.pairwise_iff_forall_sublist.1 hsorted hij)
  refine ⟨t, u, ht, hu, hle.lt_or_eq.imp_right fun heq => ⟨heq, ?_⟩⟩
  have hsub := hij.filter (priorityAt tasks · = t.priority)
  rw [filter_readyTasks, List.filter_eq_self.2 (by simp [hti, huj, heq])] at hsub
  exact List.pairwise_iff_forall_sublist.1 hplaces (hsub.trans List.filter_sublist)

end Order

/-! ### Starting tasks -/

/-- In flight are the tasks that are executing, so that their numbers are the same. -/
theorem Board.Sound.count_executing {n : Nat} {due : List Nat} {b : Board} (h : b.Sound n due) :
    b.states.count .executing = b.inFlight.length := by
  have hplaces : b.states.map some = (List.range b.states.length).map (b.states[·]?) := by
    refine List.ext_getElem (by simp) fun i hi _ => ?_
    rw [List.length_map] at hi
    simp [hi]
  have hperm : b.inFlight.Perm
      ((List.range b.states.length).filter (b.states[·]? == some .executing)) := by
    refine (List.perm_ext_iff_of_nodup h.nodup_inFlight (List.nodup_range.filter _)).2 fun i => ?_
    simp only [h.mem_inFlight i, List.mem_filter, List.mem_range, beq_iff_eq, iff_and_self]
    exact fun hi => (List.getElem?_eq_some_iff.1 hi).1
  calc b.states.count .executing
      = (b.states.map some).count (some .executing) :=
        (List.count_map_of_injective _ _ (Option.some_injective _) _).symm
    _ = (List.range b.states.length).countP (b.states[·]? == some .executing) := by
        rw [hplaces, List.count, List.countP_map]
        rfl
    _ = b.inFlight.length := by rw [List.countP_eq_length_filter, hperm.length_eq]

/-- Between two runs the tasks of a list are started, in its order. -/
structure Run.Starts (job : Job) (run run' : Run) (started : List Nat) : Prop where
  startable : ∀ i ∈ started, Startable job run.board.states i
  length_eq : started.length = min
    (job.config.maxConcurrency - run.board.states.count .executing)
    {i | Startable job run.board.states i}.ncard
  pairwise_ahead : started.Pairwise (Ahead job.tasks)
  ahead_of_left : ∀ i ∈ started, ∀ j, Startable job run.board.states j → j ∉ started →
    Ahead job.tasks i j
  run_eq : run' = { run with
    board := { run.board with
      states := started.foldl (fun states i => states.set i .executing) run.board.states
      inFlight := run.board.inFlight ++ started }
    flights := run.flights
      ++ started.filterMap fun i => (job.tasks[i]?).map (Flight.fresh job.config i) }

/-- As many tasks are executing as may be, or none is left that may be started. -/
def Run.AtWork (job : Job) (run : Run) : Prop :=
  run.board.states.count .executing = job.config.maxConcurrency ∨
    ∀ i, ¬ Startable job run.board.states i

namespace Run.Books

variable {run run' : Run}

theorem starts (hgraph : Runnable job.tasks) (h : run.Books job []) :
    run.Starts job (run.startPhase job) (run.started job) := by
  have hsorted : (readyTasks job.config.policy job.tasks job.table run.board.states).Pairwise
      (Ahead job.tasks) := pairwise_readyTasks h.board.length_states
  refine ⟨fun i hi => ?_, ?_, ?_, fun i hi j hj hnot => ?_, h.startPhase_eq⟩
  · exact (mem_readyTasks_iff hgraph).1 (List.mem_of_mem_take hi)
  · rw [ncard_startable hgraph, h.board.count_executing, started, List.length_take]
  · exact hsorted.sublist (List.take_sublist _ _)
  · -- what may be started and is not among the first stands behind them
    have hmem := (mem_readyTasks_iff hgraph).2 hj
    rw [← List.take_append_drop (job.config.maxConcurrency - run.board.inFlight.length)
      (readyTasks _ _ _ _)] at hsorted hmem
    exact (List.pairwise_append.1 hsorted).2.2 i hi j
      ((List.mem_append.1 hmem).resolve_left hnot)

theorem starts_of_dispatch (hgraph : Runnable job.tasks) (h : run.Books job [])
    (hd : run.dispatch job = .again run' ∨
      ∃ waiting, run.dispatch job = .over (.stuck waiting) run') :
    ∃ started, (run.skipPhase job).Starts job run' started := by
  have hbooks : (run.skipPhase job).Books job [] := (Run.Books.kept job).skipPhase h
  have hrun' : run' = (run.skipPhase job).startPhase job := by
    rcases hd with hd | ⟨waiting, hd⟩
    · exact (of_dispatch_again hd).2.2.1
    · rcases of_dispatch_over hd with ⟨-, -, heq⟩ | ⟨-, -, heq⟩ | ⟨-, hrun', -⟩
      · cases heq
      · cases heq
      · exact hrun'
  exact ⟨_, hrun' ▸ hbooks.starts hgraph⟩

/-- A coordinator that waits could start nothing. -/
theorem atWork (hgraph : Runnable job.tasks) (h : run.Books job []) (hidle : run.board.Idle job) :
    run.AtWork job := by
  rcases hidle.full with hfull | hready
  · exact .inl (h.board.count_executing.trans (Nat.le_antisymm h.length_inFlight_le hfull))
  · refine .inr fun i hi => ?_
    have hmem := (mem_readyTasks_iff hgraph).2 hi
    rw [hready] at hmem
    cases hmem

end Run.Books

/-- In a run of a valid graph, whatever the priorities, the rules and the workers are: when the
coordinator starts tasks, it starts as many as may be started and as there is room for, and takes
them by priority and then by place; and where it waits, as many tasks are executing as may be, or
none is left that may be started. -/
theorem starts_by_priority (job : Job) (hgraph : checkGraph job.tasks = .ok ()) :
    (∀ run, Reached job ⟨.atHead, run⟩ ∨ Passes job run →
      ∀ run', (run.dispatch job = .again run' ∨
        ∃ waiting, run.dispatch job = .over (.stuck waiting) run') →
      ∃ started, (run.skipPhase job).Starts job run' started) ∧
    (∀ run, Reached job ⟨.atWait, run⟩ → run.AtWork job) ∧
    ∀ run, Passes job run → ∀ run', run.dispatch job = .again run' → run'.AtWork job := by
  have hvalid := Runnable.of_checkGraph hgraph
  have hwait : ∀ run, Reached job ⟨.atWait, run⟩ → run.AtWork job := fun run hrun =>
    hrun.books.atWork hvalid (hrun.idle rfl)
  refine ⟨fun run hrun run' hd => ?_, hwait, fun run hrun run' hd => ?_⟩
  · have hbooks : run.Books job [] := by
      rcases hrun with hrun | hrun
      · exact hrun.books
      · obtain ⟨point, hreached⟩ := hrun.reached
        exact hreached.books
    exact hbooks.starts_of_dispatch hvalid hd
  · exact hwait run' (hrun.reached_atWait hd)

/-- A job with more tasks than may be in flight: the first of three has to wait. -/
def sampleQueue : Job where
  tasks := [sampleTask "orders" [], { sampleTask "users" [] with priority := 5 },
    { sampleTask "portal" [] with priority := 5 }]
  config := { maxConcurrency := 2, policy := .proceed }
  worker := fun _ _ => ⟨5, .ok ⟨.null, none⟩⟩

theorem starts_by_priority_sampleQueue : ∃ run',
    (Run.fresh sampleQueue).dispatch sampleQueue = .again run' ∧
      ((Run.fresh sampleQueue).skipPhase sampleQueue).Starts sampleQueue run' [1, 2] ∧
      run'.AtWork sampleQueue := by
  have hready : readyTasks sampleQueue.config.policy sampleQueue.tasks sampleQueue.table
      (Run.fresh sampleQueue).board.states = [1, 2, 0] := by
    have hall : satisfiedTasks sampleQueue.config.policy sampleQueue.table
        (Run.fresh sampleQueue).board.states = [0, 1, 2] := by decide
    rw [readyTasks, hall]
    simp [List.mergeSort, List.MergeSort.Internal.splitInTwo, priorityAt, sampleQueue, sampleTask]
  have hskip : (Run.fresh sampleQueue).skipPhase sampleQueue = Run.fresh sampleQueue := rfl
  have hd : (Run.fresh sampleQueue).dispatch sampleQueue
      = .again ((Run.fresh sampleQueue).startPhase sampleQueue) := by
    simp only [Run.dispatch, hskip, Run.startPhase, hready]
    rfl
  obtain ⟨hstarts, -, hwork⟩ := starts_by_priority sampleQueue (by decide +kernel)
  obtain ⟨started, hstarted⟩ := hstarts _ (.inr .refl) _ (.inl hd)
  -- what is in flight now was started, because nothing was in flight before
  have hflight : ((Run.fresh sampleQueue).startPhase sampleQueue).board.inFlight = [] ++ started :=
    congrArg (·.board.inFlight) hstarted.run_eq
  rw [Run.startPhase, hready] at hflight
  obtain rfl : [1, 2] = started := hflight
  exact ⟨_, hd, hstarted, hwork _ .refl _ hd⟩

end Mockup.Schedule
