import Mockup.Generation.Failure
import Mockup.Proofs.Schedule.Completion

/-!
# Runs that are called off

A run that is called off is a prefix of the run that nobody calls off.

* `Job.undisturbed`, `Run.undisturbed`: the same job and the same run when nobody calls it off;
* `Run.dispatch_undisturbed`, `Run.receive?_undisturbed`, `Run.wake_undisturbed`: the steps of the
  coordinator and of the workers are the same for both;
* `Run.step_cases`: a round is the same for both, or is the last one in which something settles;
* `Run.finish_truncates`: a whole run is the same for both, or ends early;
* `HeedfulTurn`: the turns of a coordinator that takes nothing in once the run was called off;
* `Moment.Shadows`: a moment that is as far when nobody calls the run off, with
  `Moment.Shadows.turns`: there is one, in whatever order the work is done;
* `run_truncated`: the results of a run that is called off.
-/

namespace Mockup.Schedule

/-- The same job when nobody calls it off. -/
def Job.undisturbed (job : Job) : Job :=
  { job with cancellation := {} }

/-- The same run when nobody has called it off. -/
def Run.undisturbed (run : Run) : Run :=
  { run with cancelled := false }

/-- The same outcome when nobody has called the run off. -/
def Outcome.undisturbed : Outcome → Outcome
  | .over ending run => .over ending run.undisturbed
  | .again run => .again run.undisturbed

/-! ### The coordinator -/

namespace Run

variable (job : Job) {run run' : Run}

theorem settleSkipped_undisturbed (run : Run) (i : Nat) :
    run.undisturbed.settleSkipped job.undisturbed i = (run.settleSkipped job i).undisturbed := by
  simp only [settleSkipped, show job.undisturbed.tasks = job.tasks from rfl]
  split <;> rfl

theorem foldl_settleSkipped_undisturbed (is : List Nat) (run : Run) :
    is.foldl (settleSkipped job.undisturbed) run.undisturbed
      = (is.foldl (settleSkipped job) run).undisturbed :=
  List.foldl_hom undisturbed (settleSkipped_undisturbed job)

theorem skipPhase_undisturbed (run : Run) :
    run.undisturbed.skipPhase job.undisturbed = (run.skipPhase job).undisturbed := by
  simp only [skipPhase, show job.undisturbed.config = job.config from rfl]
  split
  · rfl
  · exact foldl_settleSkipped_undisturbed job (spreadSkips job.table run.board.states).1
      { run with board := { run.board with states := (spreadSkips job.table run.board.states).2 } }

theorem start_undisturbed (run : Run) (i : Nat) :
    run.undisturbed.start job.undisturbed i = (run.start job i).undisturbed := by
  simp only [start, show job.undisturbed.tasks = job.tasks from rfl,
    show run.undisturbed.board = run.board from rfl]
  split <;> rfl

theorem startPhase_undisturbed (run : Run) :
    run.undisturbed.startPhase job.undisturbed = (run.startPhase job).undisturbed :=
  List.foldl_hom undisturbed (start_undisturbed job)

/-- The coordinator does the same up to the point at which it listens. -/
theorem dispatch_undisturbed (hc : run.cancelled = false) :
    run.undisturbed.dispatch job.undisturbed = (run.dispatch job).undisturbed := by
  have hskip := skipPhase_undisturbed job run
  have hstart := startPhase_undisturbed job (run.skipPhase job)
  simp only [dispatch, hskip, hstart, hc, show run.undisturbed.cancelled = false from rfl,
    Bool.false_eq_true, if_false, apply_ite Outcome.undisturbed]
  rfl

theorem receive?_undisturbed (run : Run) :
    run.undisturbed.receive? job.undisturbed = (run.receive? job).map undisturbed := by
  simp only [receive?, show run.undisturbed.mailbox = run.mailbox from rfl]
  split <;> rfl

theorem wake_undisturbed (run : Run) (now : Nat) :
    run.undisturbed.wake job.undisturbed now = (run.wake job now).undisturbed := rfl

/-- While nobody calls the run off, the coordinator waits until there is something to do. -/
theorem wait_undisturbed (run : Run) : run.undisturbed.wait job.undisturbed =
    match run.nextTime? with
    | none => .over .silent run.undisturbed
    | some next => .again (run.wake job next).undisturbed := by
  simp only [wait, show run.undisturbed.nextTime? = run.nextTime? from rfl, wake_undisturbed]
  cases run.nextTime? <;> rfl

/-- A round is the same, or the run is called off in the course of it: before the coordinator
listens, or while it waits. -/
theorem step_cases (hc : run.cancelled = false) :
    run.undisturbed.step job.undisturbed = (run.step job).undisturbed ∨
    ∃ run₁, run.dispatch job = .again run₁ ∧
      run.undisturbed.dispatch job.undisturbed = .again run₁.undisturbed ∧
      (run₁.cancelled = true ∧ run.step job = .over .cancelled run₁ ∨
        ∃ stop, run.step job = .again { run₁.wake job stop with cancelled := true }) := by
  have hd := dispatch_undisturbed job hc
  cases hdispatch : run.dispatch job with
  | «over» ending run₁ =>
    rw [hdispatch] at hd
    exact .inl (by simp only [step, hd, hdispatch, Outcome.undisturbed])
  | again run₁ =>
    rw [hdispatch] at hd
    have hr := receive?_undisturbed job run₁
    cases hc₁ : run₁.cancelled with
    | true => exact .inr ⟨run₁, rfl, hd, .inl ⟨hc₁, by simp only [step, hdispatch, hc₁, if_true]⟩⟩
    | false =>
      cases hreceive : run₁.receive? job with
      | some run₂ =>
        rw [hreceive] at hr
        have hstep : run.step job = .again run₂ := by
          simp only [step, hdispatch, hc₁, hreceive, Bool.false_eq_true, if_false]
        rw [hstep]
        refine .inl ?_
        simp only [step, hd, Outcome.undisturbed, hr, Option.map_some,
          show run₁.undisturbed.cancelled = false from rfl, Bool.false_eq_true, if_false]
      | none =>
        rw [hreceive] at hr
        have hstep : run.step job = run₁.wait job := by
          simp only [step, hdispatch, hc₁, hreceive, Bool.false_eq_true, if_false]
        have hsame : run.undisturbed.step job.undisturbed
            = run₁.undisturbed.wait job.undisturbed := by
          simp only [step, hd, Outcome.undisturbed, hr, Option.map_none,
            show run₁.undisturbed.cancelled = false from rfl, Bool.false_eq_true, if_false]
        rw [hsame, hstep, wait_undisturbed, wait]
        cases hn : run₁.nextTime? with
        | none => exact .inl rfl
        | some next =>
          cases htime : job.cancellation.atTime.map waitFor with
          | none => exact .inl rfl
          | some stop =>
            by_cases hstop : run₁.clock < next ∧ stop ≤ next
            · exact .inr ⟨run₁, rfl, hd, .inr ⟨stop, by simp only [hstop, and_self, if_true]⟩⟩
            · exact .inl (by simp only [hstop, if_false]; rfl)

end Run

/-! ### What is seen of a round -/

/-- The trace so far is kept. -/
theorem keptByCoordinator_trace (job : Job) (events : List Event) :
    KeptByCoordinator job fun _ run => events <+: run.trace where
  mark _ _ h := h
  skip run i due h := by
    unfold Run.settleSkipped
    split
    · exact h.trans (List.prefix_append _ _)
    · exact h
  start run i _ _ _ h := by
    unfold Run.start
    split <;> exact h
  receive _ _ _ _ _ h := h.trans (List.prefix_append _ _)

/-- On a flight nothing settles. -/
theorem Flight.Moves.settlements_events {now : Nat} {cancelled : Bool} {f : Flight} {p : Progress}
    (h : f.Moves now cancelled p) : settlements p.events = [] := by
  induction h with
  | one h => exact h.settlements_events
  | cons h _ ih =>
    rw [settlements_append, ih, List.append_nil]
    exact h.settlements_events

namespace Run

variable {job : Job} {run run₁ : Run}

theorem settlements_wake (job : Job) (run : Run) (now : Nat) :
    settlements (run.wake job now).trace = settlements run.trace := by
  have hflight : ∀ f : Flight, settlements (f.advance job.worker job.config now).events = [] :=
    fun f => (@Flight.moves_advance job.worker job.config now false f).settlements_events
  have hall : ∀ fs : List Flight, settlements
      ((fs.map (Flight.advance job.worker job.config now)).flatMap (·.events)) = [] := by
    intro fs
    induction fs with
    | nil => rfl
    | cons f fs ih => rw [List.map_cons, List.flatMap_cons, settlements_append, hflight, ih]; rfl
  rw [wake, settlements_append, hall, List.append_nil]

theorem finish_of_over {ending : Ending} (h : run.step job = .over ending run₁) :
    run.finish job = (ending, run₁) := by
  rw [finish]
  split
  · next heq => rw [h] at heq; cases heq; rfl
  · next heq => rw [h] at heq; cases heq

theorem finish_of_again (h : run.step job = .again run₁) : run.finish job = run₁.finish job :=
  Rounds.finish_eq (.single h)

theorem trace_finish (run : Run) : run.trace <+: (run.finish job).2.trace :=
  (keptByCoordinator_trace job run.trace).finish (fun _ _ _ h => h.trans (List.prefix_append _ _))
    (.inr fun _ h => h) List.prefix_rfl

/-- The trace at the time when the coordinator starts to listen is kept up to the end of the run. -/
theorem trace_finish_of_dispatch (hd : run.dispatch job = .again run₁) :
    run₁.trace <+: (run.finish job).2.trace := by
  have hstep : (∃ ending, run.step job = .over ending run₁) ∨
      ∃ run₂, run.step job = .again run₂ ∧ run₁.trace <+: run₂.trace := by
    simp only [step, hd]
    split
    · exact .inl ⟨_, rfl⟩
    split
    · next hr => exact .inr ⟨_, rfl, (keptByCoordinator_trace job _).receive? hr List.prefix_rfl⟩
    unfold wait
    split
    · exact .inl ⟨_, rfl⟩
    split
    · exact .inr ⟨_, rfl, List.prefix_append _ _⟩
    split <;> exact .inr ⟨_, rfl, List.prefix_append _ _⟩
  rcases hstep with ⟨ending, h⟩ | ⟨run₂, h, hkeep⟩
  · exact (congrArg (fun e => run₁.trace <+: e.2.trace) (finish_of_over h)).mpr List.prefix_rfl
  · rw [finish_of_again h]
    exact hkeep.trans (trace_finish run₂)

/-! ### Whole runs -/

theorem settled_start (run : Run) (i : Nat) :
    (run.start job i).board.settled = run.board.settled := by
  unfold start
  split
  · next board _ hboard _ =>
    unfold Board.start? at hboard
    split at hboard <;> cases hboard
    rfl
  · rfl

theorem settled_startPhase (run : Run) :
    (run.startPhase job).board.settled = run.board.settled := by
  have hall : ∀ (is : List Nat) (run : Run),
      (is.foldl (start job) run).board.settled = run.board.settled := by
    intro is
    induction is with
    | nil => exact fun _ => rfl
    | cons i is ih => exact fun run => (ih _).trans (settled_start run i)
  exact hall _ _

/-- A coordinator that listens has tasks left. -/
theorem settled_lt_of_dispatch (hd : run.dispatch job = .again run₁) :
    run₁.board.settled < job.tasks.length := by
  obtain ⟨-, hlt, rfl, -⟩ := of_dispatch_again hd
  rwa [settled_startPhase]

/-- The next time the coordinator looks, a run that was called off is over. -/
theorem dispatch_calledOff (hc : run.cancelled = true) : run.dispatch job =
    .over (if job.tasks.length ≤ run.board.settled
      then .finished (run.board.results.filterMap id) else .cancelled) run := by
  simp only [dispatch, hc, if_true]
  split <;> rfl

theorem finish_calledOff (hc : run.cancelled = true) : run.finish job =
    (if job.tasks.length ≤ run.board.settled
      then .finished (run.board.results.filterMap id) else .cancelled, run) :=
  finish_of_over (by simp only [step, dispatch_calledOff hc])

/-- If all tasks have settled, the run is over. -/
theorem dispatch_settled (h : job.tasks.length ≤ run.board.settled) :
    run.dispatch job = .over (.finished (run.board.results.filterMap id)) run := by
  simp only [dispatch, h, if_true]

theorem finish_settled (h : job.tasks.length ≤ run.board.settled) :
    run.finish job = (.finished (run.board.results.filterMap id), run) :=
  finish_of_over (by simp only [step, dispatch_settled h])

/-- A run is the same as if nobody called it off, or it is called off and ends early. -/
def Truncates (job : Job) (run : Run) : Prop :=
  run.undisturbed.finish job.undisturbed
      = ((run.finish job).1, (run.finish job).2.undisturbed) ∨
    (run.finish job).1 = .cancelled ∧ settlements (run.finish job).2.trace
      <+: settlements (run.undisturbed.finish job.undisturbed).2.trace

theorem settlements_mono {xs ys : List Event} (h : xs <+: ys) :
    settlements xs <+: settlements ys :=
  h.filterMap _

/-- A run that was called off before keeps what has settled. -/
theorem truncates_calledOff (hc : run.cancelled = true) : run.Truncates job := by
  have hfinish := @finish_calledOff job run hc
  by_cases hle : job.tasks.length ≤ run.board.settled
  · have hsettled : job.undisturbed.tasks.length ≤ run.undisturbed.board.settled := hle
    rw [if_pos hle] at hfinish
    exact .inl (by rw [hfinish, finish_settled hsettled]; rfl)
  · rw [if_neg hle] at hfinish
    refine .inr ⟨by rw [hfinish], ?_⟩
    rw [hfinish]
    exact settlements_mono (trace_finish run.undisturbed)

theorem finish_truncates (job : Job) (run : Run) : run.Truncates job := by
  induction run using Run.finish.induct job with
  | case1 run ending run' hs =>
    by_cases hc : run.cancelled = true
    · exact truncates_calledOff hc
    rcases step_cases job (Bool.eq_false_iff.2 hc) with hsame | ⟨run₁, -, hd, hstop⟩
    · rw [hs] at hsame
      exact .inl (by rw [finish_of_over hs, finish_of_over hsame])
    · obtain ⟨-, hstop⟩ | ⟨stop, hstop⟩ := hstop <;> rw [hs] at hstop <;> cases hstop
      have hkept := settlements_mono (trace_finish_of_dispatch hd)
      refine .inr ⟨by rw [finish_of_over hs], ?_⟩
      rwa [finish_of_over hs]
  | case2 run run' hs ih =>
    by_cases hc : run.cancelled = true
    · exact truncates_calledOff hc
    rcases step_cases job (Bool.eq_false_iff.2 hc) with hsame | ⟨run₁, hlisten, hd, hstop⟩
    · rw [hs] at hsame
      rwa [Truncates, finish_of_again hs, finish_of_again hsame]
    · obtain ⟨-, hstop⟩ | ⟨stop, hstop⟩ := hstop <;> rw [hs] at hstop <;> cases hstop
      -- the run is called off while tasks are left, so nothing more settles
      have hleft : ¬ job.tasks.length ≤ run₁.board.settled :=
        Nat.not_le.2 (settled_lt_of_dispatch hlisten)
      have hend := @finish_calledOff job { run₁.wake job stop with cancelled := true } rfl
      have hkept := settlements_mono (trace_finish_of_dispatch hd)
      rw [← settlements_wake job run₁.undisturbed stop] at hkept
      rw [Truncates, finish_of_again hs, hend]
      exact .inr ⟨if_neg hleft, hkept⟩

end Run

/-! ### Any order of the work -/

/-- The turns of a coordinator that takes in nothing once the run was called off: from a wait it
goes back to the head of its loop. -/
def HeedfulTurn (job : Job) (m m' : Moment) : Prop :=
  Turn job m m' ∧
    (m.run.cancelled = true → m.point = .atWait → m'.point = .atHead → m'.run = m.run)

/-- The same moment when nobody has called the run off. -/
def Moment.undisturbed (m : Moment) : Moment :=
  ⟨m.point, m.run.undisturbed⟩

theorem Moment.ofDispatch_undisturbed (o : Outcome) :
    ofDispatch o.undisturbed = (ofDispatch o).undisturbed := by
  cases o <;> rfl

/-- Another moment is as far as this one, and has not ended unless this one has. -/
structure Moment.Shadows (job : Job) (m₀ m : Moment) : Prop where
  moves : Relation.ReflTransGen (Move job.undisturbed) (.fresh job.undisturbed) m₀
  board_eq : m₀.run.board = m.run.board
  settlements_eq : settlements m₀.run.trace = settlements m.run.trace
  eq_of_uncancelled : m.run.cancelled = false → m₀ = m.undisturbed
  at_head : m.point = .atHead → job.tasks.length ≤ m.run.board.settled → m₀.point = .atHead
  at_wait : m.point = .atWait → m.run.board.settled < job.tasks.length
  at_end : ∀ ending, m.point = .over ending → ending = .cancelled ∨ m₀.point = .over ending

namespace Moment.Shadows

variable {job : Job} {m₀ m m' : Moment}

theorem fresh (job : Job) : Shadows job (.fresh job.undisturbed) (.fresh job) where
  moves := .refl
  board_eq := rfl
  settlements_eq := rfl
  eq_of_uncancelled _ := rfl
  at_head _ _ := rfl
  at_wait := nofun
  at_end := nofun

/-- Another move that does not depend on whether the run was called off. -/
theorem move (h : Shadows job m₀ m) (hc : m.run.cancelled = false)
    (hmove : Move job.undisturbed m.undisturbed m'.undisturbed)
    (hwait : m'.point = .atWait → m'.run.board.settled < job.tasks.length) :
    Shadows job m'.undisturbed m' where
  moves := h.moves.tail (h.eq_of_uncancelled hc ▸ hmove)
  board_eq := rfl
  settlements_eq := rfl
  eq_of_uncancelled _ := rfl
  at_head hhead _ := hhead
  at_wait := hwait
  at_end _ hover := .inr hover

/-- The coordinator settles what is blocked and starts what is ready, or the run is over. -/
theorem dispatch {run : Run} (h : Shadows job m₀ ⟨.atHead, run⟩) :
    ∃ m₁, Shadows job m₁ (.ofDispatch (run.dispatch job)) := by
  by_cases hc : run.cancelled = true
  · rw [Run.dispatch_calledOff hc]
    split
    · next hle =>
      have hmove := @Move.dispatch job.undisturbed m₀.run
      have hboard : m₀.run.board = run.board := h.board_eq
      rw [Run.dispatch_settled (by rw [hboard]; exact hle), hboard] at hmove
      have hhead : m₀ = ⟨.atHead, m₀.run⟩ := by rw [← h.at_head rfl hle]
      rw [← hhead] at hmove
      exact ⟨_, { h with
        moves := h.moves.tail hmove
        eq_of_uncancelled := fun hno => (Bool.false_ne_true (hno.symm.trans hc)).elim
        at_head := nofun
        at_wait := nofun
        at_end := fun _ hover => .inr hover }⟩
    · exact ⟨m₀, { h with
        eq_of_uncancelled := fun hno => (Bool.false_ne_true (hno.symm.trans hc)).elim
        at_head := nofun
        at_wait := nofun
        at_end := fun _ hover => .inl (by cases hover; rfl) }⟩
  · have hc := Bool.eq_false_iff.2 hc
    have hmove := @Move.dispatch job.undisturbed run.undisturbed
    rw [Run.dispatch_undisturbed job hc, ofDispatch_undisturbed] at hmove
    refine ⟨_, h.move hc hmove fun hwait => ?_⟩
    cases hd : run.dispatch job with
    | again run' => exact Run.settled_lt_of_dispatch hd
    | «over» ending run' => 
      rw [hd] at hwait
      cases hwait

theorem turn (h : Shadows job m₀ m) (ht : HeedfulTurn job m m') : ∃ m₁, Shadows job m₁ m' := by
  obtain ⟨hturn, hheed⟩ := ht
  cases hturn with
  | callOff _ now =>
    exact ⟨m₀, { h with eq_of_uncancelled := nofun }⟩
  | move hmove =>
    cases hmove with
    | dispatch run => exact h.dispatch
    | @receive run run' hr =>
      have hc : run.cancelled = false := by
        refine Bool.eq_false_iff.2 fun hc => ?_
        have hlt := Run.weight_receive?_lt hr
        rw [show run' = run from hheed hc rfl rfl] at hlt
        exact absurd hlt (Nat.lt_irrefl _)
      refine ⟨_, h.move hc (.receive ?_) nofun⟩
      rw [Run.receive?_undisturbed, hr]
      rfl
    | turnBack hc =>
      exact ⟨m₀, { h with
        eq_of_uncancelled := fun hno => (Bool.false_ne_true (hno.symm.trans hc)).elim
        at_head := fun _ hle => absurd (h.at_wait rfl) (Nat.not_lt.2 hle)
        at_wait := nofun
        at_end := nofun }⟩
    | @work m pre post f now p hm hf hp =>
      by_cases hc : m.run.cancelled = true
      · exact ⟨m₀, { h with
          settlements_eq := by
            rw [Run.carry, settlements_append, hp.settlements_events, List.append_nil]
            exact h.settlements_eq
          eq_of_uncancelled := fun hno => (Bool.false_ne_true (hno.symm.trans hc)).elim }⟩
      · have hc := Bool.eq_false_iff.2 hc
        rw [hc] at hp
        exact ⟨_, h.move hc (@Move.work _ m.undisturbed _ _ _ _ _ hm hf hp) h.at_wait⟩

theorem turns (h : Relation.ReflTransGen (HeedfulTurn job) (.fresh job) m) :
    ∃ m₀, Shadows job m₀ m := by
  induction h with
  | refl => exact ⟨_, fresh job⟩
  | tail _ ht ih =>
    obtain ⟨m₀, h⟩ := ih
    exact h.turn ht

end Moment.Shadows

/-! ### How runs end -/

variable {job : Job}

/-- A run ends when all tasks have settled, with all results, or it was called off before. -/
theorem Reached.settled_or_cancelled {m : Moment} {ending : Ending} (h : Reached job m)
    (hgraph : Runnable job.tasks) (hroom : 0 < job.config.maxConcurrency)
    (hover : m.point = .over ending) :
    (∀ i < job.tasks.length, SettledAt m.run.board.states i) ∧
        (∃ results, ending = .finished results ∧ m.run.Complete job results) ∨
      ¬ (∀ i < job.tasks.length, SettledAt m.run.board.states i) ∧ ending = .cancelled := by
  obtain ⟨run, hrun, hd⟩ := h.exists_dispatch hover
  have hall := h.books.board.le_settled_iff
  have hends := h.endsDuly hgraph hroom hover
  cases ending with
  | finished results =>
    refine .inl ⟨?_, results, rfl, h.complete_of_finished hover⟩
    rcases of_dispatch_over hd with ⟨-, hle, -⟩ | ⟨-, -, heq⟩ | ⟨-, -, -, heq⟩
    · exact hall.1 hle
    · cases heq
    · cases heq
  | cancelled =>
    refine .inr ⟨?_, rfl⟩
    rcases of_dispatch_over hd with ⟨-, -, heq⟩ | ⟨heq, hc, -⟩ | ⟨-, -, -, heq⟩
    · cases heq
    · rw [Run.dispatch_calledOff hc, heq] at hd
      intro hsettled
      have hle : job.tasks.length ≤ run.board.settled := heq ▸ hall.2 hsettled
      rw [if_pos hle] at hd
      cases hd
    · cases heq
  | stuck waiting => exact absurd rfl (hends.not_stuck waiting)
  | silent => exact absurd rfl hends.not_silent

/-- If a run is called off before it starts, nothing ever happens in it. -/
theorem Reached.untouched {m : Moment} (h : Reached job m)
    (hbefore : job.cancellation.before = true) (htasks : job.tasks ≠ []) :
    (∃ now, m.run = { Run.fresh job with clock := now }) ∧
      (m.point = .atHead ∨ m.point = .over .cancelled) := by
  induction h with
  | refl => exact ⟨⟨0, rfl⟩, .inl rfl⟩
  | tail _ hturn ih =>
    obtain ⟨⟨now, hrun⟩, hpoint⟩ := ih
    cases hturn with
    | callOff _ now' =>
      refine ⟨⟨now', ?_⟩, hpoint⟩
      rw [hrun, Run.callOff, Run.fresh, hbefore]
    | move hmove =>
      cases hmove with
      | dispatch run =>
        obtain rfl : run = { Run.fresh job with clock := now } := hrun
        rw [Run.dispatch_calledOff hbefore, if_neg (by simpa [Run.fresh, Board.fresh] using htasks)]
        exact ⟨⟨now, rfl⟩, .inr rfl⟩
      | receive | turnBack => rcases hpoint with hpoint | hpoint <;> cases hpoint
      | work _ hf =>
        rw [hrun] at hf
        exact absurd hf (by simp [Run.fresh])

/-- The results that are told of one run come first in those that are told of another. -/
theorem completions_mono {xs ys : List Event} (h : settlements xs <+: settlements ys) :
    completions xs <+: completions ys := by
  rw [completions_eq, completions_eq]
  exact h.map _

/-- To call a run off only ends it early.  The results that are told come first in those that are
told when nobody calls it off; if all tasks have settled the run answers all of these results, and
otherwise that it was called off; a run of some tasks that is called off before it starts shows
nothing at all, and a run of no tasks answers no results.  In any order of the work, too, a
coordinator that takes in nothing once the run was called off tells what it might have told up to
some moment when nobody calls it off. -/
theorem run_truncated (job : Job) (hconfig : job.config.check = .ok ())
    (hgraph : checkGraph job.tasks = .ok ()) :
    (∃ ending run results run₀, schedule job = .ok (ending, run) ∧
      schedule job.undisturbed = .ok (.finished results, run₀) ∧
      run₀.Complete job results ∧
      completions run.trace <+: completions run₀.trace ∧
      ((∀ i < job.tasks.length, SettledAt run.board.states i) ∧ ending.results = .ok results ∨
        ¬ (∀ i < job.tasks.length, SettledAt run.board.states i) ∧
          ending.results = .error (.cancelled .running)) ∧
      (job.tasks = [] → ending.results = .ok []) ∧
      (job.cancellation.before = true → job.tasks ≠ [] →
        run.trace = [] ∧ ending.results = .error (.cancelled .running))) ∧
    (∀ m, Relation.ReflTransGen (HeedfulTurn job) (.fresh job) m → ∃ m₀,
      Relation.ReflTransGen (Move job.undisturbed) (.fresh job.undisturbed) m₀ ∧
      completions m.run.trace = completions m₀.run.trace ∧
      ∀ ending, m.point = .over ending →
        (∀ i < job.tasks.length, SettledAt m.run.board.states i) ∧ m₀.point = .over ending ∧
            (∃ results, ending.results = .ok results ∧ m.run.Complete job results) ∨
          ¬ (∀ i < job.tasks.length, SettledAt m.run.board.states i) ∧
            ending.results = .error (.cancelled .running)) := by
  have hvalid := Runnable.of_checkGraph hgraph
  obtain ⟨hroom, -⟩ := SchedulerRules.check_eq_ok_iff.1 hconfig
  constructor
  · obtain ⟨⟨ending, run⟩, hrun⟩ : ∃ e, (Run.fresh job).finish job = e := ⟨_, rfl⟩
    obtain ⟨⟨ending₀, run₀⟩, hrun₀⟩ :
      ∃ e, (Run.fresh job.undisturbed).finish job.undisturbed = e := ⟨_, rfl⟩
    have hschedule : schedule job = .ok (ending, run) := hrun ▸ schedule_eq hconfig hgraph
    have hschedule₀ : schedule job.undisturbed = .ok (ending₀, run₀) :=
      hrun₀ ▸ schedule_eq hconfig hgraph
    have hc₀ : run₀.cancelled = false := by
      have hnever := @cancelled_finish job.undisturbed rfl
      rwa [hrun₀] at hnever
    obtain ⟨results, rfl, hcomplete⟩ :=
      ((reached_of_schedule hschedule₀).endsDuly hvalid hroom rfl).complete hc₀
    have htruncates := Run.finish_truncates job (.fresh job)
    rw [Run.Truncates, hrun, show (Run.fresh job).undisturbed = .fresh job.undisturbed from rfl,
      hrun₀] at htruncates
    have hreached := reached_of_schedule hschedule
    have hends := hreached.settled_or_cancelled hvalid hroom rfl
    refine ⟨ending, run, results, run₀, hschedule, hschedule₀, ⟨hcomplete.length_results,
      hcomplete.isReport, hcomplete.map_some⟩, ?_, ?_, ?_, ?_⟩
    · rcases htruncates with hsame | ⟨-, hmore⟩
      · cases hsame
        exact List.prefix_rfl
      · exact completions_mono hmore
    · rcases hends with ⟨hall, results', rfl, -⟩ | ⟨hleft, rfl⟩
      · rcases htruncates with hsame | ⟨hcancelled, -⟩
        · cases hsame
          exact .inl ⟨hall, rfl⟩
        · cases hcancelled
      · exact .inr ⟨hleft, rfl⟩
    · intro htasks
      rcases hends with ⟨-, results', rfl, hcomplete'⟩ | ⟨hleft, -⟩
      · have hlen := hcomplete'.length_results
        rw [htasks] at hlen
        rw [List.length_eq_zero_iff.1 hlen]
        rfl
      · exact absurd (by simp [htasks]) hleft
    · intro hbefore htasks
      obtain ⟨⟨now, rfl⟩, hpoint | hpoint⟩ := hreached.untouched hbefore htasks
      · cases hpoint
      · cases hpoint
        exact ⟨rfl, rfl⟩
  · intro m hm
    obtain ⟨m₀, hshadow⟩ := Moment.Shadows.turns hm
    have hreached : Reached job m := Relation.ReflTransGen.mono (fun _ _ h => h.1) _ _ hm
    refine ⟨m₀, hshadow.moves, ?_, fun ending hover => ?_⟩
    · rw [completions_eq, completions_eq, hshadow.settlements_eq]
    · rcases hreached.settled_or_cancelled hvalid hroom hover with
        ⟨hall, results, rfl, hcomplete⟩ | ⟨hleft, rfl⟩
      · exact .inl ⟨hall, (hshadow.at_end _ hover).resolve_left nofun, results, rfl, hcomplete⟩
      · exact .inr ⟨hleft, rfl⟩

/-- The sample, called off as soon as one of the three tasks has settled. -/
def calledOffSample : Job :=
  { sample with cancellation := { afterSettled := some 1 } }

theorem run_truncated_sample : ∃ ending run results run₀,
    schedule calledOffSample = .ok (ending, run) ∧ schedule sample = .ok (.finished results, run₀) ∧
    (completions run.trace).map (fun r => (r.taskId, r.success)) = [("orders", true)] ∧
    completions run.trace <+: completions run₀.trace ∧
    ending.results = .error (.cancelled .running) := by
  obtain ⟨⟨ending, run, results, run₀, hrun, hrun₀, -, hmore, hends, -⟩, -⟩ :=
    run_truncated calledOffSample check_sample checkGraph_sample
  have hfinish := finish_of_schedule hrun
  have hstates : ((Run.fresh calledOffSample).finish calledOffSample).2.board.states
      = [.completed, .pending, .pending] := by decide +kernel
  have htold : (completions ((Run.fresh calledOffSample).finish calledOffSample).2.trace).map
      (fun r => (r.taskId, r.success)) = [("orders", true)] := by decide +kernel
  rw [hfinish] at hstates htold
  refine ⟨ending, run, results, run₀, hrun, hrun₀, htold, hmore, ?_⟩
  rcases hends with ⟨hall, -⟩ | ⟨-, hcancelled⟩
  · have hportal := hall 2 (by decide)
    rw [show run.board.states = _ from hstates] at hportal
    simp [SettledAt, DownAt] at hportal
  · exact hcancelled

end Mockup.Schedule
