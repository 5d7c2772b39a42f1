import Mockup.Proofs.Schedule.Consistency

/-!
# The course that a run takes

The run that `schedule` follows is one of those that can happen.

* `Flight.Moves`, `Flight.moves_advance`: to go on with a flight is a row of moves;
* `Run.turns_wake`: so it is to go on with all flights that are due;
* `Run.of_mem_flights_wake`, `Run.of_mem_mailbox_wake`: the flights and the reports after that;
* `Board.Idle`: the coordinator has nothing to do but to wait, with `Board.Idle.of_dispatch`,
  `Board.Idle.dispatch` and `Reached.idle`;
* `Rounds`, `Passes`: the loop heads that a run passes;
* `Moment.AtRound.step_again`, `Moment.AtRound.step_over`: a round is a row of turns;
* `KeptByCoordinator.finish`: invariants of the rounds, up to the end of a run;
* `Passes.turns`, `reached_of_schedule`: the loop heads that a run passes are moments that can be
  reached, and so is its end;
* `sample`: a job that shows that there are such runs.
-/

namespace Mockup.Schedule

/-! ### Going on with flights -/

namespace Flight

/-- A row of moves at one flight, with all that an observer sees of them. -/
inductive Moves (now : Nat) (cancelled : Bool) : Flight → Progress → Prop
  | one {f : Flight} {p : Progress} (h : f.Move now cancelled p) : Moves now cancelled f p
  | cons {f f' : Flight} {events : List Event} {p : Progress}
      (h : f.Move now cancelled ⟨events, .flying f'⟩) (h' : Moves now cancelled f' p) :
      Moves now cancelled f ⟨events ++ p.events, p.landing⟩

variable {worker : Worker} {config : SchedulerRules} {now : Nat} {cancelled : Bool}

/-- After a row of moves a flight still is work on the same task. -/
theorem Moves.of_flight? {f : Flight} {p : Progress} (h : Moves now cancelled f p) {g : Flight}
    (hg : p.landing.flight? = some g) : g.index = f.index ∧ g.task = f.task := by
  induction h with
  | one h => exact h.of_flight? hg
  | cons h _ ih =>
    obtain ⟨hi, ht⟩ := h.of_flight? rfl
    exact ⟨(ih hg).1.trans hi, (ih hg).2.trans ht⟩

theorem Moves.of_report? {f : Flight} {p : Progress} (h : Moves now cancelled f p) {i : Nat}
    {r : Settlement} (hr : p.landing.report? = some (i, r)) : i = f.index := by
  induction h with
  | one h => exact (h.of_report? hr).1
  | cons h _ ih => exact (ih hr).trans (h.of_flight? rfl).1

theorem moves_launch {limit : Nat} {f g : Flight} {cont : Except AttemptError Output → Progress}
    (hg : ∀ ends outcome, g.Move now cancelled
      ⟨[.began now f.index], .flying { f with phase := .attempting ends outcome }⟩)
    (hcont : ∀ outcome,
      Moves now cancelled { f with phase := .attempting now outcome } (cont outcome)) :
    Moves now cancelled g (launch worker limit now f cont) := by
  unfold launch
  simp only
  split
  · exact .cons (hg _ _) (hcont _)
  · exact .one (hg _ _)

/-- The end of an attempt leads on by moves of the flight. -/
theorem moves_conclude (f : Flight) (left attempt ends : Nat)
    (outcome : Except AttemptError Output) :
    Moves now cancelled { f with left, attempt, phase := .attempting ends outcome }
      (conclude worker config now f left attempt outcome) := by
  induction left generalizing attempt ends outcome with
  | zero =>
    cases outcome with
    | ok out => exact .one (.succeed rfl)
    | error e => exact .one (.fail rfl (.inr rfl))
  | succ left ih =>
    cases outcome with
    | ok out => exact .one (.succeed rfl)
    | error e =>
      unfold conclude
      split
      · next he =>
        simp only
        split
        · -- without a pause the next attempt begins at once
          refine .cons (.retry rfl he rfl now) ?_
          exact moves_launch (fun ends o => .resume rfl ends o) fun o => ih (attempt + 1) now o
        · exact .one (.retry rfl he rfl _)
      · next he => exact .one (.fail rfl (.inl (by simpa using he)))

/-- To go on with a flight is a row of moves. -/
theorem moves_advance (f : Flight) : Moves now cancelled f (advance worker config now f) := by
  unfold advance
  split
  · next ends outcome hf =>
    have h : Moves now cancelled { f with phase := .attempting ends outcome }
        (conclude worker config now f f.left f.attempt outcome) :=
      moves_conclude f f.left f.attempt ends outcome
    rwa [← hf] at h
  · next t hf =>
    exact moves_launch (fun ends o => .resume hf ends o) fun o =>
      moves_conclude f f.left f.attempt now o
  · next hf =>
    exact moves_launch (fun ends o => .begin hf ends o) fun o =>
      moves_conclude { f with begun := now } f.left f.attempt now o

end Flight

namespace Run

variable {point : Point} {now : Nat}

/-- Moves of one flight are moves of the run. -/
theorem moves_carry (job : Job) (hpoint : ∀ ending, point ≠ .over ending) (run : Run)
    (pre post : List Flight) {f : Flight} {p : Progress} (h : f.Moves now run.cancelled p)
    (hf : run.flights = pre ++ f :: post) :
    Relation.ReflTransGen (Move job) ⟨point, run⟩ ⟨point, run.carry (pre ++ post) now p⟩ := by
  have hopen : ∀ run : Run, ¬ (⟨point, run⟩ : Moment).IsOver := fun _ ⟨ending, h⟩ => hpoint ending h
  generalize hc : run.cancelled = cancelled at h
  induction h generalizing run pre post with
  | one h => exact .single (.work (hopen run) hf (hc ▸ h))
  | @cons f f' events p h _ ih =>
    refine .head (.work (hopen run) hf (hc ▸ h)) ?_
    have hrest := ih (run.carry (pre ++ post) now ⟨events, .flying f'⟩) (pre ++ post) [] rfl hc
    simpa [carry, Landing.flight?, Landing.report?, List.append_assoc] using hrest

/-- Going on with those flights of a list that are due, one after the other. -/
theorem moves_due (job : Job) (now : Nat) (hpoint : ∀ ending, point ≠ .over ending)
    (todo kept moved : List Flight) (run : Run) (hf : run.flights = kept ++ todo ++ moved) :
    let progress := (todo.filter (·.isDue now)).map (Flight.advance job.worker job.config now)
    Relation.ReflTransGen (Move job) ⟨point, run⟩ ⟨point, { run with
      flights := kept ++ todo.filter (!·.isDue now)
        ++ (moved ++ progress.filterMap (·.landing.flight?))
      mailbox := run.mailbox ++ progress.filterMap (·.landing.report?)
      clock := if todo.any (·.isDue now) then now else run.clock
      trace := run.trace ++ progress.flatMap (·.events) }⟩ := by
  induction todo generalizing kept moved run with
  | nil =>
    obtain ⟨board, flights, mailbox, clock, cancelled, trace⟩ := run
    obtain rfl : flights = kept ++ moved := by simpa using hf
    simp only [List.filter_nil, List.map_nil, List.filterMap_nil, List.flatMap_nil,
      List.append_nil, List.any_nil, Bool.false_eq_true, if_false]
    exact .refl
  | cons f todo ih =>
    cases hdue : f.isDue now with
    | false =>
      have hrest := ih (kept ++ [f]) moved run (by simpa using hf)
      simpa [List.filter_cons, hdue] using hrest
    | true =>
      have hmoves : f.Moves now run.cancelled (f.advance job.worker job.config now) :=
        Flight.moves_advance f
      have hfirst := moves_carry job hpoint run kept (todo ++ moved) hmoves
        (by simpa [List.append_assoc] using hf)
      refine hfirst.trans ?_
      have hrest := ih kept (moved ++ (f.advance job.worker job.config now).landing.flight?.toList)
        (run.carry (kept ++ (todo ++ moved)) now (f.advance job.worker job.config now))
        (by simp [carry, List.append_assoc])
      cases hland : (f.advance job.worker job.config now).landing <;>
        simpa [carry, hdue, hland, Landing.flight?, Landing.report?, List.append_assoc]
          using hrest

/-- Going on with all flights that are due, if there are any. -/
theorem turns_wake (job : Job) (hpoint : ∀ ending, point ≠ .over ending) (run : Run)
    (hdue : run.flights.any (·.isDue now) = true) :
    Turns job ⟨point, run⟩ ⟨point, run.wake job now⟩ := by
  have h := moves_due job now hpoint run.flights [] [] run (by simp)
  simp only [hdue, if_true, List.nil_append] at h
  exact .of_moves h

/-- Going on with all flights that are due until the run is called off. -/
theorem turns_wake_cancelled (job : Job) (hpoint : ∀ ending, point ≠ .over ending) (run : Run)
    (now : Nat) :
    Turns job ⟨point, run⟩ ⟨point, { run.wake job now with cancelled := true }⟩ := by
  have h := moves_due job now hpoint run.flights [] [] run (by simp)
  simp only [List.nil_append] at h
  refine Relation.ReflTransGen.tail (Turns.of_moves h) ?_
  exact .callOff (fun ⟨ending, he⟩ => hpoint ending he) now

/-- The flights after a wake are those that were not due, and those that go on. -/
theorem of_mem_flights_wake {job : Job} {run : Run} {g : Flight}
    (hg : g ∈ (run.wake job now).flights) : (g ∈ run.flights ∧ g.isDue now = false) ∨
      ∃ f ∈ run.flights, f.isDue now = true ∧
        (f.advance job.worker job.config now).landing = .flying g := by
  rcases List.mem_append.1 hg with hg | hg
  · exact .inl (by simpa using hg)
  · obtain ⟨p, hp, hland⟩ := List.mem_filterMap.1 hg
    obtain ⟨f, hf, rfl⟩ := List.mem_map.1 hp
    obtain ⟨hf, hdue⟩ := List.mem_filter.1 hf
    refine .inr ⟨f, hf, hdue, ?_⟩
    cases hl : (f.advance job.worker job.config now).landing <;> rw [hl] at hland <;> cases hland
    rfl

/-- The reports are those that were there before, and those of flights that have ended. -/
theorem of_mem_mailbox_wake {job : Job} {run : Run} {i : Nat} {r : Settlement}
    (hr : (i, r) ∈ (run.wake job now).mailbox) : (i, r) ∈ run.mailbox ∨
      ∃ f ∈ run.flights, f.isDue now = true ∧
        (f.advance job.worker job.config now).landing = .landed i r := by
  rcases List.mem_append.1 hr with hr | hr
  · exact .inl hr
  · obtain ⟨p, hp, hland⟩ := List.mem_filterMap.1 hr
    obtain ⟨f, hf, rfl⟩ := List.mem_map.1 hp
    obtain ⟨hf, hdue⟩ := List.mem_filter.1 hf
    refine .inr ⟨f, hf, hdue, ?_⟩
    cases hl : (f.advance job.worker job.config now).landing <;> rw [hl] at hland <;> cases hland
    rfl

/-- Going on with flights keeps the books. -/
theorem Books.wake {job : Job} {run : Run} (h : run.Books job []) (now : Nat) :
    (run.wake job now).Books job [] := by
  have hturns := @turns_wake_cancelled .atWait job (fun _ => Point.noConfusion) run now
  exact { (Books.kept job).turns hturns h with }

end Run

/-! ### Waiting -/

/-- The coordinator has nothing to do but to wait. -/
structure Board.Idle (job : Job) (b : Board) : Prop where
  unsettled : b.settled < job.tasks.length
  unblocked : job.config.policy = .skip → blockedTasks job.table b.states = []
  full : job.config.maxConcurrency ≤ b.inFlight.length ∨
    readyTasks job.config.policy job.tasks job.table b.states = []
  busy : b.inFlight ≠ []

/-- Dispatching changes nothing when there is nothing to do. -/
theorem Board.Idle.dispatch {job : Job} {run : Run} (h : run.board.Idle job)
    (hc : run.cancelled = false) : run.dispatch job = .again run := by
  have hskip : run.skipPhase job = run := by
    unfold Run.skipPhase
    split
    · rfl
    · next hpolicy =>
      simp only [spreadSkips_of_blockedTasks_eq_nil (h.unblocked hpolicy), List.foldl_nil]
  have hstart : run.startPhase job = run := by
    simp only [Run.startPhase]
    rcases h.full with hfull | hready
    · rw [Nat.sub_eq_zero_of_le hfull, List.take_zero, List.foldl_nil]
    · rw [hready, List.take_nil, List.foldl_nil]
  have hle : ¬ job.tasks.length ≤ run.board.settled := Nat.not_le.2 h.unsettled
  simp [Run.dispatch, hskip, hstart, hle, hc, h.busy]

/-- Starting tasks blocks none, and leaves none that may start unless no more may be in flight. -/
theorem Board.Idle.of_dispatch {job : Job} {run run' : Run} (hrun : run.Books job [])
    (h : run.dispatch job = .again run') : run'.board.Idle job := by
  obtain ⟨-, hsettled, hrun', hbusy⟩ := of_dispatch_again h
  have hunblocked : job.config.policy = .skip →
      blockedTasks job.table (run.skipPhase job).board.states = [] := hrun.blockedTasks_skipPhase
  have hbooks : (run.skipPhase job).Books job [] := (Run.Books.kept job).skipPhase hrun
  generalize run.skipPhase job = run₁ at *
  rw [hbooks.startPhase_eq] at hrun'
  subst hrun'
  refine ⟨hsettled, fun hpolicy => ?_, ?_, hbusy⟩
  · refine List.eq_nil_iff_forall_not_mem.2 fun i hi => ?_
    obtain ⟨hp, d, hd, hdown⟩ := mem_blockedTasks_iff.1 hi
    refine List.eq_nil_iff_forall_not_mem.1 (hunblocked hpolicy) i (mem_blockedTasks_iff.2 ?_)
    exact ⟨((getElem?_foldl_set_of_ne (by decide)).1 hp).1, d, hd, downAt_of_foldl_executing hdown⟩
  · rcases Nat.le_total (readyTasks job.config.policy job.tasks job.table run₁.board.states).length
      (job.config.maxConcurrency - run₁.board.inFlight.length) with hall | hsome
    · -- all that may start was started
      refine .inr (List.eq_nil_iff_forall_not_mem.2 fun i hi => ?_)
      obtain ⟨hp, hmet⟩ := mem_readyTasks.1 hi
      obtain ⟨hp, hnot⟩ := (getElem?_foldl_set_of_ne (by decide)).1 hp
      rw [Run.started, List.take_of_length_le hall] at hnot
      exact hnot (mem_readyTasks.2 ⟨hp, fun d hd => met_of_foldl_executing (hmet d hd)⟩)
    · refine .inl ?_
      simp only [List.length_append, Run.started, List.length_take]
      omega

/-! ### Rounds -/

/-- The rounds of the coordinator, from one loop head to a later one. -/
abbrev Rounds (job : Job) : Run → Run → Prop :=
  Relation.ReflTransGen fun run run' => run.step job = .again run'

/-- The loop heads that a run passes. -/
def Passes (job : Job) (run : Run) : Prop :=
  Rounds job (.fresh job) run

theorem Reached.books {job : Job} {m : Moment} (h : Reached job m) : m.run.Books job [] :=
  (Run.Books.kept job).reached (.fresh job) h

/-- A coordinator that waits has nothing else to do. -/
theorem Reached.idle {job : Job} {m : Moment} (h : Reached job m) (hwait : m.point = .atWait) :
    m.run.board.Idle job := by
  induction h with
  | refl => cases hwait
  | @tail m m' hm hturn ih =>
    cases hturn with
    | callOff => exact ih hwait
    | move hmove =>
      cases hmove with
      | dispatch run =>
        cases hd : run.dispatch job with
        | again run' => exact .of_dispatch (Reached.books hm) hd
        | «over» ending run' =>
          rw [hd] at hwait
          cases hwait
      | receive | turnBack => cases hwait
      | work => exact ih hwait

namespace Moment

/-- The coordinator stands at a loop head, or where it has to wait on. -/
def AtRound (job : Job) (m : Moment) : Prop :=
  m.point = .atHead ∨ m.point = .atWait ∧ m.run.board.Idle job ∧ m.run.cancelled = false

namespace AtRound

variable {job : Job} {m : Moment} {run : Run} {ending : Ending}

theorem fresh (job : Job) : (Moment.fresh job).AtRound job := .inl rfl

/-- The coordinator listens where it has nothing else to do. -/
theorem dispatch_again (hm : m.run.Books job []) (h : m.AtRound job)
    (hd : m.run.dispatch job = .again run) : Turns job m ⟨.atWait, run⟩ ∧ run.board.Idle job := by
  obtain ⟨point, run₀⟩ := m
  rcases h with rfl | ⟨rfl, hidle, hc⟩
  · have hmove := @Move.dispatch job run₀
    rw [hd] at hmove
    exact ⟨.single (.move hmove), .of_dispatch hm hd⟩
  · rw [hidle.dispatch hc] at hd
    cases hd
    exact ⟨.refl, hidle⟩

theorem dispatch_over (h : m.AtRound job) (hd : m.run.dispatch job = .over ending run) :
    Turns job m ⟨.over ending, run⟩ := by
  obtain ⟨point, run₀⟩ := m
  rcases h with rfl | ⟨-, hidle, hc⟩
  · have hmove := @Move.dispatch job run₀
    rw [hd] at hmove
    exact .single (.move hmove)
  · rw [hidle.dispatch hc] at hd
    cases hd

/-- While tasks are in flight and there is no report, there are flights. -/
theorem nextTime?_ne_none (hrun : run.Books job []) (hbusy : run.board.inFlight ≠ [])
    (hr : run.receive? job = none) : run.nextTime? ≠ none := by
  have hmailbox : run.mailbox = [] := by
    unfold Run.receive? at hr
    split at hr
    · assumption
    · cases hr
  intro hnone
  have hflights : run.flights = [] := by
    simpa [Run.nextTime?, List.min?_eq_none_iff] using hnone
  have hperm := hrun.manned
  rw [hflights, hmailbox] at hperm
  exact hbusy hperm.nil_eq.symm

/-- A round is a row of turns that leads to the next one. -/
theorem step_again (hm : m.run.Books job []) (h : m.AtRound job)
    (hs : m.run.step job = .again run) :
    ∃ point, Turns job m ⟨point, run⟩ ∧ AtRound job ⟨point, run⟩ := by
  unfold Run.step at hs
  split at hs
  · cases hs
  next run₁ hd =>
  obtain ⟨hwait, hidle⟩ := h.dispatch_again hm hd
  have hopen : ∀ ending, Point.atWait ≠ .over ending := fun _ => Point.noConfusion
  split at hs
  · cases hs
  next hc =>
  split at hs
  · next hr =>
    cases hs
    exact ⟨.atHead, hwait.tail (.move (.receive hr)), .inl rfl⟩
  · unfold Run.wait at hs
    split at hs
    · cases hs
    next next hn =>
    have hdue : run₁.flights.any (·.isDue next) = true := by
      simpa using Run.exists_isDue_of_nextTime? hn
    have hwoken : Turns job m ⟨.atWait, run₁.wake job next⟩ :=
      hwait.trans (Run.turns_wake job hopen run₁ hdue)
    have hround : AtRound job ⟨.atWait, run₁.wake job next⟩ :=
      .inr ⟨rfl, hidle, Bool.eq_false_iff.2 hc⟩
    split at hs
    · cases hs
      exact ⟨.atWait, hwoken, hround⟩
    next stop _ =>
      split at hs <;> cases hs
      · have hturns := hwait.trans (Run.turns_wake_cancelled job hopen run₁ stop)
        exact ⟨.atHead, hturns.tail (.move (.turnBack rfl)), .inl rfl⟩
      · exact ⟨.atWait, hwoken, hround⟩

/-- The last round is a row of turns that leads to the end. -/
theorem step_over (hm : m.run.Books job []) (h : m.AtRound job)
    (hs : m.run.step job = .over ending run) : Turns job m ⟨.over ending, run⟩ := by
  unfold Run.step at hs
  split at hs
  · next hd =>
    cases hs
    exact h.dispatch_over hd
  next run₁ hd =>
  obtain ⟨hwait, hidle⟩ := h.dispatch_again hm hd
  split at hs
  · next hc =>
    cases hs
    -- at the next loop head the coordinator sees that the run was called off
    have hback := (hwait.tail (.move (.turnBack hc))).tail (.move (.dispatch run))
    have hd : run.dispatch job = .over .cancelled run := by
      have hlt : ¬ job.tasks.length ≤ run.board.settled := Nat.not_le.2 hidle.unsettled
      simp only [Run.dispatch, hlt, hc, if_true, if_false]
    rwa [hd] at hback
  · split at hs
    · cases hs
    next hr =>
    have hbooks : run₁.Books job [] := (Run.Books.kept job).turns hwait hm
    unfold Run.wait at hs
    split at hs
    · next hn => exact absurd hn (nextTime?_ne_none hbooks hidle.busy hr)
    · split at hs
      · cases hs
      · split at hs <;> cases hs

/-- Rounds are a row of turns. -/
theorem rounds (hm : m.run.Books job []) (h : m.AtRound job) (hr : Rounds job m.run run) :
    ∃ point, Turns job m ⟨point, run⟩ ∧ AtRound job ⟨point, run⟩ := by
  induction hr with
  | refl => exact ⟨m.point, .refl, h⟩
  | tail _ hs ih =>
    obtain ⟨point, hturns, hround⟩ := ih
    obtain ⟨point', hturns', hround'⟩ :=
      hround.step_again ((Run.Books.kept job).turns hturns hm) hs
    exact ⟨point', hturns.trans hturns', hround'⟩

/-- Rounds up to the end are a row of turns. -/
theorem finish (hm : m.run.Books job []) (h : m.AtRound job) (hrun : m.run = run) :
    Turns job m ⟨.over (run.finish job).1, (run.finish job).2⟩ := by
  fun_induction Run.finish job run generalizing m with
  | case1 run ending run' hs => exact h.step_over hm (hrun ▸ hs)
  | case2 run run' hs ih =>
    obtain ⟨point, hturns, hround⟩ := h.step_again hm (hrun ▸ hs)
    exact hturns.trans (ih ((Run.Books.kept job).turns hturns hm) hround rfl)

end AtRound

end Moment

variable {job : Job} {run run' : Run}

/-- The coordinator does not sleep past the time at which there is something to do on a flight. -/
theorem Run.le_nextTime {next now : Nat} (hn : run.nextTime? = some next) (hnow : now ≤ next) :
    ∀ f ∈ run.flights, now ≤ f.nextTime now := by
  intro f hf
  have hle : next ≤ f.nextTime run.clock :=
    (List.min?_eq_some_iff.1 hn).2 _ (List.mem_map.2 ⟨f, hf, rfl⟩)
  unfold Flight.nextTime at *
  split
  · exact Nat.le_refl _
  all_goals
    next hphase =>
    rw [hphase] at hle
    exact Nat.le_trans hnow hle

/-- An invariant of the coordinator that is also kept when due flights go on is kept in every round
of a run that is not called off at any time, or if it is kept then, too. -/
theorem KeptByCoordinator.step {P : List Nat → Run → Prop} (h : KeptByCoordinator job P)
    (hwake : ∀ run now, (∀ f ∈ run.flights, now ≤ f.nextTime now) → P [] run →
      P [] (run.wake job now))
    (hstop : job.cancellation.atTime = none ∨
      ∀ run : Run, P [] run → P [] { run with cancelled := true })
    (hrun : P [] run)
    (hs : run.step job = .again run' ∨ ∃ ending, run.step job = .over ending run') :
    P [] run' := by
  have hdispatch := h.dispatch hrun
  unfold Run.step at hs
  split at hs
  · next hd =>
    rw [hd] at hdispatch
    rcases hs with hs | ⟨_, hs⟩ <;> cases hs
    exact hdispatch
  next run₁ hd =>
  rw [hd] at hdispatch
  split at hs
  · rcases hs with hs | ⟨_, hs⟩ <;> cases hs
    exact hdispatch
  split at hs
  · next hr =>
    rcases hs with hs | ⟨_, hs⟩ <;> cases hs
    exact h.receive? hr hdispatch
  unfold Run.wait at hs
  split at hs
  · rcases hs with hs | ⟨_, hs⟩ <;> cases hs
    exact hdispatch
  next next hn =>
  have hwoken := fun now (hnow : now ≤ next) =>
    hwake run₁ now (Run.le_nextTime hn hnow) hdispatch
  split at hs
  · rcases hs with hs | ⟨_, hs⟩ <;> cases hs
    exact hwoken next (Nat.le_refl _)
  next stop htime =>
  split at hs <;> rcases hs with hs | ⟨_, hs⟩ <;> cases hs
  · next hearly =>
    rcases hstop with hnever | hstop
    · simp [hnever] at htime
    · exact hstop _ (hwoken stop hearly.2)
  · exact hwoken next (Nat.le_refl _)

theorem KeptByCoordinator.finish {P : List Nat → Run → Prop} (h : KeptByCoordinator job P)
    (hwake : ∀ run now, (∀ f ∈ run.flights, now ≤ f.nextTime now) → P [] run →
      P [] (run.wake job now))
    (hstop : job.cancellation.atTime = none ∨
      ∀ run : Run, P [] run → P [] { run with cancelled := true })
    (hrun : P [] run) : P [] (run.finish job).2 := by
  fun_induction Run.finish job run with
  | case1 run ending run' hs => exact h.step hwake hstop hrun (.inr ⟨ending, hs⟩)
  | case2 run run' hs ih => exact ih (h.step hwake hstop hrun (.inl hs))

/-- The loop heads that a run passes are moments that can be reached, one after the other. -/
theorem Passes.turns (h : Passes job run) (h' : Rounds job run run') :
    ∃ point point', Reached job ⟨point, run⟩ ∧ Turns job ⟨point, run⟩ ⟨point', run'⟩ := by
  obtain ⟨point, hturns, hround⟩ := (Moment.AtRound.fresh job).rounds (.fresh job) h
  obtain ⟨point', hturns', -⟩ := hround.rounds (Reached.books hturns) h'
  exact ⟨point, point', hturns, hturns'⟩

theorem Passes.reached (h : Passes job run) : ∃ point, Reached job ⟨point, run⟩ :=
  let ⟨point, _, hreached, _⟩ := h.turns .refl
  ⟨point, hreached⟩

/-- The coordinator listens at moments that can be reached. -/
theorem Passes.reached_atWait (h : Passes job run) (hd : run.dispatch job = .again run') :
    Reached job ⟨.atWait, run'⟩ := by
  obtain ⟨point, hturns, hround⟩ := (Moment.AtRound.fresh job).rounds (.fresh job) h
  exact Reached.turns hturns (hround.dispatch_again (Reached.books hturns) hd).1

theorem schedule_eq (hconfig : job.config.check = .ok ()) (hgraph : checkGraph job.tasks = .ok ()) :
    schedule job = .ok ((Run.fresh job).finish job) := by
  simp only [schedule, hconfig, hgraph]

/-- The answer of `schedule` is the end of the rounds. -/
theorem finish_of_schedule {ending : Ending} (h : schedule job = .ok (ending, run)) :
    (Run.fresh job).finish job = (ending, run) := by
  unfold schedule at h
  split at h
  · cases h
  · split at h
    · cases h
    · exact Except.ok.inj h

/-- Whichever loop head a run is looked at, it ends in the same way. -/
theorem Rounds.finish_eq (h : Rounds job run run') : run.finish job = run'.finish job := by
  induction h with
  | refl => rfl
  | tail _ hs ih =>
    rw [ih, Run.finish]
    split
    · next heq => rw [hs] at heq; cases heq
    · next heq => rw [hs] at heq; cases heq; rfl

/-- Every loop head leads to the end of the run. -/
theorem Passes.turns_over {ending : Ending} (h : Passes job run)
    (h' : schedule job = .ok (ending, run')) :
    ∃ point, Reached job ⟨point, run⟩ ∧ Turns job ⟨point, run⟩ ⟨.over ending, run'⟩ := by
  obtain ⟨point, hturns, hround⟩ := (Moment.AtRound.fresh job).rounds (.fresh job) h
  have hend := hround.finish (Reached.books hturns) rfl
  rw [← h.finish_eq, finish_of_schedule h'] at hend
  exact ⟨point, hturns, hend⟩

/-- The end of a run is a moment that can be reached. -/
theorem reached_of_schedule {ending : Ending} (h : schedule job = .ok (ending, run)) :
    Reached job ⟨.over ending, run⟩ := by
  obtain ⟨point, hreached, hturns⟩ := Passes.turns_over .refl h
  exact hreached.turns hturns

/-! ### A sample -/

/-- A task of the sample. -/
def sampleTask (id : String) (dependencies : List String) : Task :=
  { id, kind := .component, prompt := "", context := .null, expectedOutput := ⟨"tsx", none, []⟩,
    priority := 0, dependencies }

/-- A job in which a task completes at the second attempt, one fails for good and one is skipped. -/
def sample : Job where
  tasks := [sampleTask "orders" [], sampleTask "users" ["orders"],
    sampleTask "portal" ["orders", "users"]]
  config := { maxConcurrency := 2, retryAttempts := 1 }
  worker := fun task attempt =>
    if task.id = "users" then ⟨7, .error (.permanent "no such table")⟩
    else if attempt = 1 then ⟨5, .error (.transient "busy")⟩
    else ⟨5, .ok ⟨.null, none⟩⟩

theorem check_sample : sample.config.check = .ok () := by decide

theorem checkGraph_sample : checkGraph sample.tasks = .ok () := by decide +kernel

theorem schedule_sample : schedule sample = .ok ((Run.fresh sample).finish sample) :=
  schedule_eq check_sample checkGraph_sample

theorem states_sample :
    ((Run.fresh sample).finish sample).2.board.states = [.completed, .failed, .skipped] := by
  decide +kernel

end Mockup.Schedule
