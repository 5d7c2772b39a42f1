import Mathlib.Data.List.Forall2
import Mockup.Generation.Generator
import Mockup.Proofs.Progress.Reports

/-!
# The events that listeners receive

* `Step.Tells`: the event that listeners hear of a step;
* `Session.Sound`: the reports that listeners heard are those of the tracker, with
  `Session.Sound.tell`;
* `Session.foldl_tell`: until the run is over listeners hear of every step once, in order;
* `Step.Enters`: the beginning of a stage, with `Step.Enters.heard`;
* `Answered`: between one settled task and the next there is exactly one report that tasks settle,
  with `answered_settlingSteps`.
-/

namespace Mockup

/-- The report that an event is. -/
def RunEvent.report? : RunEvent → Option Report
  | .progress r => some r
  | .taskCompleted _ => none

/-- The result of the task that an event is about. -/
def RunEvent.result? : RunEvent → Option Settlement
  | .taskCompleted r => some r
  | .progress _ => none

/-- The run is over after the step. -/
def Step.endsRun : Step → Bool
  | .milestone m => m.stage.endsRun
  | .task _ => false

/-- The task that settles in a step. -/
def Step.result? : Step → Option Settlement
  | .task r => some r
  | .milestone _ => none

/-- The event that listeners hear of a step. -/
inductive Step.Tells : Step → RunEvent → Prop
  | task (r : Settlement) : Tells (.task r) (.taskCompleted r)
  | milestone {m : Milestone} {r : Report} (h : r.stage = m.stage) :
      Tells (.milestone m) (.progress r)

theorem Step.Tells.result?_eq {step : Step} {e : RunEvent} (h : step.Tells e) :
    e.result? = step.result? := by
  cases h <;> rfl

namespace Session

/-- The reports that listeners heard are those of the tracker. -/
structure Sound (s : Session) : Prop where
  orderly : s.tracker.Orderly
  heard : s.events.filterMap RunEvent.report? = s.tracker.history

namespace Sound

theorem fresh : Sound {} := ⟨.fresh, rfl⟩

theorem tell {s : Session} (h : s.Sound) (step : Step) : (s.tell step).Sound := by
  cases step with
  | task r =>
    refine ⟨h.orderly, ?_⟩
    show (s.events ++ [RunEvent.taskCompleted r]).filterMap RunEvent.report? = s.tracker.history
    rw [List.filterMap_append, h.heard]
    exact List.append_nil _
  | milestone m =>
    refine ⟨h.orderly.reach m, ?_⟩
    -- what is new are the reports behind those that were there
    have hnew : ∃ new, (s.tracker.reach m).history = s.tracker.history ++ new := by
      cases hover : s.tracker.finished with
      | true => exact ⟨[], by rw [Tracker.reach_of_finished hover, List.append_nil]⟩
      | false =>
        obtain ⟨r, hr, -⟩ := Tracker.reach_of_open hover m
        exact ⟨[r], hr⟩
    obtain ⟨new, hnew⟩ := hnew
    have hreports : (new.map RunEvent.progress).filterMap RunEvent.report? = new := by
      rw [List.filterMap_map]
      exact List.filterMap_some
    simp only [Session.tell, hnew, List.drop_left, List.filterMap_append, h.heard, hreports]

theorem foldl_tell {s : Session} (h : s.Sound) (steps : List Step) :
    (steps.foldl Session.tell s).Sound := by
  induction steps generalizing s with
  | nil => exact h
  | cons step steps ih => exact ih (h.tell step)

end Sound

/-- Until the run is over listeners hear of a step once. -/
theorem tell_of_open {s : Session} (h : s.tracker.finished = false) (step : Step) :
    ∃ e, (s.tell step).events = s.events ++ [e] ∧ step.Tells e ∧
      (s.tell step).tracker.finished = step.endsRun := by
  cases step with
  | task r => exact ⟨_, rfl, .task r, h⟩
  | milestone m =>
    obtain ⟨r, hr, hstage, hover⟩ := Tracker.reach_of_open h m
    refine ⟨.progress r, ?_, .milestone hstage, hover⟩
    simp only [Session.tell, hr, List.drop_left, List.map_cons, List.map_nil]

/-- Until the run is over listeners hear of every step once, in order. -/
theorem foldl_tell {s : Session} (h : s.tracker.finished = false) {steps : List Step}
    (hsteps : ∀ step ∈ steps, step.endsRun = false) :
    ∃ events, (steps.foldl Session.tell s).events = s.events ++ events ∧
      List.Forall₂ Step.Tells steps events ∧
      (steps.foldl Session.tell s).tracker.finished = false := by
  induction steps generalizing s with
  | nil => exact ⟨[], (List.append_nil _).symm, .nil, h⟩
  | cons step steps ih =>
    obtain ⟨e, he, htells, hover⟩ := tell_of_open h step
    rw [hsteps step List.mem_cons_self] at hover
    obtain ⟨events, hevents, hall, hopen⟩ :=
      ih hover fun step hstep => hsteps step (List.mem_cons_of_mem _ hstep)
    refine ⟨e :: events, ?_, .cons htells hall, hopen⟩
    rw [List.foldl_cons, hevents, he, List.append_assoc]
    rfl

end Session

/-! ### Reports that tasks settle -/

/-- The event is a report that tasks are run. -/
def RunEvent.isRunning : RunEvent → Bool
  | .progress r => r.stage == .running
  | .taskCompleted _ => false

/-- Between one settled task and the next there is exactly one report that tasks are run, and it
comes first. -/
def Answered (events : List RunEvent) : Prop :=
  ∀ before r after, events = before ++ .taskCompleted r :: after →
    ∃ report rest, after = .progress report :: rest ∧ report.stage = .running ∧
      ∀ e ∈ rest.takeWhile RunEvent.isProgress, e.isRunning = false

namespace Answered

variable {events : List RunEvent} {report : Report}

/-- Without a task that settles, there is nothing to answer. -/
theorem of_isProgress (h : ∀ e ∈ events, e.isProgress = true) : Answered events := by
  intro before r after heq
  have hno := h (.taskCompleted r) (heq ▸ by simp)
  cases hno

theorem progress (h : Answered events) (report : Report) :
    Answered (.progress report :: events) := by
  intro before r after heq
  cases before with
  | nil => cases heq
  | cons e before =>
    obtain ⟨-, heq⟩ := List.cons.inj heq
    exact h before r after heq

theorem append (h : Answered events) {front : List RunEvent}
    (hfront : ∀ e ∈ front, e.isProgress = true) : Answered (front ++ events) := by
  induction front with
  | nil => exact h
  | cons e front ih =>
    have hrest := ih fun e he => hfront e (List.mem_cons_of_mem _ he)
    cases e with
    | progress report => exact hrest.progress report
    | taskCompleted r => exact absurd (hfront _ List.mem_cons_self) (by simp [RunEvent.isProgress])

theorem task (h : Answered events) (r : Settlement) (hstage : report.stage = .running)
    (hquiet : ∀ e ∈ events.takeWhile RunEvent.isProgress, e.isRunning = false) :
    Answered (.taskCompleted r :: .progress report :: events) := by
  intro before r' after heq
  cases before with
  | nil =>
    cases heq
    exact ⟨report, events, rfl, hstage, hquiet⟩
  | cons e before =>
    obtain ⟨-, heq⟩ := List.cons.inj heq
    exact h.progress report before r' after heq

end Answered

/-- The step enters one of these stages. -/
def Step.Enters (stages : List Stage) (step : Step) : Prop :=
  ∃ stage message, step = entering stage message ∧ stage ∈ stages

theorem Step.Enters.endsRun_eq {stages : List Stage} {step : Step} (h : step.Enters stages)
    (hstages : ∀ stage ∈ stages, stage.endsRun = false) : step.endsRun = false := by
  obtain ⟨stage, message, rfl, hmem⟩ := h
  exact hstages stage hmem

/-- Every event is heard of one of the steps. -/
theorem Step.exists_tells {steps : List Step} {events : List RunEvent}
    (htells : List.Forall₂ Step.Tells steps events) :
    ∀ e ∈ events, ∃ step ∈ steps, step.Tells e := by
  induction htells with
  | nil => simp
  | @cons step e steps events h _ ih =>
    intro e' he'
    rcases List.mem_cons.1 he' with rfl | he'
    · exact ⟨step, List.mem_cons_self, h⟩
    · obtain ⟨step', hstep', h'⟩ := ih e' he'
      exact ⟨step', List.mem_cons_of_mem _ hstep', h'⟩

/-- Listeners hear of the beginning of a stage as a report on that stage. -/
theorem Step.Enters.heard {stages : List Stage} {step : Step} {e : RunEvent}
    (h : step.Enters stages) (htells : step.Tells e) :
    ∃ r, e = .progress r ∧ r.stage ∈ stages := by
  obtain ⟨stage, message, rfl, hmem⟩ := h
  cases htells with
  | milestone hstage => exact ⟨_, rfl, hstage ▸ hmem⟩

/-- Of tasks that settle one after the other each is answered by one report that tasks are run, if
what follows are no such reports. -/
theorem answered_settlingSteps {total : Nat} (results : List Settlement) (count : Nat)
    {steps : List Step} {events : List RunEvent}
    (htells : List.Forall₂ Step.Tells (settlingSteps total count results ++ steps) events)
    (hrest : ∀ step ∈ steps, ∀ e, step.Tells e → e.isProgress = true ∧ e.isRunning = false) :
    Answered events := by
  induction results generalizing count events with
  | nil =>
    refine .of_isProgress fun e he => ?_
    obtain ⟨step, hstep, htells⟩ := Step.exists_tells htells e he
    exact (hrest step hstep e htells).1
  | cons r results ih =>
    obtain ⟨told, after, htask, hafter, rfl⟩ := List.forall₂_cons_left_iff.1 htells
    obtain ⟨answer, others, hreport, hothers, rfl⟩ := List.forall₂_cons_left_iff.1 hafter
    cases htask with
    | task =>
      cases hreport with
      | milestone hstage =>
        refine (ih (count + 1) hothers).task r hstage ?_
        cases results with
        | nil =>
          intro e he
          obtain ⟨step, hstep, htells⟩ :=
            Step.exists_tells hothers e ((List.takeWhile_sublist _).subset he)
          exact (hrest step hstep e htells).2
        | cons r' results =>
          -- the next task settles at once
          obtain ⟨next, -, hnext, -, rfl⟩ := List.forall₂_cons_left_iff.1 hothers
          cases hnext with
          | task => simp [RunEvent.isProgress]

end Mockup
