import Mockup.Proofs.Generation.Course
import Mockup.Proofs.Schedule.Results
import Mockup.Proofs.Task.Plan

/-!
# The reports of a run and the item that it stores

* `Generation.ClosesWith`: the last report says how the run ended;
* `Generation.WellTold`: the properties of all reports of a run, and of the store after it;
* `Generation.Hearing`: the events of a run, part by part, with `Generation.Hearing.closes` and
  `Generation.Hearing.answered`;
* `Generator.every_course_told`: every course of a run is well told, that of `Generator.run` too.
-/

namespace Mockup

namespace Generation

/-- The last report says how the run ended: well, at a hundred percent, or with the text of the
error, where the run had got to. -/
def ClosesWith (before : List Report) (last : Report) : Except Failure Outcome → Prop
  | .ok _ => last.stage = .complete ∧ last.percent = 100 ∧ last.error = none
  | .error failure => last.stage = .error ∧ last.error = some failure.message ∧
      ∃ previous, before.getLast? = some previous ∧ last.percent = previous.percent

/-- The store has one item more, the one that the run answers, or it is as it was. -/
def Stores (store after : Store) : Except Failure Outcome → Prop
  | .ok outcome => after.items = store.items ++ [outcome.stored]
  | .error _ => after = store

/-- Percentages rise up to a hundred at most, and the last report, and no other one, ends the run.
Listeners hear of all reports in order, and of no task twice; each task that settles is answered by
one report.  The store has one item more just if the run ends well. -/
structure WellTold (request : Request) (store : Store) (gen : Generation) : Prop where
  rising : (gen.reports.map (·.percent)).Pairwise (· ≤ ·)
  percent_le : ∀ r ∈ gen.reports, r.percent ≤ 100
  closes : ∃ before last, gen.reports = before ++ [last] ∧ last.stage.endsRun = true ∧
    (∀ r ∈ before, r.stage.endsRun = false) ∧ ClosesWith before last gen.outcome
  heard : gen.session.events.filterMap RunEvent.report? = gen.reports
  tasks_once : ((gen.session.events.filterMap RunEvent.result?).map (·.taskId)).Nodup
  tasks_planned : ∀ r ∈ gen.session.events.filterMap RunEvent.result?,
    ∃ schema, readSchema request.schemaText = .ok schema ∧
      ∃ t ∈ planTasks request.preferences (suggest schema), Schedule.IsReport t r
  answered : Answered gen.session.events
  stores : Stores store gen.store gen.outcome
  stores_iff : (∃ item, gen.store.items = store.items ++ [item]) ↔
    ∃ outcome, gen.outcome = .ok outcome

end Generation

/-! ### Steps and events -/

theorem Step.filterMap_result? {steps : List Step} {events : List RunEvent}
    (h : List.Forall₂ Step.Tells steps events) :
    events.filterMap RunEvent.result? = steps.filterMap Step.result? := by
  induction h with
  | nil => rfl
  | cons hstep _ ih => rw [List.filterMap_cons, List.filterMap_cons, hstep.result?_eq, ih]

theorem Step.Enters.result?_eq {stages : List Stage} {step : Step} (h : step.Enters stages) :
    step.result? = none := by
  obtain ⟨stage, message, rfl, -⟩ := h
  rfl

theorem filterMap_settlingSteps (total count : Nat) (results : List Settlement) :
    (settlingSteps total count results).filterMap Step.result? = results := by
  induction results generalizing count with
  | nil => rfl
  | cons r results ih =>
    show r :: (settlingSteps total (count + 1) results).filterMap Step.result? = r :: results
    rw [ih]

theorem endsRun_settlingSteps (total count : Nat) (results : List Settlement) :
    ∀ step ∈ settlingSteps total count results, step.endsRun = false := by
  induction results generalizing count with
  | nil => simp [settlingSteps]
  | cons r results ih =>
    intro step hstep
    rcases List.mem_cons.1 hstep with rfl | hstep
    · rfl
    rcases List.mem_cons.1 hstep with rfl | hstep
    · rfl
    · exact ih (count + 1) step hstep

theorem Step.Enters.filterMap_result? {stages : List Stage} {steps : List Step}
    (h : ∀ step ∈ steps, step.Enters stages) : steps.filterMap Step.result? = [] :=
  List.filterMap_eq_nil_iff.2 fun step hstep => (h step hstep).result?_eq

theorem Step.Enters.isProgress {stages : List Stage} {step : Step} {e : RunEvent}
    (h : step.Enters stages) (htold : step.Tells e) : e.isProgress = true := by
  obtain ⟨r, rfl, -⟩ := h.heard htold
  rfl

theorem Step.Enters.quiet {stages : List Stage} {step : Step} {e : RunEvent}
    (h : step.Enters stages) (hstages : Stage.running ∉ stages) (htold : step.Tells e) :
    e.isProgress = true ∧ e.isRunning = false := by
  obtain ⟨r, rfl, hmem⟩ := h.heard htold
  refine ⟨rfl, beq_false_of_ne ?_⟩
  rintro heq
  exact hstages (heq ▸ hmem)

theorem Generation.ClosedBy.quiet {outcome : Except Failure Outcome} {closing : Milestone}
    {e : RunEvent} (h : Generation.ClosedBy outcome closing)
    (htold : (Step.milestone closing).Tells e) : e.isProgress = true ∧ e.isRunning = false := by
  cases htold with
  | milestone hstage =>
    refine ⟨rfl, beq_false_of_ne ?_⟩
    rw [hstage]
    cases outcome with
    | ok outcome =>
      obtain ⟨message, rfl⟩ := h
      exact Stage.noConfusion
    | error failure =>
      cases h
      exact Stage.noConfusion

/-- Listeners hear of the first stage. -/
theorem Session.Sound.exists_report {s : Session} (h : s.Sound) {stages : List Stage}
    {step : Step} {front steps : List Step} (hfront : ∀ step' ∈ step :: front, step'.Enters stages)
    (htells : List.Forall₂ Step.Tells (step :: steps) s.events) :
    ∃ first, first ∈ s.tracker.history := by
  obtain ⟨e, events, htold, -, heq⟩ := List.forall₂_cons_left_iff.1 htells
  obtain ⟨first, rfl, -⟩ := (hfront step List.mem_cons_self).heard htold
  refine ⟨first, ?_⟩
  rw [← h.heard, heq]
  exact List.mem_cons_self

/-- Before the run is closed no report says that it is over. -/
theorem Session.Sound.endsRun_eq {s : Session} (h : s.Sound) {steps : List Step}
    (htells : List.Forall₂ Step.Tells steps s.events)
    (hopen : ∀ step ∈ steps, step.endsRun = false) :
    ∀ r ∈ s.tracker.history, r.stage.endsRun = false := by
  intro r hr
  rw [← h.heard] at hr
  obtain ⟨e, he, hreport⟩ := List.mem_filterMap.1 hr
  obtain ⟨step, hstep, htold⟩ := Step.exists_tells htells e he
  have hstep := hopen step hstep
  cases htold with
  | task => cases hreport
  | milestone hstage =>
    cases hreport
    rw [hstage]
    exact hstep

/-- The last report says how the run ended. -/
theorem Session.Sound.closes {s : Session} (h : s.Sound) (hopen : s.tracker.finished = false)
    {first : Report} (hfirst : first ∈ s.tracker.history) {outcome : Except Failure Outcome}
    {closing : Milestone} (hclosed : Generation.ClosedBy outcome closing) :
    ∃ last, (s.tell (.milestone closing)).tracker.history = s.tracker.history ++ [last] ∧
      last.stage.endsRun = true ∧ Generation.ClosesWith s.tracker.history last outcome := by
  cases outcome with
  | ok outcome =>
    obtain ⟨message, rfl⟩ := hclosed
    exact ⟨_, Tracker.reach_completed h.orderly hopen message, rfl, rfl, rfl, rfl⟩
  | error failure =>
    cases hclosed
    have hlast := List.getLast?_eq_some_getLast (List.ne_nil_of_mem hfirst)
    exact ⟨_, Tracker.reach_failed h.orderly hopen failure.message, rfl, rfl, rfl, _, hlast,
      (h.orderly.percent_last _ hlast).symm⟩

namespace Generator

theorem enters_openingSteps : ∀ step ∈ openingSteps, step.Enters [.reading] := by
  intro step hstep
  obtain rfl := List.mem_singleton.1 hstep
  exact ⟨_, _, rfl, by simp⟩

/-! ### All that listeners hear -/

theorem endsRun_planning {planning : List Step}
    (h : ∀ step ∈ planning, step.Enters [.suggesting, .planning, .running]) :
    ∀ step ∈ openingSteps ++ planning, step.endsRun = false := by
  intro step hstep
  rcases List.mem_append.1 hstep with hstep | hstep
  · exact (enters_openingSteps step hstep).endsRun_eq (by decide)
  · exact (h step hstep).endsRun_eq (by decide)

theorem endsRun_finishing {total : Nat} {results : List Settlement} {finishing : List Step}
    (h : ∀ step ∈ finishing, step.Enters [.merging, .assembling]) :
    ∀ step ∈ settlingSteps total 0 results ++ finishing, step.endsRun = false := by
  intro step hstep
  rcases List.mem_append.1 hstep with hstep | hstep
  · exact endsRun_settlingSteps _ _ _ step hstep
  · exact (h step hstep).endsRun_eq (by decide)

end Generator

open Generator

/-- All that listeners hear of a run, in parts: until tasks settle, until the run is closed, and
when it is. -/
structure Generation.Hearing (gen : Generation) where
  session : Session
  early : List RunEvent
  late : List RunEvent
  last : RunEvent
  planning : List Step
  finishing : List Step
  total : Nat
  closing : Milestone
  sound : session.Sound
  isOpen : session.tracker.finished = false
  events_eq : session.events = early ++ late
  session_eq : gen.session = session.tell (.milestone closing)
  last_eq : (session.tell (.milestone closing)).events = session.events ++ [last]
  tellsEarly : List.Forall₂ Step.Tells (openingSteps ++ planning) early
  tellsLate : List.Forall₂ Step.Tells (settlingSteps total 0 gen.settled ++ finishing) late
  tellsLast : (Step.milestone closing).Tells last
  entersEarly : ∀ step ∈ planning, step.Enters [.suggesting, .planning, .running]
  entersLate : ∀ step ∈ finishing, step.Enters [.merging, .assembling]
  closedBy : Generation.ClosedBy gen.outcome closing

namespace Generation.Hearing

variable {gen : Generation} (hearing : gen.Hearing)

include hearing

theorem sound_session : gen.session.Sound :=
  hearing.session_eq ▸ hearing.sound.tell _

theorem tells : List.Forall₂ Step.Tells (openingSteps ++ hearing.planning
    ++ (settlingSteps hearing.total 0 gen.settled ++ hearing.finishing)) hearing.session.events :=
  hearing.events_eq ▸ List.rel_append hearing.tellsEarly hearing.tellsLate

/-- Listeners hear of the tasks in the order in which they settled. -/
theorem results_eq : gen.session.events.filterMap RunEvent.result? = gen.settled := by
  have hlast : [hearing.last].filterMap RunEvent.result? = [] := by
    rw [Step.filterMap_result? (.cons hearing.tellsLast .nil)]
    rfl
  rw [hearing.session_eq, hearing.last_eq, List.filterMap_append, hlast,
    Step.filterMap_result? hearing.tells]
  simp only [List.filterMap_append, Step.Enters.filterMap_result? enters_openingSteps,
    Step.Enters.filterMap_result? hearing.entersEarly,
    Step.Enters.filterMap_result? hearing.entersLate, filterMap_settlingSteps, List.nil_append,
    List.append_nil]

/-- The last report, and no other one, says that the run is over, and how it ended. -/
theorem closes : ∃ before last, gen.reports = before ++ [last] ∧ last.stage.endsRun = true ∧
    (∀ r ∈ before, r.stage.endsRun = false) ∧ ClosesWith before last gen.outcome := by
  obtain ⟨first, hfirst⟩ := hearing.sound.exists_report enters_openingSteps hearing.tells
  obtain ⟨last, hlast, hover, hcloses⟩ :=
    hearing.sound.closes hearing.isOpen hfirst hearing.closedBy
  refine ⟨hearing.session.tracker.history, last, ?_, hover, ?_, hcloses⟩
  · rw [Generation.reports, hearing.session_eq, hlast]
  · refine hearing.sound.endsRun_eq hearing.tells fun step hstep => ?_
    exact (List.mem_append.1 hstep).elim (endsRun_planning hearing.entersEarly step)
      (endsRun_finishing hearing.entersLate step)

/-- Each task is answered by one report that tasks are run. -/
theorem answered : Answered gen.session.events := by
  rw [hearing.session_eq, hearing.last_eq, hearing.events_eq, List.append_assoc]
  have hrows : List.Forall₂ Step.Tells (settlingSteps hearing.total 0 gen.settled
      ++ (hearing.finishing ++ [.milestone hearing.closing])) (hearing.late ++ [hearing.last]) := by
    rw [← List.append_assoc]
    exact List.rel_append hearing.tellsLate (.cons hearing.tellsLast .nil)
  refine (answered_settlingSteps gen.settled 0 hrows ?_).append ?_
  · intro step hstep e htold
    rcases List.mem_append.1 hstep with hstep | hstep
    · exact (hearing.entersLate step hstep).quiet (by decide) htold
    · obtain rfl := List.mem_singleton.1 hstep
      exact hearing.closedBy.quiet htold
  · intro e he
    obtain ⟨step, hstep, htold⟩ := Step.exists_tells hearing.tellsEarly e he
    rcases List.mem_append.1 hstep with hstep | hstep
    · exact (enters_openingSteps step hstep).isProgress htold
    · exact (hearing.entersEarly step hstep).isProgress htold

end Generation.Hearing

namespace Generator

/-! ### The store -/

theorem items_create {store : Store} {ticket : Ticket} (artifact : Artifact)
    (hfresh : ∀ item ∈ store.items, item.id ≠ ticket.id) :
    (store.create ticket.id ticket.now artifact []).1.items
      = store.items ++ [(store.create ticket.id ticket.now artifact []).2] := by
  simp only [Store.create, Store.insert, List.append_cancel_right_eq, List.filter_eq_self]
  intro item hitem
  exact decide_eq_true (hfresh item hitem)

namespace Course

variable {g : Generator} {store : Store} {ticket : Ticket} {request : Request}
  {cancellation : Schedule.Cancellation} {gen : Generation}

/-- Only a run that ends well changes the store. -/
theorem stores (h : g.Course store ticket request cancellation gen)
    (hfresh : ∀ item ∈ store.items, item.id ≠ ticket.id) :
    Generation.Stores store gen.store gen.outcome := by
  cases h with
  | unreadable | offReading | offPlanning | refused | broken => rfl
  | @settled schema ending run results cancelled =>
    rcases conclude_cases store ticket request schema
        (runningSteps schema (g.jobFor request cancellation schema) run) { run with cancelled }
        results with ⟨fault, heq⟩ | ⟨artifact, -, -, heq⟩ <;> rw [heq]
    · rfl
    · exact items_create artifact hfresh

/-- No task settles twice, and only planned tasks do. -/
theorem settled_planned (h : g.Course store ticket request cancellation gen) :
    (gen.settled.map (·.taskId)).Nodup ∧ ∀ r ∈ gen.settled,
      ∃ schema, readSchema request.schemaText = .ok schema ∧
        ∃ t ∈ planTasks request.preferences (suggest schema), Schedule.IsReport t r := by
  rcases h.run_cases with hrun | ⟨schema, m, run, hschema, hreached, hrun, htrace⟩
  · simp [Generation.settled, hrun]
  · have hplanned := hreached.completions (nodup_planTasks request.preferences (suggest schema))
    simp only [Generation.settled, hrun, htrace]
    exact ⟨hplanned.1, fun r hr => ⟨schema, hschema, hplanned.2 r hr⟩⟩

/-- Every run that can happen is heard of in these parts. -/
theorem hearing (h : g.Course store ticket request cancellation gen) : Nonempty gen.Hearing := by
  obtain ⟨planning, finishing, total, closing, hsteps, hplanning, hfinishing, hclosed⟩ := h.steps_eq
  have hopen : ∀ step ∈ openingSteps ++ planning, step.endsRun = false :=
    endsRun_planning hplanning
  have hbody : ∀ step ∈ settlingSteps total 0 gen.settled ++ finishing, step.endsRun = false :=
    endsRun_finishing hfinishing
  obtain ⟨early, hearly, htellsEarly, hopenEarly⟩ := Session.foldl_tell (s := {}) rfl hopen
  obtain ⟨late, hlate, htellsLate, hopenLate⟩ := Session.foldl_tell hopenEarly hbody
  obtain ⟨last, hlast, htellsLast, -⟩ := Session.tell_of_open hopenLate (.milestone closing)
  refine ⟨⟨_, early, late, last, planning, finishing, total, closing,
    (Session.Sound.fresh.foldl_tell _).foldl_tell _, hopenLate, ?_, ?_, hlast, htellsEarly,
    htellsLate, htellsLast, hplanning, hfinishing, hclosed⟩⟩
  · rw [hlate, hearly]
    rfl
  · rw [Generation.session, hsteps]
    simp only [List.foldl_append, List.foldl_cons, List.foldl_nil]

/-- The store has one item more just if the run ends well. -/
theorem stores_iff (h : g.Course store ticket request cancellation gen)
    (hfresh : ∀ item ∈ store.items, item.id ≠ ticket.id) :
    (∃ item, gen.store.items = store.items ++ [item]) ↔ ∃ outcome, gen.outcome = .ok outcome := by
  have hstores := h.stores hfresh
  constructor
  · rintro ⟨item, hitem⟩
    cases hout : gen.outcome with
    | ok outcome => exact ⟨outcome, rfl⟩
    | error failure =>
      rw [hout] at hstores
      have hsame : gen.store = store := hstores
      rw [hsame] at hitem
      have hlen := congrArg List.length hitem
      simp at hlen
  · rintro ⟨outcome, hout⟩
    rw [hout] at hstores
    exact ⟨_, hstores⟩

/-- Every run that can happen is told to its end. -/
theorem told (h : g.Course store ticket request cancellation gen)
    (hfresh : ∀ item ∈ store.items, item.id ≠ ticket.id) : gen.WellTold request store := by
  obtain ⟨hearing⟩ := h.hearing
  have hsound := hearing.sound_session
  refine ⟨hsound.orderly.rising, ?_, hearing.closes, hsound.heard, ?_, ?_, hearing.answered,
    h.stores hfresh, h.stores_iff hfresh⟩
  · intro r hr
    exact Nat.le_trans (hsound.orderly.le_percent r hr) hsound.orderly.percent_le
  · rw [hearing.results_eq]
    exact h.settled_planned.1
  · rw [hearing.results_eq]
    exact h.settled_planned.2

end Course

/-- Take any request, any workers and any time at which somebody calls the run off, and a name under
which nothing is stored yet.  Of every run that can happen listeners hear percentages that never
fall and stay within a hundred, and one report, the last, that the run is over: at a hundred percent
if it ends well, and else with the text of the error and where the run had got to.  They hear of no
task twice, of each at once in one report, and of all reports that the run answers.  The store has
one item more, the one that is answered, if the run ends well, and else it is as it was.  So it is
with the run that the generator follows. -/
theorem every_course_told (g : Generator) (store : Store) (ticket : Ticket) (request : Request)
    (cancellation : Schedule.Cancellation) (hfresh : ∀ item ∈ store.items, item.id ≠ ticket.id) :
    (∀ gen, g.Course store ticket request cancellation gen → gen.WellTold request store) ∧
    (g.run store ticket request cancellation).WellTold request store :=
  ⟨fun _ h => h.told hfresh, (g.course_run store ticket request cancellation).told hfresh⟩

/-- A request for the list of one table. -/
def listRequest : Request :=
  { schemaText := "Table users \x7b\n  id int\n\x7d", name := "Shop"
    preferences := { views := some [.list] } }

/-- The store after a first run for that request. -/
def storeOfOne : Store := (prompt.run {} ⟨⟨7⟩, 3⟩ listRequest {}).store

theorem every_course_told_listRequest :
    (storeOfOne.items.map (·.id) = [⟨7⟩] ∧ ∀ item ∈ storeOfOne.items, item.id ≠ ⟨8⟩) ∧
    (prompt.run storeOfOne ⟨⟨8⟩, 5⟩ listRequest {}).WellTold listRequest storeOfOne ∧
    (prompt.run storeOfOne ⟨⟨8⟩, 5⟩ listRequest {}).store.items.map (·.id) = [⟨7⟩, ⟨8⟩] ∧
    (prompt.run storeOfOne ⟨⟨8⟩, 5⟩ listRequest {}).reports.map (·.percent)
      = [5, 15, 25, 35, 60, 85, 85, 92, 100] := by
  have hfresh : ∀ item ∈ storeOfOne.items, item.id ≠ ⟨8⟩ := by decide +kernel
  refine ⟨⟨by decide +kernel, hfresh⟩, ?_, by decide +kernel, by decide +kernel⟩
  exact (every_course_told prompt storeOfOne ⟨⟨8⟩, 5⟩ listRequest {} hfresh).2

end Generator

end Mockup
