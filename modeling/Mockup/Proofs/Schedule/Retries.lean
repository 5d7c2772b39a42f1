import Mockup.Proofs.Schedule.Attempts
import Mockup.Proofs.Schedule.Completion

/-!
# Retries

In a run, every task on which work has ended was worked on as the worker and the rules have it: not
one attempt more or less, each at its time, with the outcome of the last one as the result.

* `eventsAt`: the events of the attempts at one task;
* `Run.OnTime`: all work has got to where it should, with `Run.OnTime.finish`;
* `Run.RetriedAt`: the attempts at a task, with their times;
* `retries_in_time`: so it is with every result of the run that `schedule` follows;
* `longWaits`, `not_retriedAt_longWaits`: it is not so if waits of more than thirty years were to
  last as long as they are meant to.
-/

namespace Mockup.Schedule

/-! ### What is seen of one task -/

/-- An attempt at the task at place `i` begins or ends. -/
def Event.isAt (i : Nat) : Event → Bool
  | .began _ j | .ended _ j => j == i
  | .settled _ _ => false

/-- The events of the attempts at the task at place `i`. -/
def eventsAt (i : Nat) (trace : List Event) : List Event :=
  trace.filter (Event.isAt i)

@[simp] theorem eventsAt_append (i : Nat) (xs ys : List Event) :
    eventsAt i (xs ++ ys) = eventsAt i xs ++ eventsAt i ys :=
  List.filter_append ..

@[simp] theorem eventsAt_settled (i j : Nat) (r : Settlement) :
    eventsAt i [.settled j r] = [] := rfl

/-- The time of an attempt's begin or end. -/
def Event.time? : Event → Option Nat
  | .began t _ | .ended t _ => some t
  | .settled _ _ => none

/-- The attempts at a task are the events with which they begin. -/
theorem attemptsOf_eq_countP (trace : List Event) (i : Nat) :
    attemptsOf trace i = trace.countP (·.began? == some i) := by
  rw [attemptsOf, begun, List.count, List.countP_filterMap]
  refine List.countP_congr fun e _ => ?_
  cases e <;> simp [Event.began?]

theorem attemptsOf_eventsAt (trace : List Event) (i : Nat) :
    attemptsOf (eventsAt i trace) i = attemptsOf trace i := by
  rw [attemptsOf_eq_countP, attemptsOf_eq_countP, eventsAt, List.countP_filter]
  refine List.countP_congr fun e _ => ?_
  cases e <;> simp [Event.began?, Event.isAt]

theorem attemptsOf_flatMap (i k : Nat) (begun ended : Nat → Nat) :
    attemptsOf ((List.range' 1 k).flatMap fun j => [.began (begun j) i, .ended (ended j) i]) i
      = k := by
  induction k with
  | zero => rfl
  | succ k ih =>
    rw [attemptsOf_eq_countP] at *
    rw [List.range'_1_concat, List.flatMap_append, List.countP_append, ih]
    simp [Event.began?]

namespace Flight

variable {worker : Worker} {config : SchedulerRules} {now i : Nat}

/-- All that is seen of a flight is seen of its task. -/
theorem Moves.isAt {cancelled : Bool} {f : Flight} {p : Progress} (h : Moves now cancelled f p) :
    ∀ e ∈ p.events, e.isAt f.index = true := by
  induction h with
  | one h =>
    rcases h.effect with ⟨f', rfl, -⟩ | ⟨f', rfl, -⟩ | ⟨r, rfl, -⟩ | ⟨r, rfl, -⟩ <;>
      simp [Event.isAt]
  | cons h _ ih =>
    rw [(h.of_flight? rfl).1] at ih
    intro e he
    rcases List.mem_append.1 he with he | he
    · rcases h.effect with ⟨f', heq, -⟩ | ⟨f', heq, -⟩ | ⟨r, heq, -⟩ | ⟨r, heq, -⟩ <;> cases heq <;>
        simp_all [Event.isAt]
    · exact ih e he

theorem isAt_advance (f : Flight) :
    ∀ e ∈ (f.advance worker config now).events, e.isAt f.index = true :=
  (moves_advance f : f.Moves now false _).isAt

theorem eventsAt_advance (f : Flight) :
    eventsAt f.index (f.advance worker config now).events = (f.advance worker config now).events :=
  List.filter_eq_self.2 f.isAt_advance

theorem eventsAt_advance_of_ne {f : Flight} (hi : f.index ≠ i) :
    eventsAt i (f.advance worker config now).events = [] := by
  refine List.filter_eq_nil_iff.2 fun e he hat => ?_
  have hself := f.isAt_advance e he
  cases e with
  | began t j | ended t j => simp only [Event.isAt, beq_iff_eq] at *; omega
  | settled j r => cases hat

theorem eventsAt_flatMap_of_notMem {fs : List Flight} (hi : i ∉ fs.map (·.index)) :
    eventsAt i ((fs.map (advance worker config now)).flatMap (·.events)) = [] := by
  induction fs with
  | nil => rfl
  | cons f fs ih =>
    simp only [List.map_cons, List.mem_cons, not_or] at hi
    rw [List.map_cons, List.flatMap_cons, eventsAt_append, ih hi.2,
      eventsAt_advance_of_ne (Ne.symm hi.1), List.append_nil]

/-- Of flights at different tasks, each is seen for itself. -/
theorem eventsAt_flatMap {fs : List Flight} (hnodup : (fs.map (·.index)).Nodup) {f : Flight}
    (hf : f ∈ fs) : eventsAt f.index ((fs.map (advance worker config now)).flatMap (·.events))
      = (f.advance worker config now).events := by
  obtain ⟨pre, post, rfl⟩ := List.append_of_mem hf
  rw [List.map_append, List.map_cons, List.nodup_middle, List.nodup_cons, List.mem_append,
    not_or] at hnodup
  rw [List.map_append, List.map_cons, List.flatMap_append, List.flatMap_cons, eventsAt_append,
    eventsAt_append, eventsAt_flatMap_of_notMem hnodup.1.1, eventsAt_advance,
    eventsAt_flatMap_of_notMem hnodup.1.2, List.nil_append, List.append_nil]

end Flight

/-! ### Runs -/

namespace Run

/-- The result at a place is one of work on the task that stands there. -/
def WorkedAt (job : Job) (run : Run) (i : Nat) (r : Settlement) : Prop :=
  ∃ t, job.tasks[i]? = some t ∧ Worked job.worker job.config t i (eventsAt i run.trace) r

/-- All work has got to where the worker and the rules have it. -/
structure OnTime (job : Job) (run : Run) : Prop where
  flight : ∀ f ∈ run.flights, job.tasks[f.index]? = some f.task ∧
    f.OnTime job.worker job.config (eventsAt f.index run.trace)
  report : ∀ i r, (i, r) ∈ run.mailbox → run.WorkedAt job i r
  result : ∀ i r, run.board.results[i]? = some (some r) →
    r.isSkipped = true ∧ eventsAt i run.trace = [] ∨ run.WorkedAt job i r
  untouched : ∀ i s, run.board.states[i]? = some s → s = .pending ∨ s = .skipped →
    eventsAt i run.trace = []

namespace OnTime

variable {job : Job} {run : Run} {i : Nat} {due : List Nat}

theorem fresh (job : Job) : OnTime job (.fresh job) where
  flight := by simp [Run.fresh]
  report := by simp [Run.fresh]
  result := by simp [Run.fresh, Board.fresh, List.getElem?_replicate]
  untouched := by simp [Run.fresh, eventsAt]

theorem mark (h : OnTime job run) : OnTime job
    { run with board :=
      { run.board with states := (spreadSkips job.table run.board.states).2 } } where
  flight := h.flight
  report := h.report
  result := h.result
  untouched i s hi hs := by
    simp only [spreadSkips_snd, getElem?_markSkipped, Option.map_eq_some_iff] at hi
    obtain ⟨s', hs', heq⟩ := hi
    split at heq
    · next hmem => exact h.untouched i _ (pending_of_mem_spreadSkips hmem) (.inl rfl)
    · exact h.untouched i s' hs' (heq ▸ hs)

/-- A result that is taken down is that of work on the task, or of a skip. -/
theorem result_settle (h : OnTime job run) {r : Settlement} (state : Standing)
    (hr : r.isSkipped = true ∧ eventsAt i run.trace = [] ∨ run.WorkedAt job i r) :
    ∀ j r', (run.settle job i state r).board.results[j]? = some (some r') →
      r'.isSkipped = true ∧ eventsAt j (run.settle job i state r).trace = [] ∨
        (run.settle job i state r).WorkedAt job j r' := by
  intro j r' hj
  simp only [WorkedAt, settle, Board.settle, eventsAt_append, eventsAt_settled,
    List.append_nil] at hj ⊢
  rw [List.getElem?_set] at hj
  split at hj
  · next hij =>
    subst hij
    split at hj <;> cases hj
    exact hr
  · exact h.result j r' hj

theorem skip (hbooks : Books job (i :: due) run) (h : OnTime job run) :
    OnTime job (run.settleSkipped job i) := by
  have hskipped := hbooks.board.skipped_of_due i List.mem_cons_self
  obtain ⟨t, ht⟩ := hbooks.exists_task hskipped
  have hstates := hbooks.states_settleSkipped
  rw [settleSkipped_eq ht] at hstates ⊢
  refine ⟨fun f hf => ?_, fun j r hr => ?_, h.result_settle _ (.inl ⟨rfl, ?_⟩), fun j s hj hs => ?_⟩
  · simpa [settle] using h.flight f hf
  · simpa [WorkedAt, settle] using h.report j r hr
  · exact h.untouched i _ hskipped (.inr rfl)
  · rw [hstates] at hj
    simpa [settle] using h.untouched j s hj hs

theorem start (hbooks : Books job [] run) (hp : run.board.states[i]? = some .pending)
    (h : OnTime job run) : OnTime job (run.start job i) := by
  obtain ⟨t, ht⟩ := hbooks.exists_task hp
  rw [start_eq hp ht]
  refine ⟨fun f hf => ?_, h.report, h.result, fun j s hj hs => ?_⟩
  · rcases List.mem_append.1 hf with hf | hf
    · exact h.flight f hf
    · obtain rfl := List.mem_singleton.1 hf
      refine ⟨ht, ?_⟩
      have hnone : eventsAt i run.trace = [] := h.untouched i _ hp (.inl rfl)
      exact hnone.symm ▸ Flight.onTime_fresh i t
  · rw [getElem?_set_some hp] at hj
    split at hj
    · cases hj
      simp at hs
    · exact h.untouched j s hj hs

theorem receive {result : Settlement} {mailbox : List (Nat × Settlement)}
    (hbooks : Books job [] run) (hm : run.mailbox = (i, result) :: mailbox) (h : OnTime job run) :
    OnTime job ({ run with mailbox }.settle job i (.ofSuccess result.success) result) := by
  have hexec := hbooks.executing_of_report hm
  have hkept : OnTime job { run with mailbox } :=
    ⟨h.flight, fun j r hr => h.report j r (hm ▸ List.mem_cons_of_mem _ hr), h.result, h.untouched⟩
  refine ⟨fun f hf => ?_, fun j r hr => ?_, hkept.result_settle _ (.inr ?_), fun j s hj hs => ?_⟩
  · simpa [settle] using hkept.flight f hf
  · simpa [WorkedAt, settle] using hkept.report j r hr
  · exact h.report i result (hm ▸ List.mem_cons_self)
  · simp only [settle, Board.settle, getElem?_set_some hexec] at hj
    split at hj
    · cases hj
      cases hsuccess : result.success <;> simp [hsuccess, Standing.ofSuccess] at hs
    · simpa [settle] using h.untouched j s hj hs

/-- Nothing more is seen of tasks on which there is nothing to do. -/
theorem eventsAt_wake_of_notMem {now : Nat}
    (hi : i ∉ (run.flights.filter (·.isDue now)).map (·.index)) :
    eventsAt i (run.wake job now).trace = eventsAt i run.trace := by
  rw [Run.wake, eventsAt_append, Flight.eventsAt_flatMap_of_notMem hi, List.append_nil]

/-- Flights on which there is something to do get to where they should. -/
theorem landing_wake (hbooks : Books job [] run) {now : Nat}
    (hnow : ∀ f ∈ run.flights, now ≤ f.nextTime now) (h : OnTime job run) {f : Flight}
    (hf : f ∈ run.flights) (hdue : f.isDue now = true) :
    (f.advance job.worker job.config now).landing.OnTime job.worker job.config f.task f.index
      (eventsAt f.index (run.wake job now).trace) := by
  have hnodup : ((run.flights.filter (·.isDue now)).map (·.index)).Nodup :=
    hbooks.nodup_flights.sublist (List.filter_sublist.map _)
  rw [Run.wake, eventsAt_append, Flight.eventsAt_flatMap hnodup (List.mem_filter.2 ⟨hf, hdue⟩)]
  exact Flight.onTime_advance (h.flight f hf).2 hdue (hnow f hf)

theorem flight_wake (hbooks : Books job [] run) {now : Nat}
    (hnow : ∀ f ∈ run.flights, now ≤ f.nextTime now) (h : OnTime job run) :
    ∀ g ∈ (run.wake job now).flights, job.tasks[g.index]? = some g.task ∧
      g.OnTime job.worker job.config (eventsAt g.index (run.wake job now).trace) := by
  intro g hg
  rcases of_mem_flights_wake hg with ⟨hg, hwaits⟩ | ⟨f, hf, hdue, hland⟩
  · rw [eventsAt_wake_of_notMem]
    · exact h.flight g hg
    · intro hmem
      obtain ⟨f, hf, hsame⟩ := List.mem_map.1 hmem
      obtain ⟨hf, hdue⟩ := List.mem_filter.1 hf
      obtain rfl := List.inj_on_of_nodup_map hbooks.nodup_flights hf hg hsame
      simp [hdue] at hwaits
  · have hnext := landing_wake hbooks hnow h hf hdue
    rw [hland] at hnext
    obtain ⟨hi, ht, hnext⟩ := hnext
    rw [hi, ht]
    exact ⟨(h.flight f hf).1, hnext⟩

theorem report_wake (hbooks : Books job [] run) {now : Nat}
    (hnow : ∀ f ∈ run.flights, now ≤ f.nextTime now) (h : OnTime job run) :
    ∀ i r, (i, r) ∈ (run.wake job now).mailbox → (run.wake job now).WorkedAt job i r := by
  intro i r hr
  rcases of_mem_mailbox_wake hr with hr | ⟨f, hf, hdue, hland⟩
  · obtain ⟨t, ht, hworked⟩ := h.report i r hr
    refine ⟨t, ht, ?_⟩
    rw [eventsAt_wake_of_notMem]
    · exact hworked
    · intro hmem
      obtain ⟨f, hf, rfl⟩ := List.mem_map.1 hmem
      exact hbooks.index_ne_of_report (List.mem_filter.1 hf).1 hr rfl
  · have hnext := landing_wake hbooks hnow h hf hdue
    rw [hland] at hnext
    obtain ⟨rfl, hworked⟩ := hnext
    exact ⟨f.task, (h.flight f hf).1, hworked⟩

theorem wake (hbooks : Books job [] run) {now : Nat}
    (hnow : ∀ f ∈ run.flights, now ≤ f.nextTime now) (h : OnTime job run) :
    OnTime job (run.wake job now) := by
  -- of a task that is not executing nothing more is seen
  have hquiet : ∀ {i}, run.board.states[i]? ≠ some .executing →
      eventsAt i (run.wake job now).trace = eventsAt i run.trace := by
    refine fun hi => eventsAt_wake_of_notMem fun hmem => hi ?_
    obtain ⟨f, hf, rfl⟩ := List.mem_map.1 hmem
    exact hbooks.executing_of_flight (List.mem_filter.1 hf).1
  refine ⟨h.flight_wake hbooks hnow, h.report_wake hbooks hnow, fun i r hr => ?_,
    fun i s hi hs => ?_⟩
  · have hsettled := ((hbooks.board.result_iff i).1 ⟨r, hr⟩).1
    have hidle : run.board.states[i]? ≠ some .executing := by
      rcases hsettled with hi | hi | hi <;> rw [hi] <;> decide
    rw [WorkedAt, hquiet hidle]
    exact h.result i r hr
  · have hidle : run.board.states[i]? ≠ some .executing := by
      intro hexec
      have hsame : some s = some .executing := hi.symm.trans hexec
      cases hsame
      simp at hs
    rw [hquiet hidle]
    exact h.untouched i s hi hs

theorem keptByCoordinator (job : Job) :
    KeptByCoordinator job fun due run => Books job due run ∧ OnTime job run where
  mark _ _ h := ⟨h.1.mark, h.2.mark⟩
  skip _ _ _ h := ⟨h.1.skip, h.2.skip h.1⟩
  start _ _ hp _ hroom h := ⟨h.1.start hp hroom, h.2.start h.1 hp⟩
  receive _ _ _ _ hm h := ⟨h.1.receive hm, h.2.receive h.1 hm⟩

/-- Whenever the run is called off, up to its end all work gets to where it should. -/
theorem finish (hbooks : Books job [] run) (h : OnTime job run) : OnTime job (run.finish job).2 :=
  ((keptByCoordinator job).finish (fun _ now hnow h => ⟨h.1.wake now, h.2.wake h.1 hnow⟩)
    (.inr fun _ h => ⟨{ h.1 with }, { h.2 with }⟩) ⟨hbooks, h⟩).2

end OnTime

/-- The attempts at the task at place `i` and their result are as they should, if a wait for a span
of time lasts as `wait` says. -/
def RetriedAt (wait : Nat → Nat) (job : Job) (run : Run) (i : Nat) (r : Settlement) : Prop :=
  ∃ t k begun ended outcome, job.tasks[i]? = some t ∧
    Retried wait job.worker job.config t i (eventsAt i run.trace) r k begun ended outcome ∧
    r.metadata.attempts = k ∧ attemptsOf run.trace i = k ∧ k < 2 ^ 32 ∧
    ∀ j, 1 ≤ j → ended j ≤ begun j + job.config.timeout

theorem WorkedAt.retriedAt {job : Job} {run : Run} {i : Nat} {r : Settlement}
    (hretries : job.config.retryAttempts < 2 ^ 32 - 1) (h : run.WorkedAt job i r) :
    run.RetriedAt waitFor job i r := by
  obtain ⟨t, ht, k, begun, ended, outcome, hworked⟩ := h
  refine ⟨t, k, begun, ended, outcome, ht, hworked, ?_, ?_, ?_, fun j => hworked.timetable.ended_le⟩
  · cases hk : outcome k with
    | ok out => rw [hworked.of_ok out hk]; rfl
    | error e => rw [hworked.of_error e hk]; rfl
  · rw [← attemptsOf_eventsAt, hworked.seen_eq, attemptsOf_flatMap]
  · have hle : k ≤ job.config.retryAttempts + 1 :=
      hworked.isLeast.2 ⟨Nat.le_add_left 1 _, .inr (.inr rfl)⟩
    omega

end Run

/-- In a run, whatever the worker does and whenever the run is called off, every result is one of a
skip, and then there was no attempt, or the attempts at the task and their result are as they
should.  A run that nobody calls off has a result for every task. -/
theorem retries_in_time (job : Job) (hretries : job.config.retryAttempts < 2 ^ 32 - 1) :
    (∀ ending run, schedule job = .ok (ending, run) → ∀ i r,
      (i, r) ∈ run.mailbox ∨ run.board.results[i]? = some (some r) →
        r.isSkipped = true ∧ eventsAt i run.trace = [] ∨ run.RetriedAt waitFor job i r) ∧
    (job.config.check = .ok () → checkGraph job.tasks = .ok () → job.cancellation = {} →
      ∃ results run, schedule job = .ok (.finished results, run) ∧
        ∀ (i : Nat) t, job.tasks[i]? = some t → ∃ r, results[i]? = some r ∧
          (r.isSkipped = true ∧ eventsAt i run.trace = [] ∨ run.RetriedAt waitFor job i r)) := by
  have hall : ∀ ending run, schedule job = .ok (ending, run) → ∀ i r,
      (i, r) ∈ run.mailbox ∨ run.board.results[i]? = some (some r) →
        r.isSkipped = true ∧ eventsAt i run.trace = [] ∨ run.RetriedAt waitFor job i r := by
    intro ending run hrun i r hr
    have hontime : run.OnTime job := by
      have hfinish := Run.OnTime.finish (.fresh job) (.fresh job)
      rwa [finish_of_schedule hrun] at hfinish
    rcases hr with hr | hr
    · exact .inr ((hontime.report i r hr).retriedAt hretries)
    · exact (hontime.result i r hr).imp_right (·.retriedAt hretries)
  refine ⟨hall, fun hconfig hgraph hnever => ?_⟩
  obtain ⟨results, run, hrun, hcomplete⟩ := schedule_finished hconfig hgraph hnever
  refine ⟨results, run, hrun, fun i t ht => ?_⟩
  obtain ⟨r, hr, -⟩ := hcomplete.isReport i t ht
  refine ⟨r, hr, hall _ _ hrun i r (.inr ?_)⟩
  rw [← hcomplete.map_some, List.getElem?_map, hr, Option.map_some]

theorem retries_in_time_sample : ∃ results run r, schedule sample = .ok (.finished results, run) ∧
    results[0]? = some r ∧ (eventsAt 0 run.trace).filterMap Event.time? = [0, 5, 105, 110] ∧
    run.RetriedAt waitFor sample 0 r := by
  obtain ⟨results, run, hrun, hall⟩ :=
    (retries_in_time sample (by decide)).2 check_sample checkGraph_sample rfl
  have htimes : (eventsAt 0 ((Run.fresh sample).finish sample).2.trace).filterMap Event.time?
      = [0, 5, 105, 110] := by decide +kernel
  rw [finish_of_schedule hrun] at htimes
  obtain ⟨r, hr, ⟨-, hnone⟩ | hretried⟩ := hall 0 _ rfl
  · rw [hnone] at htimes
    cases htimes
  · exact ⟨results, run, r, hrun, hr, htimes, hretried⟩

/-- A job with waits of sixty years and more.  An attempt that takes ninety years ends after thirty
and is not cut off after sixty, and the pause before the next one takes thirty years as well. -/
def longWaits : Job where
  tasks := [sampleTask "a" []]
  config := { retryAttempts := 1, timeout := 1892160000000, retryBaseDelay := 1892160000000 }
  worker := fun _ attempt => ⟨2838240000000,
    if attempt = 1 then .error (.transient "m") else .ok ⟨.null, none⟩⟩

theorem not_retriedAt_longWaits : ∃ results run, schedule longWaits = .ok (.finished results, run) ∧
    results.map (·.success) = [true] ∧ (eventsAt 0 run.trace).filterMap Event.time?
      = [0, 946080000000, 1892160000000, 2838240000000] ∧
    ∀ r, ¬ run.RetriedAt id longWaits 0 r := by
  obtain ⟨results, run, hrun, hcomplete⟩ :=
    @schedule_finished longWaits (by decide) (by decide +kernel) rfl
  have hfinish := finish_of_schedule hrun
  have htimes : (eventsAt 0 ((Run.fresh longWaits).finish longWaits).2.trace).filterMap Event.time?
      = [0, 946080000000, 1892160000000, 2838240000000] := by decide +kernel
  have hattempts : attemptsOf ((Run.fresh longWaits).finish longWaits).2.trace 0 = 2 := by
    decide +kernel
  have hsuccess : ((Run.fresh longWaits).finish longWaits).2.board.results.map
      (·.map (·.success)) = [some true] := by decide +kernel
  rw [hfinish] at htimes hattempts hsuccess
  refine ⟨results, run, hrun, ?_, htimes, ?_⟩
  · rw [← hcomplete.map_some, List.map_map] at hsuccess
    exact List.map_injective_iff.2 (fun _ _ => Option.some.inj) (List.map_map.trans hsuccess)
  rintro r ⟨t, k, begun, ended, outcome, -, hretried, -, hk, -⟩
  obtain rfl : 2 = k := hattempts.symm.trans hk
  -- after sixty years the first attempt is to be cut off, but it ends after thirty
  have hcut := (hretried.timetable.timed_out 1 (Nat.le_refl 1) (by simp [longWaits])).1
  rw [hretried.seen_eq] at htimes
  simp [longWaits, List.range', Event.time?] at htimes hcut
  omega

end Mockup.Schedule
