import Mockup.Proofs.Artifact.Rendering
import Mockup.Proofs.Schedule.Completion
import Mockup.Proofs.Schedule.Verdicts
import Mockup.Schedule.Worker

/-!
# The outputs that runs answer

Workers that hand back nothing but rendered outputs lead to results that bear nothing else, however
often attempts fail or time out, and whenever the run is called off.

* `Renders`: the worker hands back nothing but rendered outputs, with `renders_builtinWorker` and
  `renders_scriptedWorker`;
* `endsWell_emptyScript`: a worker without a script renders whatever can be rendered;
* `Flight.Rendering`, `Flight.rendering_advance`: so it is as long as the work on a task goes on,
  and when it is over;
* `Run.Rendered`, `Run.Rendered.finish`: so it is in the run that `schedule` follows;
* `forall₂_isRendered`: at the end of that run there is one such result for every task.
-/

namespace Mockup.Schedule

/-! ### Workers -/

/-- If an attempt ends in this way and well, its output is the rendered one. -/
def RendersOutcome (task : Task) (outcome : Except AttemptError Output) : Prop :=
  ∀ out, outcome = .ok out → outputFor task = .ok out.payload

/-- The worker hands back nothing but rendered outputs. -/
def Renders (worker : Worker) : Prop :=
  ∀ task attempt, RendersOutcome task (worker task attempt).outcome

theorem rendersOutcome_error (task : Task) (e : AttemptError) : RendersOutcome task (.error e) := by
  intro out h
  cases h

theorem rendersOutcome_renderWith (confidence : Float) (task : Task) :
    RendersOutcome task (renderWith confidence task) := by
  intro out h
  unfold renderWith at h
  cases houtput : outputFor task with
  | error e =>
    rw [houtput] at h
    cases h
  | ok output =>
    rw [houtput] at h
    cases h
    rfl

theorem renders_builtinWorker (config : WorkerRules) : Renders (builtinWorker config) :=
  fun task _ => rendersOutcome_renderWith config.confidence task

theorem renders_scriptedWorker (script : Script) : Renders (scriptedWorker script) := by
  intro task attempt
  simp only [scriptedWorker]
  split
  · exact rendersOutcome_error task _
  · exact rendersOutcome_renderWith 1.0 task

/-- If nothing is laid down for a worker, the work on a task ends well if there is an output. -/
theorem endsWell_emptyScript {task : Task} {output : Json} (h : outputFor task = .ok output)
    (rules : SchedulerRules) : endsWell (scriptedWorker {}) rules task = true := by
  have hrender : (scriptedWorker {} task 1).outcome = renderWith 1.0 task := rfl
  have hlatency : (scriptedWorker {} task 1).latency = 0 := rfl
  have hwait : waitFor 0 ≤ waitFor rules.timeout := by simp [waitFor]
  have hwithin : ((scriptedWorker {} task 1).within rules.timeout).outcome
      = .ok { payload := output, confidence := some 1.0 } := by
    rw [Attempt.within, hlatency, if_pos hwait, hrender, renderWith, h]
    rfl
  rw [endsWell, hwithin]
  cases rules.retryAttempts <;> rfl

/-- An attempt that takes too long ends in an error. -/
theorem Renders.within {worker : Worker} (h : Renders worker) (task : Task) (attempt limit : Nat) :
    RendersOutcome task ((worker task attempt).within limit).outcome := by
  unfold Attempt.within
  split
  · exact h task attempt
  · exact rendersOutcome_error task _

/-! ### Flights -/

/-- If the attempt that is being made ends well, its output is the rendered one. -/
def Flight.Rendering (f : Flight) : Prop :=
  match f.phase with
  | .attempting _ outcome => RendersOutcome f.task outcome
  | .waiting | .resting _ => True

/-- The work goes on and leads to nothing but the rendered output, or it has led to it. -/
def Landing.Rendering (task : Task) : Landing → Prop
  | .flying f => f.task = task ∧ f.Rendering
  | .landed _ r => IsRendered task r

namespace Flight

variable {worker : Worker} {config : SchedulerRules} {now : Nat}

theorem rendering_launch (hw : Renders worker) {limit : Nat} {f : Flight}
    {cont : Except AttemptError Output → Progress}
    (hcont : ∀ outcome, RendersOutcome f.task outcome → (cont outcome).landing.Rendering f.task) :
    (launch worker limit now f cont).landing.Rendering f.task := by
  unfold launch
  simp only
  split
  · exact hcont _ (hw.within f.task f.attempt limit)
  · exact ⟨rfl, hw.within f.task f.attempt limit⟩

theorem rendering_conclude (hw : Renders worker) (f : Flight) (left attempt : Nat)
    (outcome : Except AttemptError Output) (ho : RendersOutcome f.task outcome) :
    (conclude worker config now f left attempt outcome).landing.Rendering f.task := by
  have hfailed : ∀ (e : AttemptError) (metadata : WorkRecord),
      IsRendered f.task (.failed f.task e.message metadata) := by
    intro e metadata
    exact ⟨rfl, rfl, fun h => by cases h⟩
  have hsucceeded : ∀ (out : Output) (metadata : WorkRecord), outcome = .ok out →
      IsRendered f.task (.succeeded f.task out.payload metadata) := by
    intro out metadata h
    exact .succeeded (ho out h) metadata
  induction left generalizing attempt outcome with
  | zero =>
    cases outcome with
    | ok out => exact hsucceeded out _ rfl
    | error e => exact hfailed e _
  | succ left ih =>
    cases outcome with
    | ok out => exact hsucceeded out _ rfl
    | error e =>
      unfold conclude
      split
      · simp only
        split
        · -- the next attempt begins at once
          exact rendering_launch hw fun outcome ho =>
            ih (attempt + 1) outcome ho fun out metadata h => .succeeded (ho out h) metadata
        · exact ⟨rfl, trivial⟩
      · exact hfailed e _

/-- Going on with a flight leads to nothing but the rendered output. -/
theorem rendering_advance (hw : Renders worker) (f : Flight) (h : f.Rendering) :
    (advance worker config now f).landing.Rendering f.task := by
  unfold Rendering at h
  unfold advance
  split
  · next hf =>
    rw [hf] at h
    exact rendering_conclude hw f _ _ _ h
  · exact rendering_launch hw fun outcome ho => rendering_conclude hw f _ _ outcome ho
  · exact rendering_launch hw fun outcome ho =>
      rendering_conclude hw { f with begun := now } _ _ outcome ho

end Flight

/-! ### Runs -/

namespace Run

/-- All results are, and will be, of the tasks at their places, with rendered outputs. -/
structure Rendered (job : Job) (run : Run) : Prop where
  flight : ∀ f ∈ run.flights, job.tasks[f.index]? = some f.task ∧ f.Rendering
  report : ∀ (i : Nat) r, (i, r) ∈ run.mailbox → ∃ t, job.tasks[i]? = some t ∧ IsRendered t r
  result : ∀ (i : Nat) r, run.board.results[i]? = some (some r) →
    ∃ t, job.tasks[i]? = some t ∧ IsRendered t r

namespace Rendered

variable {job : Job} {run : Run}

theorem fresh (job : Job) : Rendered job (.fresh job) where
  flight := by simp [Run.fresh]
  report := by simp [Run.fresh]
  result := by simp [Run.fresh, Board.fresh, List.getElem?_replicate]

/-- One more result of the task at its place. -/
theorem set_result {results : List (Option Settlement)} {i : Nat} {t : Task} {r : Settlement}
    (h : ∀ (i : Nat) r, results[i]? = some (some r) → ∃ t, job.tasks[i]? = some t ∧ IsRendered t r)
    (ht : job.tasks[i]? = some t) (hr : IsRendered t r) :
    ∀ (j : Nat) r', (results.set i (some r))[j]? = some (some r') →
      ∃ t, job.tasks[j]? = some t ∧ IsRendered t r' := by
  intro j r' hj
  rw [List.getElem?_set] at hj
  split at hj
  · next hij =>
    subst hij
    split at hj <;> cases hj
    exact ⟨t, ht, hr⟩
  · exact h j r' hj

theorem keptByCoordinator (job : Job) : KeptByCoordinator job fun _ run => Rendered job run where
  mark run _ h := ⟨h.flight, h.report, h.result⟩
  skip run i due h := by
    unfold settleSkipped
    split
    · next task htask =>
      exact ⟨h.flight, h.report,
        set_result h.result htask ⟨rfl, rfl, fun hsuccess => by cases hsuccess⟩⟩
    · exact h
  start run i hp _ _ h := by
    unfold start
    split
    · next board task hboard htask =>
      simp only [Board.start?, hp, if_true, Option.some.injEq] at hboard
      subst hboard
      refine ⟨fun f hf => ?_, h.report, h.result⟩
      rcases List.mem_append.1 hf with hf | hf
      · exact h.flight f hf
      · obtain rfl := List.mem_singleton.1 hf
        exact ⟨htask, trivial⟩
    · exact h
  receive run i result mailbox hm h := by
    obtain ⟨t, ht, hr⟩ := h.report i result (hm ▸ List.mem_cons_self)
    exact ⟨h.flight, fun j r hj => h.report j r (hm ▸ List.mem_cons_of_mem _ hj),
      set_result h.result ht hr⟩

theorem wake (hw : Renders job.worker) (h : Rendered job run) (now : Nat) :
    Rendered job (run.wake job now) := by
  refine ⟨fun g hg => ?_, fun i r hr => ?_, h.result⟩
  · rcases of_mem_flights_wake hg with ⟨hg, -⟩ | ⟨f, hf, -, hland⟩
    · exact h.flight g hg
    · obtain ⟨htask, hrendering⟩ := h.flight f hf
      have hnext := @Flight.rendering_advance _ job.config now hw f hrendering
      have hmoves : f.Moves now false (f.advance job.worker job.config now) :=
        Flight.moves_advance f
      obtain ⟨hi, ht⟩ := hmoves.of_flight? (congrArg Landing.flight? hland)
      rw [hland] at hnext
      rw [hi, ht]
      exact ⟨htask, hnext.2⟩
  · rcases of_mem_mailbox_wake hr with hr | ⟨f, hf, -, hland⟩
    · exact h.report i r hr
    · obtain ⟨htask, hrendering⟩ := h.flight f hf
      have hnext := @Flight.rendering_advance _ job.config now hw f hrendering
      have hmoves : f.Moves now false (f.advance job.worker job.config now) :=
        Flight.moves_advance f
      obtain rfl := hmoves.of_report? (congrArg Landing.report? hland)
      rw [hland] at hnext
      exact ⟨f.task, htask, hnext⟩

/-- Whenever the run is called off, all results bear rendered outputs. -/
theorem finish (hw : Renders job.worker) (h : Rendered job run) :
    Rendered job (run.finish job).2 :=
  (keptByCoordinator job).finish (fun _ now _ h => h.wake hw now)
    (.inr fun _ h => ⟨h.flight, h.report, h.result⟩) h

end Rendered

end Run

/-- All results of the run that `schedule` follows bear rendered outputs. -/
theorem forall₂_isRendered {job : Job} (hw : Renders job.worker) {run : Run}
    {results : List Settlement} (h : schedule job = .ok (.finished results, run)) :
    List.Forall₂ IsRendered job.tasks results := by
  have hcomplete := (reached_of_schedule h).complete_of_finished rfl
  have hrendered : run.Rendered job := by
    have hfinish := Run.Rendered.finish hw (.fresh job)
    rwa [finish_of_schedule h] at hfinish
  refine hcomplete.forall₂ fun i t r ht hr _ => ?_
  have hresult : run.board.results[i]? = some (some r) := by
    rw [← hcomplete.map_some, List.getElem?_map, hr, Option.map_some]
  obtain ⟨t', ht', hisRendered⟩ := hrendered.result i r hresult
  obtain rfl : t = t' := Option.some.inj (ht.symm.trans ht')
  exact hisRendered

end Mockup.Schedule
