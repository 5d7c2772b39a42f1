import Mockup.Proofs.Schedule.Course

/-!
# Verdicts: the ends of the work on the tasks

Whether the work on a task ends well depends on the worker and the rules alone.

* `outlook`: the work ends well, given the end of an attempt;
* `endsWell`, `verdict`: it ends well, from the first attempt on;
* `Flight.outlook`, `Flight.outlook_advance`: a flight keeps its outlook as it advances;
* `Run.OnCourse`: the mailbox, the flights and the results of a run agree with the verdicts, with
  `Run.OnCourse.finish`.
-/

namespace Mockup.Schedule

/-- The work on a task ends well, if attempt number `attempt` ends in this way and `left` more may
follow. -/
def outlook (worker : Worker) (limit : Nat) (task : Task) :
    (left attempt : Nat) → Except AttemptError Output → Bool
  | _, _, .ok _ => true
  | 0, _, .error _ => false
  | left + 1, attempt, .error e =>
    e.mayPass && outlook worker limit task left (attempt + 1)
      ((worker task (attempt + 1)).within limit).outcome

/-- The work on a task ends well. -/
def endsWell (worker : Worker) (config : SchedulerRules) (task : Task) : Bool :=
  outlook worker config.timeout task config.retryAttempts 1
    ((worker task 1).within config.timeout).outcome

/-- The final state of the work on the task at a place. -/
def verdict (job : Job) (i : Nat) : Bool :=
  (job.tasks[i]?).any (endsWell job.worker job.config)

/-! ### Flights -/

/-- The work on the task of a flight ends well. -/
def Flight.outlook (worker : Worker) (limit : Nat) (f : Flight) : Bool :=
  match f.phase with
  | .attempting _ outcome => Schedule.outlook worker limit f.task f.left f.attempt outcome
  | .waiting | .resting _ => Schedule.outlook worker limit f.task f.left f.attempt
      ((worker f.task f.attempt).within limit).outcome

/-- The work that has got so far ends well. -/
def Landing.outlook (worker : Worker) (limit : Nat) : Landing → Bool
  | .flying f => f.outlook worker limit
  | .landed _ r => r.success

namespace Flight

variable {worker : Worker} {config : SchedulerRules} {now : Nat}

theorem outlook_launch {limit : Nat} {f : Flight} {cont : Except AttemptError Output → Progress}
    (hcont : ∀ outcome, (cont outcome).landing.outlook worker limit
      = Schedule.outlook worker limit f.task f.left f.attempt outcome) :
    (launch worker limit now f cont).landing.outlook worker limit
      = Schedule.outlook worker limit f.task f.left f.attempt
          ((worker f.task f.attempt).within limit).outcome := by
  unfold launch
  simp only
  split
  · exact hcont _
  · rfl

theorem outlook_conclude (f : Flight) (left attempt : Nat) (outcome : Except AttemptError Output) :
    (conclude worker config now f left attempt outcome).landing.outlook worker config.timeout
      = Schedule.outlook worker config.timeout f.task left attempt outcome := by
  induction left generalizing attempt outcome with
  | zero => cases outcome <;> rfl
  | succ left ih =>
    cases outcome with
    | ok out => rfl
    | error e =>
      unfold conclude Schedule.outlook
      split
      · next he =>
        simp only [he, Bool.true_and]
        split
        · -- the next attempt begins at once
          exact outlook_launch fun outcome => ih (attempt + 1) outcome
        · rfl
      · next he =>
        simp only [he, Bool.false_and]
        rfl

/-- Going on with a flight does not change how the work ends. -/
theorem outlook_advance (f : Flight) :
    (advance worker config now f).landing.outlook worker config.timeout
      = f.outlook worker config.timeout := by
  unfold advance Flight.outlook
  split
  · next hf => rw [hf]; exact outlook_conclude f _ _ _
  · next hf => rw [hf]; exact outlook_launch fun outcome => outlook_conclude f _ _ outcome
  · next hf => rw [hf]; exact outlook_launch fun outcome => outlook_conclude _ _ _ outcome

/-- A flight that goes on keeps its outlook. -/
theorem outlook_of_flight? (f : Flight) {g : Flight}
    (hg : (advance worker config now f).landing.flight? = some g) :
    g.index = f.index ∧ g.task = f.task ∧
      g.outlook worker config.timeout = f.outlook worker config.timeout := by
  have hmoves : f.Moves now false (advance worker config now f) := moves_advance f
  obtain ⟨hi, ht⟩ := hmoves.of_flight? hg
  refine ⟨hi, ht, ?_⟩
  rw [← @outlook_advance worker config now f]
  cases hland : (advance worker config now f).landing <;> rw [hland] at hg <;> cases hg
  rfl

/-- A flight ends as its outlook was. -/
theorem outlook_of_report? (f : Flight) {i : Nat} {r : Settlement}
    (hr : (advance worker config now f).landing.report? = some (i, r)) :
    i = f.index ∧ r.success = f.outlook worker config.timeout := by
  have hmoves : f.Moves now false (advance worker config now f) := moves_advance f
  refine ⟨hmoves.of_report? hr, ?_⟩
  rw [← @outlook_advance worker config now f]
  cases hland : (advance worker config now f).landing <;> rw [hland] at hr <;> cases hr
  rfl

end Flight

/-! ### Runs -/

namespace Run

/-- All work ends, or has ended, as the worker and the rules settle it. -/
structure OnCourse (job : Job) (run : Run) : Prop where
  flight : ∀ f ∈ run.flights, job.tasks[f.index]? = some f.task ∧
    f.outlook job.worker job.config.timeout = verdict job f.index
  report : ∀ i r, (i, r) ∈ run.mailbox → r.success = verdict job i
  done : ∀ (i : Nat) success, run.board.states[i]? = some (.ofSuccess success) →
    success = verdict job i

namespace OnCourse

variable {job : Job} {run : Run}

theorem ofSuccess_ne {s : Standing} (hs : s = .pending ∨ s = .executing ∨ s = .skipped)
    (success : Bool) : s ≠ .ofSuccess success := by
  rcases hs with rfl | rfl | rfl <;> cases success <;> decide

theorem fresh (job : Job) : OnCourse job (.fresh job) where
  flight := by simp [Run.fresh]
  report := by simp [Run.fresh]
  done i success hi := by
    simp only [Run.fresh, Board.fresh, List.getElem?_replicate] at hi
    split at hi
    · exact absurd (Option.some.inj hi) (ofSuccess_ne (.inl rfl) success)
    · cases hi

theorem keptByCoordinator (job : Job) : KeptByCoordinator job fun _ run => OnCourse job run where
  mark run _ h := by
    refine ⟨h.flight, h.report, fun i success hi => h.done i success ?_⟩
    rw [spreadSkips_snd] at hi
    exact ((getElem?_foldl_set_of_ne (ofSuccess_ne (.inr (.inr rfl)) success)).1 hi).1
  skip run i due h := by
    unfold settleSkipped
    split
    · refine ⟨h.flight, h.report, fun j success hj => h.done j success ?_⟩
      simp only [settle, Board.settle, List.getElem?_set] at hj
      split at hj
      · split at hj
        · exact absurd (Option.some.inj hj) (ofSuccess_ne (.inr (.inr rfl)) success)
        · cases hj
      · exact hj
    · exact h
  start run i hp _ _ h := by
    unfold start
    split
    · next board task hboard htask =>
      simp only [Board.start?, hp, if_true, Option.some.injEq] at hboard
      subst hboard
      refine ⟨fun f hf => ?_, h.report, fun j success hj => h.done j success ?_⟩
      · rcases List.mem_append.1 hf with hf | hf
        · exact h.flight f hf
        · obtain rfl := List.mem_singleton.1 hf
          refine ⟨htask, ?_⟩
          show _ = (job.tasks[i]?).any (endsWell job.worker job.config)
          rw [htask]
          rfl
      · rw [getElem?_set_some hp] at hj
        split at hj
        · exact absurd (Option.some.inj hj) (ofSuccess_ne (.inr (.inl rfl)) success)
        · exact hj
    · exact h
  receive run i result mailbox hm h := by
    have hreport := h.report i result (hm ▸ List.mem_cons_self)
    refine ⟨h.flight, fun j r hr => h.report j r (hm ▸ List.mem_cons_of_mem _ hr), ?_⟩
    intro j success hj
    simp only [settle, Board.settle, List.getElem?_set] at hj
    split at hj
    · next hij =>
      subst hij
      split at hj
      · rw [← hreport]
        cases hresult : result.success <;> cases success <;>
          simp [hresult, Standing.ofSuccess] at hj ⊢
      · cases hj
    · exact h.done j success hj

theorem wake (h : OnCourse job run) (now : Nat) : OnCourse job (run.wake job now) := by
  refine ⟨fun g hg => ?_, fun i r hr => ?_, h.done⟩
  · rcases of_mem_flights_wake hg with ⟨hg, -⟩ | ⟨f, hf, -, hland⟩
    · exact h.flight g hg
    · obtain ⟨htask, houtlook⟩ := h.flight f hf
      obtain ⟨hi, ht, hkept⟩ := f.outlook_of_flight? (congrArg Landing.flight? hland)
      rw [hi, ht]
      exact ⟨htask, hkept.trans houtlook⟩
  · rcases of_mem_mailbox_wake hr with hr | ⟨f, hf, -, hland⟩
    · exact h.report i r hr
    · obtain ⟨-, houtlook⟩ := h.flight f hf
      obtain ⟨rfl, hkept⟩ := f.outlook_of_report? (congrArg Landing.report? hland)
      exact hkept.trans houtlook

/-- A run that is not called off at any time stays on its course up to its end. -/
theorem finish (hnever : job.cancellation.atTime = none) (h : OnCourse job run) :
    OnCourse job (run.finish job).2 :=
  (keptByCoordinator job).finish (fun _ now _ h => h.wake now) (.inl hnever) h

end OnCourse

end Run

end Mockup.Schedule
