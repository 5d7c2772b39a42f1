import Mockup.Proofs.Schedule.Course
import Mockup.Proofs.Schedule.Results

/-!
# Every run comes to its end

A run of a valid graph that is never called off ends with one result for every task.

* `settledAt_of_idle`: where nothing is in flight, nothing blocked and nothing may start, all tasks
  have settled;
* `dispatch_ne_stuck`: so the coordinator is never stuck;
* `Reached.isOver_or_move`: unless a run is over something can happen;
* `Moment.weight`, `Move.weight_lt`: everything that happens brings the end nearer;
* `Run.Complete`: one result for every task, in the order of the tasks;
* `run_completes`: every run that is never called off ends in this way.
-/

namespace Mockup.Schedule

/-! ### The coordinator is never stuck -/

variable {job : Job}

/-- If nothing is in flight, nothing blocked and nothing ready, all tasks have settled. -/
theorem settledAt_of_idle (hgraph : Runnable job.tasks) {states : List Standing}
    (hlen : states.length = job.tasks.length) (hexec : ∀ (i : Nat), states[i]? ≠ some .executing)
    (hunblocked : job.config.policy = .skip → blockedTasks job.table states = [])
    (hready : readyTasks job.config.policy job.tasks job.table states = []) :
    ∀ i < job.tasks.length, SettledAt states i := by
  obtain ⟨rank, hrank⟩ := hgraph.exists_rank
  intro i hi
  -- the tasks that a task depends on rank below it
  induction hk : rank i using Nat.strongRecOn generalizing i with
  | ind k ih =>
    subst hk
    have hdeps : ∀ d ∈ job.table.getD i [], SettledAt states d := by
      intro d hd
      have hdep := (Job.mem_table hgraph).1 hd
      obtain ⟨t, u, -, hu, -⟩ := id hdep
      exact ih _ (hrank i d hdep) d (List.getElem?_eq_some_iff.1 hu).1 rfl
    have hlt : i < states.length := hlen ▸ hi
    cases hs : states[i] with
    | executing => exact absurd (hs ▸ List.getElem?_eq_getElem hlt) (hexec i)
    | completed => exact .inl (hs ▸ List.getElem?_eq_getElem hlt)
    | failed => exact .inr (.inl (hs ▸ List.getElem?_eq_getElem hlt))
    | skipped => exact .inr (.inr (hs ▸ List.getElem?_eq_getElem hlt))
    | pending =>
      -- such a task would be blocked or might start
      have hp : states[i]? = some .pending := hs ▸ List.getElem?_eq_getElem hlt
      have hmet : ∀ d ∈ job.table.getD i [], Met job.config.policy states d := by
        intro d hd
        unfold Met
        split
        · next hpolicy =>
          rcases hdeps d hd with hcompleted | hdown
          · exact hcompleted
          · have hmem := mem_blockedTasks_iff.2 ⟨hp, d, hd, hdown⟩
            rw [hunblocked hpolicy] at hmem
            cases hmem
        · exact hdeps d hd
      have hmem : i ∈ readyTasks job.config.policy job.tasks job.table states :=
        mem_readyTasks.2 ⟨hp, hmet⟩
      rw [hready] at hmem
      cases hmem

/-- A coordinator that may have tasks in flight has some in flight, or all have settled. -/
theorem dispatch_ne_stuck (hgraph : Runnable job.tasks) (hroom : 0 < job.config.maxConcurrency)
    {run : Run} (hrun : run.Books job []) (waiting : Nat) (run' : Run) :
    run.dispatch job ≠ .over (.stuck waiting) run' := by
  intro hstuck
  have hbooks : (run.skipPhase job).Books job [] := (Run.Books.kept job).skipPhase hrun
  have hunblocked := hrun.blockedTasks_skipPhase
  rcases of_dispatch_over hstuck with ⟨-, -, heq⟩ | ⟨-, -, heq⟩ | ⟨hlt, hrun₂, hidle, -⟩
  · cases heq
  · cases heq
  · -- nothing is in flight although something may be: nothing was ready
    generalize run.skipPhase job = run₁ at *
    rw [hrun₂, hbooks.startPhase_eq] at hidle
    obtain ⟨hflight, hstarted⟩ := List.append_eq_nil_iff.1 hidle
    rw [Run.started, hflight, List.length_nil, Nat.sub_zero, List.take_eq_nil_iff] at hstarted
    refine Nat.not_le.2 hlt (hbooks.board.le_settled_iff.2 ?_)
    refine settledAt_of_idle hgraph hbooks.board.length_states (fun i hi => ?_) hunblocked
      (hstarted.resolve_left (Nat.ne_of_gt hroom))
    have hmem := (hbooks.board.mem_inFlight i).2 hi
    rw [hflight] at hmem
    cases hmem

/-! ### Something can happen -/

/-- Something can happen at every flight. -/
theorem Flight.exists_move (f : Flight) (now : Nat) (cancelled : Bool) :
    ∃ p, f.Move now cancelled p := by
  cases hf : f.phase with
  | waiting => exact ⟨_, .begin hf now (.error .cancelled)⟩
  | resting => exact ⟨_, .resume hf now (.error .cancelled)⟩
  | attempting ends outcome =>
    cases outcome with
    | ok out => exact ⟨_, .succeed hf⟩
    | error e =>
      cases he : e.mayPass with
      | false => exact ⟨_, .fail hf (.inl he)⟩
      | true =>
        cases hleft : f.left with
        | zero => exact ⟨_, .fail hf (.inr hleft)⟩
        | succ left => exact ⟨_, .retry hf he hleft now⟩

namespace Reached

variable {m : Moment} {ending : Ending}

/-- A run ends when the coordinator says so. -/
theorem exists_dispatch (h : Reached job m) (hover : m.point = .over ending) :
    ∃ run, Reached job ⟨.atHead, run⟩ ∧ run.dispatch job = .over ending m.run := by
  induction h with
  | refl => cases hover
  | @tail m m' hm hturn _ =>
    cases hturn with
    | callOff hopen => exact absurd ⟨ending, hover⟩ hopen
    | move hmove =>
      cases hmove with
      | dispatch run =>
        cases hd : run.dispatch job with
        | again run' =>
          rw [hd] at hover
          cases hover
        | «over» ending' run' =>
          rw [hd] at hover
          cases hover
          exact ⟨run, hm, hd⟩
      | receive | turnBack => cases hover
      | work hopen => exact absurd ⟨ending, hover⟩ hopen

/-- Unless a run is over something can happen. -/
theorem isOver_or_move (h : Reached job m) : m.IsOver ∨ ∃ m', Move job m m' := by
  obtain ⟨point, run⟩ := m
  cases point with
  | «over» ending => exact .inl ⟨ending, rfl⟩
  | atHead => exact .inr ⟨_, .dispatch run⟩
  | atWait =>
    right
    have hbusy := (h.idle rfl).busy
    have hmanned := h.books.manned
    cases hmailbox : run.mailbox with
    | cons report mailbox =>
      exact ⟨_, .receive (by simp only [Run.receive?, hmailbox]; rfl)⟩
    | nil =>
      cases hflights : run.flights with
      | nil =>
        -- what is in flight has a flight or a report
        simp only [hmailbox, hflights, List.map_nil, List.append_nil] at hmanned
        exact absurd hmanned.nil_eq.symm hbusy
      | cons f flights =>
        obtain ⟨p, hp⟩ := f.exists_move run.clock run.cancelled
        exact ⟨_, @Move.work job ⟨.atWait, run⟩ [] flights f run.clock p
          (fun ⟨_, hover⟩ => Point.noConfusion hover) hflights hp⟩

end Reached

/-! ### Everything that happens brings the end nearer -/

theorem weight_carry_lt (job : Job) {run : Run} {pre post : List Flight} {f : Flight} {now : Nat}
    {p : Progress} (hf : run.flights = pre ++ f :: post) (hp : f.Move now run.cancelled p) :
    (run.carry (pre ++ post) now p).weight job < run.weight job := by
  have hlt := hp.weight_lt
  cases hland : p.landing <;>
    simp only [hland, Landing.weight] at hlt <;>
    simp only [Run.weight, Run.carry, hf, hland, Landing.flight?, Landing.report?,
      Option.toList_some, Option.toList_none, weigh_append, weigh_cons, weigh_nil,
      List.length_append, List.length_cons, List.length_nil] <;> omega

theorem weight_ofDispatch_le (job : Job) (run : Run) :
    (Moment.ofDispatch (run.dispatch job)).run.weight job ≤ run.weight job := by
  have hskip := Run.weight_skipPhase_le job run
  have hstart := Run.weight_startPhase_le job (run.skipPhase job)
  cases hd : run.dispatch job with
  | again run' =>
    obtain ⟨-, -, rfl, -⟩ := of_dispatch_again hd
    exact Nat.le_trans hstart hskip
  | «over» ending run' =>
    rcases of_dispatch_over hd with ⟨rfl | rfl, -⟩ | ⟨rfl, -⟩ | ⟨-, rfl, -⟩
    · exact Nat.le_refl _
    · exact hskip
    · exact Nat.le_refl _
    · exact Nat.le_trans hstart hskip

/-- A bound on the number of moves that may still follow. -/
def Moment.weight (job : Job) (m : Moment) : Nat :=
  4 * m.run.weight job + match m.point with
    | .over _ => 0
    | .atWait => 2
    | .atHead => if m.run.cancelled then 1 else 3

theorem Move.weight_lt {m m' : Moment} (h : Move job m m') : m'.weight job < m.weight job := by
  cases h with
  | dispatch run =>
    have hle := weight_ofDispatch_le job run
    cases hd : run.dispatch job with
    | again run' =>
      -- the coordinator only listens if the run was not called off before
      have hc := (of_dispatch_again hd).1
      rw [hd] at hle
      simp only [Moment.weight, Moment.ofDispatch, hc, Bool.false_eq_true, if_false] at hle ⊢
      omega
    | «over» ending run' =>
      rw [hd] at hle
      simp only [Moment.weight, Moment.ofDispatch] at hle ⊢
      split <;> omega
  | receive hr =>
    have hlt := Run.weight_receive?_lt hr
    simp only [Moment.weight]
    split <;> omega
  | turnBack hc =>
    simp only [Moment.weight, hc, if_true]
    omega
  | @work m pre post f now p hm hf hp =>
    have hlt := weight_carry_lt job hf hp
    have hsame : (m.run.carry (pre ++ post) now p).cancelled = m.run.cancelled := rfl
    simp only [Moment.weight, hsame]
    omega

/-! ### The end -/

/-- The results are one for every task, in the order of the tasks. -/
structure Run.Complete (job : Job) (run : Run) (results : List Settlement) : Prop where
  length_results : results.length = job.tasks.length
  isReport : ∀ (i : Nat) t, job.tasks[i]? = some t → ∃ r, results[i]? = some r ∧ IsReport t r
  map_some : results.map some = run.board.results

theorem map_some_filterMap_id {α : Type} {l : List (Option α)} (h : ∀ o ∈ l, ∃ a, o = some a) :
    (l.filterMap id).map some = l := by
  induction l with
  | nil => rfl
  | cons o l ih =>
    obtain ⟨a, rfl⟩ := h o List.mem_cons_self
    simpa using ih fun o ho => h o (List.mem_cons_of_mem _ ho)

/-- If all tasks have settled, there is one result for every task. -/
theorem Reached.complete {m : Moment} (h : Reached job m)
    (hall : ∀ i < job.tasks.length, SettledAt m.run.board.states i) :
    m.run.Complete job (m.run.board.results.filterMap id) := by
  have hbooks := h.books
  have hlen := hbooks.board.length_results
  have hmap : (m.run.board.results.filterMap id).map some = m.run.board.results := by
    refine map_some_filterMap_id fun o ho => ?_
    obtain ⟨i, hi, rfl⟩ := List.mem_iff_getElem.1 ho
    obtain ⟨r, hr, -⟩ := hbooks.exists_settled (hall i (hlen ▸ hi))
    rw [List.getElem?_eq_getElem hi] at hr
    exact ⟨r, Option.some.inj hr⟩
  refine ⟨?_, fun i t ht => ?_, hmap⟩
  · rw [← hlen, ← congrArg List.length hmap, List.length_map]
  · obtain ⟨r, hr, -⟩ := hbooks.exists_settled (hall i (List.getElem?_eq_some_iff.1 ht).1)
    obtain ⟨t', ht', hreport, -⟩ := h.faithful.result i r hr
    obtain rfl : t = t' := Option.some.inj (ht.symm.trans ht')
    rw [← hmap, List.getElem?_map] at hr
    obtain ⟨r', hr', heq⟩ := Option.map_eq_some_iff.1 hr
    cases heq
    exact ⟨_, hr', hreport⟩

/-- A run that ends with results has one for every task, in the order of the tasks. -/
theorem Reached.complete_of_finished {m : Moment} {results : List Settlement}
    (h : Reached job m) (hover : m.point = .over (.finished results)) :
    m.run.Complete job results := by
  obtain ⟨run, -, hd⟩ := h.exists_dispatch hover
  rcases of_dispatch_over hd with ⟨-, hle, heq⟩ | ⟨-, -, heq⟩ | ⟨-, -, -, heq⟩ <;> cases heq
  exact h.complete (h.books.board.le_settled_iff.1 hle)

/-- A relation between each result and its task holds along both lists. -/
theorem Run.Complete.forall₂ {run : Run} {results : List Settlement}
    (h : run.Complete job results) {P : Task → Settlement → Prop}
    (hP : ∀ (i : Nat) t r, job.tasks[i]? = some t → results[i]? = some r → IsReport t r → P t r) :
    List.Forall₂ P job.tasks results := by
  refine List.forall₂_iff_get.2 ⟨h.length_results.symm, fun i hi hi' => ?_⟩
  obtain ⟨r, hr, hreport⟩ := h.isReport i job.tasks[i] (List.getElem?_eq_getElem hi)
  have hsame : r = results[i] := Option.some.inj (hr.symm.trans (List.getElem?_eq_getElem hi'))
  subst hsame
  exact hP i _ _ (List.getElem?_eq_getElem hi) (List.getElem?_eq_getElem hi') hreport

/-- A run that was not called off ends when all tasks have settled. -/
theorem Reached.finished {m : Moment} {ending : Ending} (h : Reached job m)
    (hgraph : Runnable job.tasks) (hroom : 0 < job.config.maxConcurrency)
    (hover : m.point = .over ending) (hc : m.run.cancelled = false) :
    ending = .finished (m.run.board.results.filterMap id) ∧
      ∀ i < job.tasks.length, SettledAt m.run.board.states i := by
  have hbooks := h.books
  obtain ⟨run, hrun, hd⟩ := h.exists_dispatch hover
  rcases of_dispatch_over hd with ⟨-, hle, heq⟩ | ⟨heq, hyes, -⟩ | ⟨-, -, -, heq⟩
  · exact ⟨heq, hbooks.board.le_settled_iff.1 hle⟩
  · rw [← heq, hc] at hyes
    cases hyes
  · rw [heq] at hd
    exact absurd hd (dispatch_ne_stuck hgraph hroom hrun.books _ _)

/-- A run that nobody calls off has not been called off. -/
theorem keptByCoordinator_uncancelled (hnever : job.cancellation.afterSettled = none) :
    KeptByCoordinator job fun _ run => run.cancelled = false where
  mark _ _ h := h
  skip run i due h := by
    unfold Run.settleSkipped
    split
    · simp [Run.settle, hnever, h]
    · exact h
  start run i _ _ _ h := by
    unfold Run.start
    split <;> exact h
  receive run i result mailbox _ h := by simp [Run.settle, hnever, h]

theorem cancelled_finish (hnever : job.cancellation = {}) :
    ((Run.fresh job).finish job).2.cancelled = false := by
  refine (keptByCoordinator_uncancelled (by rw [hnever])).finish (fun _ _ _ h => h) (.inl ?_) ?_
  · rw [hnever]
  · simp [Run.fresh, hnever]

/-- The possible ends of a run. -/
structure Run.EndsDuly (job : Job) (run : Run) (ending : Ending) : Prop where
  not_stuck : ∀ waiting, ending ≠ .stuck waiting
  not_silent : ending ≠ .silent
  complete : run.cancelled = false →
    ∃ results, ending = .finished results ∧ run.Complete job results

theorem Reached.endsDuly {m : Moment} {ending : Ending} (h : Reached job m)
    (hgraph : Runnable job.tasks) (hroom : 0 < job.config.maxConcurrency)
    (hover : m.point = .over ending) : m.run.EndsDuly job ending := by
  obtain ⟨run, hrun, hd⟩ := h.exists_dispatch hover
  refine ⟨?_, ?_, ?_⟩
  · rintro waiting rfl
    exact dispatch_ne_stuck hgraph hroom hrun.books _ _ hd
  · rintro rfl
    rcases of_dispatch_over hd with ⟨-, -, heq⟩ | ⟨-, -, heq⟩ | ⟨-, -, -, heq⟩ <;> cases heq
  · intro hc
    obtain ⟨heq, hall⟩ := h.finished hgraph hroom hover hc
    exact ⟨_, heq, h.complete hall⟩

/-- A run that nobody calls off answers one result for every task. -/
theorem schedule_finished (hconfig : job.config.check = .ok ())
    (hgraph : checkGraph job.tasks = .ok ()) (hnever : job.cancellation = {}) :
    ∃ results run, schedule job = .ok (.finished results, run) ∧ run.Complete job results := by
  obtain ⟨hroom, -⟩ := SchedulerRules.check_eq_ok_iff.1 hconfig
  have hrun := schedule_eq hconfig hgraph
  have hends := (reached_of_schedule hrun).endsDuly (Runnable.of_checkGraph hgraph) hroom rfl
  obtain ⟨results, hending, hcomplete⟩ := hends.complete (cancelled_finish hnever)
  exact ⟨results, ((Run.fresh job).finish job).2, by rw [hrun, ← hending], hcomplete⟩

/-- A job with a valid graph and valid rules is run to its end.  Every name that a task depends on
is found.  Whatever the workers do and in whatever order attempts end, only finitely many moves can
follow one another, one more is possible until the run is over, and a run that was not called off
then answers one result for every task, in the order of the tasks.  So does the run that `schedule`
follows. -/
theorem run_completes (job : Job) (hconfig : job.config.check = .ok ())
    (hgraph : checkGraph job.tasks = .ok ()) :
    (∀ (i : Nat) t name, job.tasks[i]? = some t → name ∈ t.dependencies →
      ∃ (d : Nat) (u : Task), job.tasks.findIdx? (·.id == name) = some d ∧
        job.tasks[d]? = some u ∧ u.id = name ∧ d ∈ job.table.getD i []) ∧
    (WellFounded fun m' m => Move job m m') ∧
    (∀ m, Reached job m → (m.IsOver ∨ ∃ m', Move job m m') ∧
      ∀ ending, m.point = .over ending → m.run.EndsDuly job ending) ∧
    (∀ ending run, schedule job = .ok (ending, run) → run.EndsDuly job ending) ∧
    (job.cancellation = {} → ∃ results run,
      schedule job = .ok (.finished results, run) ∧ run.Complete job results) := by
  have hvalid := Runnable.of_checkGraph hgraph
  obtain ⟨hroom, -⟩ := SchedulerRules.check_eq_ok_iff.1 hconfig
  have hends : ∀ ending run, schedule job = .ok (ending, run) → run.EndsDuly job ending :=
    fun ending run hrun => (reached_of_schedule hrun).endsDuly hvalid hroom rfl
  refine ⟨?_, ?_, fun m hm => ⟨hm.isOver_or_move, fun ending => hm.endsDuly hvalid hroom⟩, hends,
    ?_⟩
  · intro i t name ht hname
    obtain ⟨d, u, hu, rfl⟩ := hvalid.exists_position (List.mem_of_getElem? ht) hname
    refine ⟨d, u, (findIdx?_id_eq_some_iff hvalid.nodup).2 ⟨u, hu, rfl⟩, hu, rfl, ?_⟩
    exact (Job.mem_table hvalid).2 ⟨t, u, ht, hu, hname⟩
  · exact Subrelation.wf Move.weight_lt (measure (Moment.weight job)).wf
  · intro hnever
    have hrun := schedule_eq hconfig hgraph
    obtain ⟨results, hending, hcomplete⟩ := (hends _ _ hrun).complete (cancelled_finish hnever)
    refine ⟨results, ((Run.fresh job).finish job).2, ?_, hcomplete⟩
    rw [hrun, ← hending]

theorem run_completes_sample : ∃ results run, schedule sample = .ok (.finished results, run) ∧
    run.board.states = [.completed, .failed, .skipped] ∧ run.Complete sample results := by
  obtain ⟨results, run, hrun, hcomplete⟩ :=
    (run_completes sample check_sample checkGraph_sample).2.2.2.2 rfl
  refine ⟨results, run, hrun, ?_, hcomplete⟩
  rw [← states_sample, finish_of_schedule hrun]

end Mockup.Schedule
