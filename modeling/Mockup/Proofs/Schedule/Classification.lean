import Mockup.Proofs.Schedule.Completion
import Mockup.Proofs.Schedule.Verdicts
import Mockup.Proofs.Schedule.Precedence

/-!
# Who completes, who fails and who is skipped

When the outcome of the work on a task depends on the task alone, every run that is not called off
ends in the same states.

* `Classified`: the equations that the states satisfy, with `Classified.states_eq`: only one list of
  states does;
* `SameGraph`: two lists of tasks that differ in what is to be done, but not in who depends on whom;
* `Run.Heeds`: the outcome of work is as was laid down;
* `Run.Accounts`: the results that an observer sees;
* `succeeds_schedule`: if the work on every task ends well, all results say so;
* `classification_unique`: all runs of one graph end in the states that satisfy the equations.
-/

namespace Mockup.Schedule

/-! ### The equations -/

/-- The task may be run: if failures are skipped, all that it depends on completed. -/
def Cleared (policy : FailurePolicy) (tasks : List Task) (states : List Standing) (i : Nat) :
    Prop :=
  policy = .skip → ∀ d, DependsOn tasks i d → states[d]? = some .completed

/-- Every task is where its own verdict and the tasks that it depends on put it. -/
structure Classified (policy : FailurePolicy) (tasks : List Task) (verdict : Nat → Bool)
    (states : List Standing) : Prop where
  length_states : states.length = tasks.length
  completed_iff : ∀ i < tasks.length,
    (states[i]? = some .completed ↔ Cleared policy tasks states i ∧ verdict i = true)
  failed_iff : ∀ i < tasks.length,
    (states[i]? = some .failed ↔ Cleared policy tasks states i ∧ verdict i = false)
  skipped_iff : ∀ i < tasks.length,
    (states[i]? = some .skipped ↔ policy = .skip ∧ ∃ d, DependsOn tasks i d ∧ DownAt states d)

namespace Classified

variable {policy : FailurePolicy} {tasks : List Task} {verdict : Nat → Bool}
  {states states' : List Standing} {i : Nat}

/-- A task that is not cleared depends on one that is down, if what it depends on has settled. -/
theorem cleared_or_blocked (policy : FailurePolicy)
    (hsettled : ∀ d, DependsOn tasks i d → SettledAt states d) :
    Cleared policy tasks states i ∨
      policy = .skip ∧ ∃ d, DependsOn tasks i d ∧ DownAt states d := by
  by_cases hdown : policy = .skip ∧ ∃ d, DependsOn tasks i d ∧ DownAt states d
  · exact .inr hdown
  · refine .inl fun hpolicy d hd => ?_
    rcases hsettled d hd with hcompleted | hd'
    · exact hcompleted
    · exact absurd ⟨hpolicy, d, hd, hd'⟩ hdown

/-- The equations lay down the state of a task once they do so for all that it depends on. -/
theorem settledAt (h : Classified policy tasks verdict states) (hi : i < tasks.length)
    (hsettled : ∀ d, DependsOn tasks i d → SettledAt states d) : SettledAt states i := by
  rcases cleared_or_blocked policy hsettled with hclear | hblocked
  · cases hv : verdict i with
    | true => exact .inl ((h.completed_iff i hi).2 ⟨hclear, hv⟩)
    | false => exact .inr (.inl ((h.failed_iff i hi).2 ⟨hclear, hv⟩))
  · exact .inr (.inr ((h.skipped_iff i hi).2 hblocked))

theorem cleared_congr (policy : FailurePolicy)
    (h : ∀ d, DependsOn tasks i d → states[d]? = states'[d]?) :
    Cleared policy tasks states i ↔ Cleared policy tasks states' i := by
  unfold Cleared
  constructor
  · intro hclear hpolicy d hd
    rw [← h d hd]
    exact hclear hpolicy d hd
  · intro hclear hpolicy d hd
    rw [h d hd]
    exact hclear hpolicy d hd

theorem blocked_congr (policy : FailurePolicy)
    (h : ∀ d, DependsOn tasks i d → states[d]? = states'[d]?) :
    (policy = .skip ∧ ∃ d, DependsOn tasks i d ∧ DownAt states d) ↔
      policy = .skip ∧ ∃ d, DependsOn tasks i d ∧ DownAt states' d := by
  unfold DownAt
  constructor
  · rintro ⟨hpolicy, d, hd, hdown⟩
    rw [h d hd] at hdown
    exact ⟨hpolicy, d, hd, hdown⟩
  · rintro ⟨hpolicy, d, hd, hdown⟩
    rw [← h d hd] at hdown
    exact ⟨hpolicy, d, hd, hdown⟩

/-- Only one list of states satisfies the equations. -/
theorem states_eq (hgraph : Runnable tasks) (h : Classified policy tasks verdict states)
    (h' : Classified policy tasks verdict states') : states = states' := by
  obtain ⟨rank, hrank⟩ := hgraph.exists_rank
  have hagree : ∀ i < tasks.length, states[i]? = states'[i]? ∧ SettledAt states i := by
    intro i hi
    -- what a task depends on ranks below it
    induction hk : rank i using Nat.strongRecOn generalizing i with
    | ind k ih =>
      subst hk
      have hdeps : ∀ d, DependsOn tasks i d → states[d]? = states'[d]? ∧ SettledAt states d := by
        intro d hd
        obtain ⟨t, u, -, hu, -⟩ := id hd
        exact ih _ (hrank i d hd) d (List.getElem?_eq_some_iff.1 hu).1 rfl
      have hsettled := h.settledAt hi fun d hd => (hdeps d hd).2
      -- both lists agree on what puts the task where it is
      have hclear := cleared_congr policy fun d hd => (hdeps d hd).1
      have hblocked := blocked_congr policy fun d hd => (hdeps d hd).1
      refine ⟨?_, hsettled⟩
      rcases hsettled with hs | hs | hs
      · have hcause := (h.completed_iff i hi).1 hs
        rw [hs, (h'.completed_iff i hi).2 ⟨hclear.1 hcause.1, hcause.2⟩]
      · have hcause := (h.failed_iff i hi).1 hs
        rw [hs, (h'.failed_iff i hi).2 ⟨hclear.1 hcause.1, hcause.2⟩]
      · have hcause := (h.skipped_iff i hi).1 hs
        rw [hs, (h'.skipped_iff i hi).2 (hblocked.1 hcause)]
  refine List.ext_getElem? fun i => ?_
  by_cases hi : i < tasks.length
  · exact (hagree i hi).1
  · rw [List.getElem?_eq_none (by rw [h.length_states]; omega),
      List.getElem?_eq_none (by rw [h'.length_states]; omega)]

/-- If all verdicts are good, all tasks completed. -/
theorem eq_completed (hgraph : Runnable tasks) (h : Classified policy tasks verdict states)
    (hverdict : ∀ i < tasks.length, verdict i = true) :
    states = List.replicate tasks.length .completed := by
  have hat : ∀ i < tasks.length,
      (List.replicate tasks.length Standing.completed)[i]? = some .completed := by
    intro i hi
    simp [hi]
  have hclear : ∀ i, Cleared policy tasks (List.replicate tasks.length .completed) i := by
    rintro i - d ⟨t, u, -, hu, -⟩
    exact hat d (List.getElem?_eq_some_iff.1 hu).1
  refine h.states_eq hgraph ⟨by simp, fun i hi => ?_, fun i hi => ?_, fun i hi => ?_⟩
  · simp [hat i hi, hclear i, hverdict i hi]
  · simp [hat i hi, hverdict i hi]
  · rw [hat i hi]
    constructor
    · intro hskipped
      cases hskipped
    · rintro ⟨-, d, ⟨t, u, -, hu, -⟩, hdown⟩
      simp [DownAt, hat d (List.getElem?_eq_some_iff.1 hu).1] at hdown

end Classified

/-! ### Graphs -/

/-- The tasks bear the same names and depend on each other in the same way. -/
def SameGraph (tasks tasks' : List Task) : Prop :=
  tasks.map (fun t => (t.id, t.dependencies)) = tasks'.map fun t => (t.id, t.dependencies)

namespace SameGraph

variable {policy : FailurePolicy} {tasks tasks' : List Task} {verdict : Nat → Bool}
  {states : List Standing} {i d : Nat}

theorem symm (h : SameGraph tasks tasks') : SameGraph tasks' tasks :=
  Eq.symm h

theorem length_eq (h : SameGraph tasks tasks') : tasks.length = tasks'.length := by
  simpa using congrArg List.length h

/-- At every place stands a task of the same name and with the same dependencies. -/
theorem exists_task (h : SameGraph tasks tasks') {t : Task} (ht : tasks[i]? = some t) :
    ∃ t', tasks'[i]? = some t' ∧ t'.id = t.id ∧ t'.dependencies = t.dependencies := by
  have hi := congrArg (fun l => l[i]?) h
  simp only [List.getElem?_map, ht, Option.map_some] at hi
  obtain ⟨t', ht', heq⟩ := Option.map_eq_some_iff.1 hi.symm
  exact ⟨t', ht', congrArg Prod.fst heq, congrArg Prod.snd heq⟩

theorem dependsOn (h : SameGraph tasks tasks') (hd : DependsOn tasks i d) :
    DependsOn tasks' i d := by
  obtain ⟨t, u, ht, hu, hmem⟩ := hd
  obtain ⟨t', ht', -, hdeps⟩ := h.exists_task ht
  obtain ⟨u', hu', hid, -⟩ := h.exists_task hu
  exact ⟨t', u', ht', hu', by rwa [hid, hdeps]⟩

theorem dependsOn_iff (h : SameGraph tasks tasks') : DependsOn tasks i d ↔ DependsOn tasks' i d :=
  ⟨h.dependsOn, h.symm.dependsOn⟩

/-- The equations depend on the graph only. -/
theorem classified (h : SameGraph tasks tasks') (hc : Classified policy tasks verdict states) :
    Classified policy tasks' verdict states := by
  obtain ⟨hlen, hcompleted, hfailed, hskipped⟩ := hc
  simp only [Cleared, h.dependsOn_iff, h.length_eq] at hlen hcompleted hfailed hskipped
  exact ⟨hlen, hcompleted, hfailed, hskipped⟩

end SameGraph

/-! ### Runs -/

/-- Work on a task ends as the verdict says. -/
def Run.Heeds (verdict : Nat → Bool) (run : Run) : Prop :=
  ∀ i r, .settled i r ∈ run.trace → (∃ time, .began time i ∈ run.trace) → r.success = verdict i

/-- The observer sees one result for each final state. -/
structure Run.Accounts (job : Job) (run : Run) : Prop where
  success_iff : ∀ (i : Nat) r, run.board.results[i]? = some (some r) →
    (r.success = true ↔ run.board.states[i]? = some .completed)
  executed : ∀ i, DoneAt run.board.states i → ∃ time, .began time i ∈ run.trace
  skipped : ∀ i, run.board.states[i]? = some .skipped → (∀ time, .began time i ∉ run.trace) ∧
    ∃ r d u, run.board.results[i]? = some (some r) ∧ r.success = false ∧ r.metadata.attempts = 0 ∧
      DependsOn job.tasks i d ∧ job.tasks[d]? = some u ∧ DownAt run.board.states d ∧
      r.error = some ("skipped: dependency " ++ u.id ++ " did not complete")

namespace Reached

variable {job : Job} {m : Moment} {verdict : Nat → Bool}

theorem accounts (h : Reached job m) (hgraph : Runnable job.tasks) : m.run.Accounts job where
  success_iff i r hr := (h.faithful.result i r hr).success_iff.2
  executed := h.precedence.begun_of_done
  skipped i hi := by
    refine ⟨(h.orderly hgraph).untouched i hi, ?_⟩
    obtain ⟨r, hr, -⟩ := h.books.exists_settled (.inr (.inr hi))
    obtain ⟨t, -, -, hwork | ⟨-, d, u, hd, hu, hdown, rfl⟩⟩ := h.faithful.result i r hr
    · rw [hi] at hwork
      cases hsuccess : r.success <;> simp [hsuccess, Standing.ofSuccess] at hwork
    · exact ⟨_, d, u, hr, rfl, rfl, (Job.mem_table hgraph).1 hd, hu, hdown, rfl⟩

/-- A task whose work ended as the verdict says is in the state that the verdict says. -/
theorem verdict_of_heeds (h : Reached job m) (hheeds : m.run.Heeds verdict) (i : Nat)
    (success : Bool) (hi : m.run.board.states[i]? = some (.ofSuccess success)) :
    success = verdict i := by
  have hdone : DoneAt m.run.board.states i := by
    cases success with
    | true => exact .inl hi
    | false => exact .inr hi
  have hsettled : SettledAt m.run.board.states i := hdone.imp id .inl
  obtain ⟨r, hr, htold⟩ := h.books.exists_settled hsettled
  rw [← hheeds i r htold (h.precedence.begun_of_done i hdone)]
  have hiff := (h.faithful.result i r hr).success_iff.2
  rw [hi] at hiff
  cases success <;> simp [Standing.ofSuccess] at hiff <;> exact hiff.symm

/-- If all tasks have settled, and work ended as the verdict says, the equations hold. -/
theorem classified (h : Reached job m) (hgraph : Runnable job.tasks)
    (hall : ∀ i < job.tasks.length, SettledAt m.run.board.states i)
    (hverdict : ∀ (i : Nat) success, m.run.board.states[i]? = some (.ofSuccess success) →
      success = verdict i) : Classified job.config.policy job.tasks verdict m.run.board.states := by
  have hprec := h.precedence
  -- a task that was started is cleared, and one that is skipped is not
  have hcleared : ∀ i, StartedAt m.run.board.states i →
      Cleared job.config.policy job.tasks m.run.board.states i := by
    intro i hi hpolicy d hd
    have hmet := hprec.met i hi d ((Job.mem_table hgraph).2 hd)
    rwa [hpolicy] at hmet
  have hblocked : ∀ i, m.run.board.states[i]? = some .skipped → job.config.policy = .skip ∧
      ∃ d, DependsOn job.tasks i d ∧ DownAt m.run.board.states d := by
    intro i hi
    obtain ⟨-, r, d, u, -, -, -, hd, -, hdown, -⟩ := (h.accounts hgraph).skipped i hi
    exact ⟨hprec.policy_of_skipped i hi, d, hd, hdown⟩
  have hnot : ∀ i, Cleared job.config.policy job.tasks m.run.board.states i →
      ¬ (job.config.policy = .skip ∧
        ∃ d, DependsOn job.tasks i d ∧ DownAt m.run.board.states d) := by
    rintro i hclear ⟨hpolicy, d, hd, hdown⟩
    simp [DownAt, hclear hpolicy d hd] at hdown
  refine ⟨h.books.board.length_states, fun i hi => ⟨fun hs => ?_, ?_⟩,
    fun i hi => ⟨fun hs => ?_, ?_⟩, fun i hi => ⟨hblocked i, fun hdown => ?_⟩⟩
  · exact ⟨hcleared i (.inr (.inl hs)), (hverdict i true hs).symm⟩
  · rintro ⟨hclear, hv⟩
    rcases hall i hi with hs | hs | hs
    · exact hs
    · exact absurd (hverdict i false hs) (by simp [hv])
    · exact absurd (hblocked i hs) (hnot i hclear)
  · exact ⟨hcleared i (.inr (.inr hs)), (hverdict i false hs).symm⟩
  · rintro ⟨hclear, hv⟩
    rcases hall i hi with hs | hs | hs
    · exact absurd (hverdict i true hs) (by simp [hv])
    · exact hs
    · exact absurd (hblocked i hs) (hnot i hclear)
  · rcases hall i hi with hs | hs | hs
    · exact absurd hdown (hnot i (hcleared i (.inr (.inl hs))))
    · exact absurd hdown (hnot i (hcleared i (.inr (.inr hs))))
    · exact hs

end Reached

/-- The states in which a run ends when work ends as the verdict says are those of the equations. -/
theorem Run.Heeds.classified {job : Job} {m : Moment} {ending : Ending} {verdict : Nat → Bool}
    (hheeds : m.run.Heeds verdict) (hgraph : Runnable job.tasks)
    (hroom : 0 < job.config.maxConcurrency) (h : Reached job m) (hover : m.point = .over ending)
    (hc : m.run.cancelled = false) :
    Classified job.config.policy job.tasks verdict m.run.board.states :=
  h.classified hgraph (h.finished hgraph hroom hover hc).2 (h.verdict_of_heeds hheeds)

/-- If failures do not keep a task from being run, there was an attempt at every task. -/
theorem Run.Accounts.all_executed {job : Job} {run : Run} {verdict : Nat → Bool}
    (h : run.Accounts job)
    (hc : Classified job.config.policy job.tasks verdict run.board.states)
    (hpolicy : job.config.policy = .proceed) :
    ∀ i < job.tasks.length, ∃ time, .began time i ∈ run.trace := by
  intro i hi
  have hclear : Cleared job.config.policy job.tasks run.board.states i := by
    intro hskip
    rw [hpolicy] at hskip
    cases hskip
  refine h.executed i ?_
  cases hv : verdict i with
  | true => exact .inl ((hc.completed_iff i hi).2 ⟨hclear, hv⟩)
  | false => exact .inr ((hc.failed_iff i hi).2 ⟨hclear, hv⟩)

/-- In the run that `schedule` follows, if nobody calls it off, work ends as the worker and the
rules settle it. -/
theorem heeds_schedule {job : Job} (hconfig : job.config.check = .ok ())
    (hgraph : checkGraph job.tasks = .ok ()) (hnever : job.cancellation = {}) :
    ∃ results run, schedule job = .ok (.finished results, run) ∧ run.cancelled = false ∧
      run.Heeds (verdict job) := by
  have hvalid := Runnable.of_checkGraph hgraph
  obtain ⟨hroom, -⟩ := SchedulerRules.check_eq_ok_iff.1 hconfig
  have hrun := schedule_eq hconfig hgraph
  have hreached := reached_of_schedule hrun
  have huncancelled := cancelled_finish hnever
  have hcourse := (Run.OnCourse.fresh job).finish (by rw [hnever])
  have hending := (hreached.finished hvalid hroom rfl huncancelled).1
  refine ⟨((Run.fresh job).finish job).2.board.results.filterMap id, ((Run.fresh job).finish job).2,
    by rw [hrun, ← hending], huncancelled, ?_⟩
  rintro i r htold ⟨time, hbegan⟩
  -- a task that an attempt was made at is not skipped
  obtain ⟨hsettled, hsuccess⟩ := (hreached.orderly hvalid).told i r htold
  refine hcourse.done i r.success ?_
  rcases hsettled with hs | hs | hs
  · rw [hs, hsuccess.2 hs]
    rfl
  · have hno : r.success = false := by
      rw [Bool.eq_false_iff]
      intro hyes
      rw [hsuccess.1 hyes] at hs
      cases hs
    rw [hs, hno]
    rfl
  · exact absurd hbegan ((hreached.orderly hvalid).untouched i hs time)

/-- If the work on every task ends well, and nobody calls the run off, all results say so. -/
theorem succeeds_schedule {job : Job} (hconfig : job.config.check = .ok ())
    (hgraph : checkGraph job.tasks = .ok ()) (hnever : job.cancellation = {})
    (hall : ∀ t ∈ job.tasks, endsWell job.worker job.config t = true) :
    ∃ results run, schedule job = .ok (.finished results, run) ∧ run.cancelled = false ∧
      ∀ r ∈ results, r.success = true := by
  have hvalid := Runnable.of_checkGraph hgraph
  obtain ⟨hroom, -⟩ := SchedulerRules.check_eq_ok_iff.1 hconfig
  obtain ⟨results, run, hrun, hc, hheeds⟩ := heeds_schedule hconfig hgraph hnever
  have hreached := reached_of_schedule hrun
  have hstates : run.board.states = List.replicate job.tasks.length .completed := by
    refine (hheeds.classified hvalid hroom hreached rfl hc).eq_completed hvalid fun i hi => ?_
    simp only [verdict, List.getElem?_eq_getElem hi, Option.any_some]
    exact hall _ (List.getElem_mem hi)
  refine ⟨results, run, hrun, hc, fun r hr => ?_⟩
  have hcomplete := hreached.complete_of_finished rfl
  obtain ⟨i, hi, rfl⟩ := List.mem_iff_getElem.1 hr
  have hresult : run.board.results[i]? = some (some results[i]) := by
    rw [← hcomplete.map_some, List.getElem?_map, List.getElem?_eq_getElem hi, Option.map_some]
  rw [(hreached.accounts hvalid).success_iff i _ hresult, hstates, List.getElem?_replicate,
    if_pos (hcomplete.length_results ▸ hi)]

/-- All runs of one graph end alike.  Take two jobs with the same names, the same dependencies and
the same rule for failures; priorities, the number of tasks that may be in progress, the workers and
the order in which attempts end may differ.  When work on a task ends as one verdict on the task
says, then a run that is over and was not called off has put every task where the equations put it,
there is no other solution, and a run of the other job has put it there, too.  The runs that
`schedule` follows end alike when their workers make the same of every task. -/
theorem classification_unique (job job' : Job) (hconfig : job.config.check = .ok ())
    (hconfig' : job'.config.check = .ok ()) (hgraph : checkGraph job.tasks = .ok ())
    (hgraph' : checkGraph job'.tasks = .ok ()) (hsame : SameGraph job.tasks job'.tasks)
    (hpolicy : job.config.policy = job'.config.policy) :
    (∀ verdict m ending, Reached job m → m.point = .over ending → m.run.cancelled = false →
      m.run.Heeds verdict →
        Classified job.config.policy job.tasks verdict m.run.board.states ∧
        (∀ states, Classified job.config.policy job.tasks verdict states →
          states = m.run.board.states) ∧
        m.run.Accounts job ∧
        (job.config.policy = .proceed →
          ∀ i < job.tasks.length, ∃ time, .began time i ∈ m.run.trace) ∧
        ∀ m' ending', Reached job' m' → m'.point = .over ending' → m'.run.cancelled = false →
          m'.run.Heeds verdict → m'.run.board.states = m.run.board.states) ∧
    (job.cancellation = {} → job'.cancellation = {} → (∀ i, verdict job i = verdict job' i) →
      ∃ results run results' run', schedule job = .ok (.finished results, run) ∧
        schedule job' = .ok (.finished results', run') ∧ run.Heeds (verdict job) ∧
        Classified job.config.policy job.tasks (verdict job) run.board.states ∧
        run.Accounts job ∧ run'.board.states = run.board.states) := by
  have hvalid := Runnable.of_checkGraph hgraph
  have hvalid' := Runnable.of_checkGraph hgraph'
  obtain ⟨hroom, -⟩ := SchedulerRules.check_eq_ok_iff.1 hconfig
  obtain ⟨hroom', -⟩ := SchedulerRules.check_eq_ok_iff.1 hconfig'
  refine ⟨fun verdict m ending hm hover hc hheeds => ?_, fun hnever hnever' hverdict => ?_⟩
  · have hclass := hheeds.classified hvalid hroom hm hover hc
    have haccounts := hm.accounts hvalid
    refine ⟨hclass, fun states hstates => hstates.states_eq hvalid hclass, haccounts,
      haccounts.all_executed hclass, fun m' ending' hm' hover' hc' hheeds' => ?_⟩
    have hclass' := hheeds'.classified hvalid' hroom' hm' hover' hc'
    rw [← hpolicy] at hclass'
    exact (hsame.symm.classified hclass').states_eq hvalid hclass
  · obtain ⟨results, run, hrun, hc, hheeds⟩ := heeds_schedule hconfig hgraph hnever
    obtain ⟨results', run', hrun', hc', hheeds'⟩ := heeds_schedule hconfig' hgraph' hnever'
    have hreached := reached_of_schedule hrun
    have hclass := hheeds.classified hvalid hroom hreached rfl hc
    have hclass' := hheeds'.classified hvalid' hroom' (reached_of_schedule hrun') rfl hc'
    refine ⟨results, run, results', run', hrun, hrun', hheeds, hclass, hreached.accounts hvalid, ?_⟩
    rw [← hpolicy, ← funext hverdict] at hclass'
    exact (hsame.symm.classified hclass').states_eq hvalid hclass

/-- The sample with other priorities and other rules, one task at a time. -/
def sampleInLine : Job where
  tasks := sample.tasks.map fun t => { t with priority := t.dependencies.length }
  config := { maxConcurrency := 1, retryAttempts := 3 }
  worker := sample.worker

theorem classification_unique_sample : ∃ results run results' run',
    schedule sample = .ok (.finished results, run) ∧
    schedule sampleInLine = .ok (.finished results', run') ∧
    run.board.states = [.completed, .failed, .skipped] ∧ run'.board.states = run.board.states ∧
    Classified .skip sample.tasks (verdict sample) run.board.states ∧ run.Accounts sample := by
  have hboth := classification_unique sample sampleInLine check_sample (by decide) checkGraph_sample
    (by decide +kernel) rfl rfl
  have hverdict : ∀ i, verdict sample i = verdict sampleInLine i := by
    intro i
    rcases i with _ | _ | _ | i
    · decide +kernel
    · decide +kernel
    · decide +kernel
    · rfl
  obtain ⟨results, run, results', run', hrun, hrun', hheeds, -, -, hstates⟩ :=
    hboth.2 rfl rfl hverdict
  have hfinish : run = ((Run.fresh sample).finish sample).2 := by rw [finish_of_schedule hrun]
  have hc : run.cancelled = false := hfinish ▸ cancelled_finish rfl
  obtain ⟨hclass, -, haccounts, -⟩ :=
    hboth.1 (verdict sample) _ _ (reached_of_schedule hrun) rfl hc hheeds
  exact ⟨results, run, results', run', hrun, hrun', hfinish ▸ states_sample, hstates, hclass,
    haccounts⟩

end Mockup.Schedule
