import Mockup.Proofs.Schedule.Consistency
import Mockup.Proofs.Schedule.Table

/-!
# Whose result it is

Tasks that have settled stay as they are, and every result is one of the task at whose place it
stands.

* `KeepsSettled`: the tasks that have settled stay as they are;
* `keepsSettled_mark`, `keepsSettled_set`: the two ways in which states change;
* `Run.Continues`: a later run keeps the results of an earlier one, with `Turns.continues`;
* `Run.Faithful`: flights, reports and results belong to the tasks at their places, and a task that
  was skipped names a dependency that is down;
* `Run.Faithful.kept`: every part of every move keeps it;
* `Reached.completions`: of every task it is told at most once that it settled.
-/

namespace Mockup.Schedule

/-! ### Settled tasks -/

/-- The tasks that have settled stay as they are. -/
def KeepsSettled (states states' : List Standing) : Prop :=
  ∀ (i : Nat) (s : Standing), s.isSettled = true → states[i]? = some s → states'[i]? = some s

namespace KeepsSettled

variable {states states' states'' : List Standing} {i d : Nat}

theorem refl (states : List Standing) : KeepsSettled states states :=
  fun _ _ _ h => h

theorem trans (h : KeepsSettled states states') (h' : KeepsSettled states' states'') :
    KeepsSettled states states'' :=
  fun i s hs hi => h' i s hs (h i s hs hi)

theorem downAt (h : KeepsSettled states states') (hi : DownAt states i) : DownAt states' i :=
  hi.imp (h i _ rfl) (h i _ rfl)

theorem settledAt (h : KeepsSettled states states') (hi : SettledAt states i) :
    SettledAt states' i :=
  hi.imp (h i _ rfl) h.downAt

theorem met {policy : FailurePolicy} (h : KeepsSettled states states') (hd : Met policy states d) :
    Met policy states' d := by
  cases policy with
  | skip => exact h d _ rfl hd
  | proceed => exact h.settledAt hd

end KeepsSettled

/-- Skips reach only tasks that have not settled. -/
theorem keepsSettled_mark (table : List (List Nat)) (states : List Standing) :
    KeepsSettled states (spreadSkips table states).2 := by
  intro i s hs hi
  have hnot : i ∉ (spreadSkips table states).1 := by
    intro hmem
    rw [pending_of_mem_spreadSkips hmem] at hi
    cases hi
    cases hs
  rw [spreadSkips_snd, getElem?_markSkipped, hi]
  simp [hnot]

/-- A task that has not settled may take any state. -/
theorem keepsSettled_set {states : List Standing} {i : Nat} {s : Standing}
    (hi : states[i]? = some s) (hs : s.isSettled = false) (s' : Standing) :
    KeepsSettled states (states.set i s') := by
  intro j s'' hs'' hj
  have hne : i ≠ j := by
    rintro rfl
    rw [hi] at hj
    cases hj
    simp [hs] at hs''
  rwa [getElem?_set_some hi, if_neg hne]

/-- A later run keeps the settled tasks and the trace of an earlier one. -/
structure Run.Continues (run run' : Run) : Prop where
  keepsSettled : KeepsSettled run.board.states run'.board.states
  keepsTrace : run.trace <+: run'.trace

/-- Whatever happens, the tasks that have settled stay as they are, and what was seen stays seen. -/
theorem Run.Continues.kept (job : Job) (run₀ : Run) :
    Kept job fun due run => run.Books job due ∧ run₀.Continues run where
  mark run _ h := ⟨h.1.mark, h.2.keepsSettled.trans (keepsSettled_mark _ _), h.2.keepsTrace⟩
  skip run i due h := by
    refine ⟨h.1.skip, h.1.states_settleSkipped ▸ h.2.keepsSettled, ?_⟩
    unfold settleSkipped
    split
    · exact h.2.keepsTrace.trans (List.prefix_append _ _)
    · exact h.2.keepsTrace
  start run i hp hmet hroom h := by
    obtain ⟨t, ht⟩ := h.1.exists_task hp
    have hstart := start_eq hp ht
    refine ⟨h.1.start hp hroom, h.2.keepsSettled.trans ?_, ?_⟩ <;> rw [hstart]
    · exact keepsSettled_set hp rfl _
    · exact h.2.keepsTrace
  work run pre f post now p hf hp h :=
    ⟨h.1.work hf hp, h.2.keepsSettled, h.2.keepsTrace.trans (List.prefix_append _ _)⟩
  receive run i result mailbox hm h :=
    ⟨h.1.receive hm, h.2.keepsSettled.trans (keepsSettled_set (h.1.executing_of_report hm) rfl _),
      h.2.keepsTrace.trans (List.prefix_append _ _)⟩
  callOff run now h := ⟨(Books.kept job).callOff run now h.1, h.2.keepsSettled, h.2.keepsTrace⟩

theorem Turns.continues {job : Job} {m m' : Moment} (h : Turns job m m')
    (hm : m.run.Books job []) : m.run.Continues m'.run :=
  ((Run.Continues.kept job m.run).turns h ⟨hm, .refl _, List.prefix_rfl⟩).2

/-- The table of a job holds the places of what each task depends on. -/
theorem Job.mem_table {job : Job} (hgraph : Runnable job.tasks) {i d : Nat} :
    d ∈ job.table.getD i [] ↔ DependsOn job.tasks i d := by
  rw [job.table_eq]
  exact mem_dependencyTable hgraph.nodup

/-! ### Results -/

/-- A task that is blocked is blocked by the first dependency that is down. -/
theorem exists_blocker {tasks : List Task} {table : List (List Nat)} {states : List Standing}
    {i : Nat} (hlen : states.length = tasks.length)
    (h : ∃ d ∈ table.getD i [], DownAt states d) :
    ∃ d u, d ∈ table.getD i [] ∧ tasks[d]? = some u ∧ DownAt states d ∧
      Board.blocker tasks table states i = u.id := by
  obtain ⟨d, hd, hdown⟩ := h
  cases hfind : (table.getD i []).find? fun d => (states[d]?).any Standing.isDown with
  | none =>
    have hno := List.find?_eq_none.1 hfind d hd
    exact absurd (any_isDown_iff.2 hdown) hno
  | some e =>
    have he : DownAt states e := any_isDown_iff.1 (by simpa using List.find?_some hfind)
    have hlt : e < tasks.length := by
      rw [← hlen]
      rcases he with he | he <;> exact (List.getElem?_eq_some_iff.1 he).1
    have htask := List.getElem?_eq_getElem hlt
    refine ⟨e, tasks[e], List.mem_of_find?_eq_some hfind, htask, he, ?_⟩
    simp only [Board.blocker, hfind, Option.bind_some, htask, Option.map_some, Option.getD_some]

/-- The result is one of the task: of work on it, or of a skip that names a dependency which is
down. -/
def ResultOf (job : Job) (states : List Standing) (i : Nat) (r : Settlement) : Prop :=
  ∃ t, job.tasks[i]? = some t ∧ IsReport t r ∧
    (states[i]? = some (.ofSuccess r.success) ∨
      states[i]? = some .skipped ∧ ∃ d u, d ∈ job.table.getD i [] ∧ job.tasks[d]? = some u ∧
        DownAt states d ∧ r = .skipped t u.id)

theorem ResultOf.keep {job : Job} {states states' : List Standing} {i : Nat} {r : Settlement}
    (h : ResultOf job states i r) (hkeep : KeepsSettled states states') :
    ResultOf job states' i r := by
  obtain ⟨t, ht, hreport, hwork | ⟨hskip, d, u, hd, hu, hdown, hr⟩⟩ := h
  · refine ⟨t, ht, hreport, .inl (hkeep i _ ?_ hwork)⟩
    cases r.success <;> rfl
  · exact ⟨t, ht, hreport, .inr ⟨hkeep i _ rfl hskip, d, u, hd, hu, hkeep.downAt hdown, hr⟩⟩

namespace Run

/-- A result is recorded at the place of its task. -/
structure Faithful (job : Job) (due : List Nat) (run : Run) : Prop where
  flight : ∀ f ∈ run.flights, job.tasks[f.index]? = some f.task
  report : ∀ i r, (i, r) ∈ run.mailbox → ∃ t, job.tasks[i]? = some t ∧ IsReport t r
  result : ∀ i r, run.board.results[i]? = some (some r) → ResultOf job run.board.states i r
  due_down : ∀ i ∈ due, ∃ d ∈ job.table.getD i [], DownAt run.board.states d

namespace Faithful

variable {job : Job} {run : Run} {i : Nat} {due : List Nat}

theorem fresh (job : Job) : Faithful job [] (.fresh job) where
  flight := by simp [Run.fresh]
  report := by simp [Run.fresh]
  result := by simp [Run.fresh, Board.fresh, List.getElem?_replicate]
  due_down := by simp

/-- Every part of every move keeps it that what is recorded belongs to its task. -/
theorem kept (job : Job) : Kept job fun due run => Books job due run ∧ Faithful job due run where
  mark run _ h := by
    refine ⟨h.1.mark, h.2.flight, h.2.report, fun i r hr => ?_, fun i hi => ?_⟩
    · exact (h.2.result i r hr).keep (keepsSettled_mark _ _)
    · exact exists_down_of_mem_spreadSkips hi
  skip run i due h := by
    obtain ⟨hbooks, h⟩ := h
    have hskipped := hbooks.board.skipped_of_due i List.mem_cons_self
    obtain ⟨t, htask⟩ := hbooks.exists_task hskipped
    have hstates := hbooks.states_settleSkipped
    refine ⟨hbooks.skip, ?_⟩
    rw [settleSkipped_eq htask] at hstates ⊢
    refine ⟨h.flight, h.report, fun j r hr => ?_, fun j hj => ?_⟩
    · rw [hstates]
      simp only [settle, Board.settle, List.getElem?_set] at hr
      split at hr
      · next hij =>
        subst hij
        obtain ⟨d, u, hd, hu, hdown, hblocker⟩ :=
          exists_blocker hbooks.board.length_states (h.due_down i List.mem_cons_self)
        rw [hblocker] at hr
        split at hr <;> cases hr
        exact ⟨_, htask, ⟨rfl, rfl⟩, .inr ⟨hskipped, d, u, hd, hu, hdown, rfl⟩⟩
      · exact h.result j r hr
    · rw [hstates]
      exact h.due_down j (List.mem_cons_of_mem _ hj)
  start run i hp hmet hroom h := by
    obtain ⟨t, htask⟩ := h.1.exists_task hp
    refine ⟨h.1.start hp hroom, ?_⟩
    rw [start_eq hp htask]
    refine ⟨fun f hf => ?_, h.2.report, fun j r hr => ?_, by simp⟩
    · rcases List.mem_append.1 hf with hf | hf
      · exact h.2.flight f hf
      · obtain rfl := List.mem_singleton.1 hf
        exact htask
    · exact (h.2.result j r hr).keep (keepsSettled_set hp rfl _)
  work run pre f post now p hf hp h := by
    have htask : job.tasks[f.index]? = some f.task := h.2.flight f (by simp [hf])
    refine ⟨h.1.work hf hp, fun g hg => ?_, fun j r hr => ?_, h.2.result, by simp⟩
    · rcases List.mem_append.1 hg with hg | hg
      · refine h.2.flight g (hf ▸ ?_)
        rcases List.mem_append.1 hg with hg | hg
        · exact List.mem_append_left _ hg
        · exact List.mem_append_right _ (List.mem_cons_of_mem _ hg)
      · obtain ⟨hi, ht⟩ := hp.of_flight? (Option.mem_toList.1 hg)
        rw [hi, ht]
        exact htask
    · rcases List.mem_append.1 hr with hr | hr
      · exact h.2.report j r hr
      · obtain ⟨rfl, hreport⟩ := hp.of_report? (Option.mem_toList.1 hr)
        exact ⟨_, htask, hreport⟩
  receive run i result mailbox hm h := by
    have hexec := h.1.executing_of_report hm
    obtain ⟨t, ht, hreport⟩ := h.2.report i result (hm ▸ List.mem_cons_self)
    refine ⟨h.1.receive hm, h.2.flight, fun j r hr => ?_, fun j r hr => ?_, by simp⟩
    · exact h.2.report j r (hm ▸ List.mem_cons_of_mem _ hr)
    · simp only [settle, Board.settle, List.getElem?_set] at hr
      split at hr
      · next hij =>
        subst hij
        split at hr <;> cases hr
        exact ⟨t, ht, hreport, .inl (by simp [settle, Board.settle, getElem?_set_some hexec])⟩
      · exact (h.2.result j r hr).keep (keepsSettled_set hexec rfl _)
  callOff run now h := ⟨(Books.kept job).callOff run now h.1, { h.2 with }⟩

end Faithful

end Run

theorem Reached.faithful {job : Job} {m : Moment} (h : Reached job m) : m.run.Faithful job [] :=
  ((Run.Faithful.kept job).reached ⟨.fresh job, .fresh job⟩ h).2

/-! ### What is told of results -/

theorem completions_eq (trace : List Event) :
    completions trace = (settlements trace).map (·.2) := by
  rw [completions, settlements, List.map_filterMap]
  refine List.filterMap_congr fun e _ => ?_
  cases e <;> rfl

/-- Of every task it is told at most once that it settled, and of nothing else. -/
theorem Reached.completions {job : Job} {m : Moment} (h : Reached job m)
    (hnodup : (job.tasks.map (·.id)).Nodup) :
    ((completions m.run.trace).map (·.taskId)).Nodup ∧
      ∀ r ∈ Schedule.completions m.run.trace, ∃ t ∈ job.tasks, IsReport t r := by
  obtain ⟨hbooks, hfaithful⟩ := (Run.Faithful.kept job).reached ⟨.fresh job, .fresh job⟩ h
  have hreport : ∀ i r, (i, r) ∈ settlements m.run.trace →
      m.run.board.results[i]? = some (some r) ∧ ∃ t, job.tasks[i]? = some t ∧ IsReport t r := by
    intro i r hr
    have hresult := (hbooks.mem_settlements i r).1 hr
    obtain ⟨t, ht, hreport, -⟩ := hfaithful.result i r hresult
    exact ⟨hresult, t, ht, hreport⟩
  rw [completions_eq, List.map_map]
  constructor
  · refine List.Nodup.map_on ?_ (List.Nodup.of_map _ hbooks.nodup_settlements)
    rintro ⟨i, r⟩ hr ⟨j, r'⟩ hr' heq
    obtain ⟨hresult, t, ht, hid, -⟩ := hreport i r hr
    obtain ⟨hresult', u, hu, hid', -⟩ := hreport j r' hr'
    -- results that bear one name stand at one place
    have hsame : t.id = u.id := hid.symm.trans (heq.trans hid')
    have hplace := (findIdx?_id_eq_some_iff hnodup).2 ⟨t, ht, hsame⟩
    rw [(findIdx?_id_eq_some_iff hnodup).2 ⟨u, hu, rfl⟩] at hplace
    obtain rfl := Option.some.inj hplace
    rw [hresult] at hresult'
    cases hresult'
    rfl
  · intro r hr
    obtain ⟨⟨i, r⟩, hmem, rfl⟩ := List.mem_map.1 hr
    obtain ⟨-, t, ht, hreport⟩ := hreport i r hmem
    exact ⟨t, List.mem_of_getElem? ht, hreport⟩

end Mockup.Schedule
