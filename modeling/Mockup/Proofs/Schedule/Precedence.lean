import Mockup.Proofs.Schedule.Course
import Mockup.Proofs.Schedule.Results

/-!
# Attempts and the dependencies before them

No attempt at a task begins before all that the task depends on has settled, and completed if the
rules say that failures are skipped.

* `DoneAt`, `StartedAt`: a task on which work has ended, or that was handed to a worker;
* `InTurn`: before every attempt in a trace all dependencies have settled;
* `Run.Precedence`: the invariant of a run, with `Run.Precedence.kept`;
* `Run.Orderly`: the order that an observer sees;
* `attempts_in_turn`: attempts come in turn in every run, tasks that have settled stay as they are,
  and there is never an attempt at a task that is skipped.
-/

namespace Mockup.Schedule

/-- Work on the task has ended. -/
def DoneAt (states : List Standing) (i : Nat) : Prop :=
  states[i]? = some .completed ∨ states[i]? = some .failed

/-- The task was handed to a worker. -/
def StartedAt (states : List Standing) (i : Nat) : Prop :=
  states[i]? = some .executing ∨ DoneAt states i

/-- Skips reach no task on which work has ended. -/
theorem doneAt_mark_iff {table : List (List Nat)} {states : List Standing} {i : Nat} :
    DoneAt (spreadSkips table states).2 i ↔ DoneAt states i := by
  have hnot : DoneAt states i → i ∉ (spreadSkips table states).1 := by
    intro h hmem
    simp [DoneAt, pending_of_mem_spreadSkips hmem] at h
  rw [spreadSkips_snd]
  constructor
  · exact fun h => h.imp (fun h => ((getElem?_foldl_set_of_ne (by decide)).1 h).1)
      fun h => ((getElem?_foldl_set_of_ne (by decide)).1 h).1
  · intro h
    have hi := hnot h
    exact h.imp (fun h => (getElem?_foldl_set_of_ne (by decide)).2 ⟨h, hi⟩)
      fun h => (getElem?_foldl_set_of_ne (by decide)).2 ⟨h, hi⟩

theorem startedAt_mark_iff {table : List (List Nat)} {states : List Standing} {i : Nat} :
    StartedAt (spreadSkips table states).2 i ↔ StartedAt states i := by
  unfold StartedAt
  rw [doneAt_mark_iff, spreadSkips_snd]
  constructor
  · rintro (h | h)
    · exact .inl ((getElem?_foldl_set_of_ne (by decide)).1 h).1
    · exact .inr h
  · rintro (h | h)
    · refine .inl ((getElem?_foldl_set_of_ne (by decide)).2 ⟨h, fun hmem => ?_⟩)
      rw [pending_of_mem_spreadSkips hmem] at h
      cases h
    · exact .inr h

/-- Before every attempt all that the task depends on has settled, and completed if failures are
skipped. -/
def InTurn (job : Job) (trace : List Event) : Prop :=
  ∀ pre time i post, trace = pre ++ .began time i :: post → ∀ d ∈ job.table.getD i [],
    ∃ r, .settled d r ∈ pre ∧ (job.config.policy = .skip → r.success = true)

theorem InTurn.concat {job : Job} {trace : List Event} {e : Event} (h : InTurn job trace)
    (he : ∀ time i, e = .began time i → ∀ d ∈ job.table.getD i [],
      ∃ r, .settled d r ∈ trace ∧ (job.config.policy = .skip → r.success = true)) :
    InTurn job (trace ++ [e]) := by
  intro pre time i post heq
  rcases List.eq_nil_or_concat post with rfl | ⟨post, x, rfl⟩
  · obtain ⟨rfl, hlast⟩ := List.append_inj' heq rfl
    exact he time i (by simpa using hlast)
  · rw [List.concat_eq_append, ← List.cons_append, ← List.append_assoc] at heq
    exact h pre time i post (List.append_inj' heq rfl).1

namespace Flight.Move

variable {now : Nat} {cancelled : Bool} {f : Flight} {p : Progress}

/-- Only work that has begun goes on or ends. -/
theorem begun (h : f.Move now cancelled p) :
    (∃ time, .began time f.index ∈ p.events) ∨ f.phase ≠ .waiting := by
  cases h with
  | begin | resume => exact .inl ⟨now, by simp⟩
  | succeed hf | retry hf | fail hf | breakDown hf | giveUp hf => exact .inr (by simp [hf])

/-- Only attempts at the task of the flight begin. -/
theorem of_began_mem (h : f.Move now cancelled p) {time i : Nat} (hi : .began time i ∈ p.events) :
    i = f.index := by
  rcases h.effect with ⟨f', rfl, -⟩ | ⟨f', rfl, -⟩ | ⟨r, rfl, -⟩ | ⟨r, rfl, -⟩ <;> simp at hi
  exact hi.2

end Flight.Move

namespace Run

/-- The invariant of a run on the order of its tasks. -/
structure Precedence (job : Job) (run : Run) : Prop where
  met : ∀ i, StartedAt run.board.states i → ∀ d ∈ job.table.getD i [],
    Met job.config.policy run.board.states d
  started : ∀ time i, .began time i ∈ run.trace → StartedAt run.board.states i
  inTurn : InTurn job run.trace
  policy_of_skipped : ∀ (i : Nat), run.board.states[i]? = some .skipped → job.config.policy = .skip
  begun_of_flight : ∀ f ∈ run.flights, f.phase ≠ .waiting → ∃ time, .began time f.index ∈ run.trace
  begun_of_report : ∀ i r, (i, r) ∈ run.mailbox → ∃ time, .began time i ∈ run.trace
  begun_of_done : ∀ i, DoneAt run.board.states i → ∃ time, .began time i ∈ run.trace

namespace Precedence

variable {job : Job} {run : Run} {i : Nat}

theorem fresh (job : Job) : Precedence job (.fresh job) where
  met := by simp [Run.fresh, Board.fresh, StartedAt, DoneAt, List.getElem?_replicate]
  started := by simp [Run.fresh]
  inTurn := by simp [Run.fresh, InTurn]
  policy_of_skipped := by simp [Run.fresh, Board.fresh, List.getElem?_replicate]
  begun_of_flight := by simp [Run.fresh]
  begun_of_report := by simp [Run.fresh]
  begun_of_done := by simp [Run.fresh, Board.fresh, DoneAt, List.getElem?_replicate]

theorem mark (hpolicy : job.config.policy = .skip) (h : Precedence job run) : Precedence job
    { run with board :=
      { run.board with states := (spreadSkips job.table run.board.states).2 } } where
  met i hi d hd := (keepsSettled_mark _ _).met (h.met i (startedAt_mark_iff.1 hi) d hd)
  started time i hi := startedAt_mark_iff.2 (h.started time i hi)
  inTurn := h.inTurn
  policy_of_skipped _ _ := hpolicy
  begun_of_flight := h.begun_of_flight
  begun_of_report := h.begun_of_report
  begun_of_done i hi := h.begun_of_done i (doneAt_mark_iff.1 hi)

theorem skip {due : List Nat} (hbooks : Books job (i :: due) run) (h : Precedence job run) :
    Precedence job (run.settleSkipped job i) := by
  obtain ⟨t, ht⟩ := hbooks.exists_task (hbooks.board.skipped_of_due i List.mem_cons_self)
  have hstates := hbooks.states_settleSkipped
  rw [settleSkipped_eq ht] at hstates ⊢
  refine ⟨?_, ?_, h.inTurn.concat (by simp), ?_, ?_, ?_, ?_⟩
  · rw [hstates]
    exact h.met
  · intro time j hj
    rw [hstates]
    exact h.started time j (by simpa [settle] using hj)
  · rw [hstates]
    exact h.policy_of_skipped
  · intro f hf hphase
    obtain ⟨time, htime⟩ := h.begun_of_flight f hf hphase
    exact ⟨time, List.mem_append_left _ htime⟩
  · intro j r hr
    obtain ⟨time, htime⟩ := h.begun_of_report j r hr
    exact ⟨time, List.mem_append_left _ htime⟩
  · intro j hj
    rw [hstates] at hj
    obtain ⟨time, htime⟩ := h.begun_of_done j hj
    exact ⟨time, List.mem_append_left _ htime⟩

theorem start (hbooks : Books job [] run) (hp : run.board.states[i]? = some .pending)
    (hmet : ∀ d ∈ job.table.getD i [], Met job.config.policy run.board.states d)
    (h : Precedence job run) : Precedence job (run.start job i) := by
  obtain ⟨t, ht⟩ := hbooks.exists_task hp
  -- a task that was started before is not the one that is started now
  have hother : ∀ j s, s ≠ Standing.executing →
      ((run.board.states.set i .executing)[j]? = some s ↔
        run.board.states[j]? = some s ∧ i ≠ j) := by
    intro j s hs
    rw [getElem?_set_some hp]
    by_cases hij : i = j
    · simp [hij, Ne.symm hs]
    · simp [hij]
  rw [start_eq hp ht]
  refine ⟨?_, ?_, h.inTurn, ?_, ?_, h.begun_of_report, ?_⟩
  · intro j hj d hd
    refine (met_set_executing_iff hp).2 ?_
    by_cases hij : i = j
    · subst hij
      exact hmet d hd
    · have hj' : StartedAt run.board.states j := by
        simpa only [StartedAt, DoneAt, getElem?_set_some hp, if_neg hij] using hj
      exact h.met j hj' d hd
  · intro time j hj
    by_cases hij : i = j
    · exact .inl (by rw [getElem?_set_some hp, if_pos hij])
    · have hj' := h.started time j hj
      simpa only [StartedAt, DoneAt, getElem?_set_some hp, if_neg hij] using hj'
  · exact fun j hj => h.policy_of_skipped j ((hother j _ (by decide)).1 hj).1
  · intro f hf hphase
    rcases List.mem_append.1 hf with hf | hf
    · exact h.begun_of_flight f hf hphase
    · obtain rfl := List.mem_singleton.1 hf
      exact absurd rfl hphase
  · intro j hj
    refine h.begun_of_done j ?_
    rcases hj with hj | hj
    · exact .inl ((hother j _ (by decide)).1 hj).1
    · exact .inr ((hother j _ (by decide)).1 hj).1

theorem work {pre post : List Flight} {f : Flight} {now : Nat} {p : Progress}
    (hbooks : Books job [] run) (hfaithful : Faithful job [] run)
    (hf : run.flights = pre ++ f :: post) (hp : f.Move now run.cancelled p)
    (h : Precedence job run) : Precedence job (run.carry (pre ++ post) now p) := by
  have hmem : f ∈ run.flights := hf ▸ List.mem_append_right _ List.mem_cons_self
  have hexec : StartedAt run.board.states f.index := .inl (hbooks.executing_of_flight hmem)
  -- whatever happens at the flight, an attempt has begun by then
  have hbegun : ∃ time, .began time f.index ∈ run.trace ++ p.events := by
    rcases hp.begun with ⟨time, htime⟩ | hphase
    · exact ⟨time, List.mem_append_right _ htime⟩
    · obtain ⟨time, htime⟩ := h.begun_of_flight f hmem hphase
      exact ⟨time, List.mem_append_left _ htime⟩
  have hold : ∀ {i}, (∃ time, .began time i ∈ run.trace) →
      ∃ time, .began time i ∈ run.trace ++ p.events := by
    rintro i ⟨time, htime⟩
    exact ⟨time, List.mem_append_left _ htime⟩
  refine ⟨h.met, ?_, ?_, h.policy_of_skipped, ?_, ?_, fun i hi => hold (h.begun_of_done i hi)⟩
  · intro time i hi
    rcases List.mem_append.1 hi with hi | hi
    · exact h.started time i hi
    · obtain rfl := hp.of_began_mem hi
      exact hexec
  · -- what an attempt that begins depends on has settled, with a result of its own
    have hready : ∀ d ∈ job.table.getD f.index [],
        ∃ r, .settled d r ∈ run.trace ∧ (job.config.policy = .skip → r.success = true) := by
      intro d hd
      have hmet := h.met f.index hexec d hd
      obtain ⟨r, hr, htold⟩ := hbooks.exists_settled hmet.settledAt
      refine ⟨r, htold, fun hpolicy => ?_⟩
      simp only [Met, hpolicy] at hmet
      obtain ⟨t, -, -, hwork | ⟨hskip, -⟩⟩ := hfaithful.result d r hr
      · rw [hmet] at hwork
        cases hsuccess : r.success with
        | false => simp [hsuccess, Standing.ofSuccess] at hwork
        | true => rfl
      · rw [hmet] at hskip
        cases hskip
    show InTurn job (run.trace ++ p.events)
    rcases hp.effect with ⟨f', rfl, -⟩ | ⟨f', rfl, -⟩ | ⟨r, rfl, -⟩ | ⟨r, rfl, -⟩
    · refine h.inTurn.concat fun time i he => ?_
      cases he
      exact hready
    · exact h.inTurn.concat (by simp)
    · exact h.inTurn.concat (by simp)
    · simpa using h.inTurn
  · intro g hg hphase
    rcases List.mem_append.1 hg with hg | hg
    · have hg' : g ∈ run.flights := by
        rw [hf]
        rcases List.mem_append.1 hg with hg | hg
        · exact List.mem_append_left _ hg
        · exact List.mem_append_right _ (List.mem_cons_of_mem _ hg)
      exact hold (h.begun_of_flight g hg' hphase)
    · rw [(hp.of_flight? (Option.mem_toList.1 hg)).1]
      exact hbegun
  · intro i r hr
    rcases List.mem_append.1 hr with hr | hr
    · exact hold (h.begun_of_report i r hr)
    · rw [(hp.of_report? (Option.mem_toList.1 hr)).1]
      exact hbegun

theorem receive {result : Settlement} {mailbox : List (Nat × Settlement)}
    (hbooks : Books job [] run) (hm : run.mailbox = (i, result) :: mailbox)
    (h : Precedence job run) :
    Precedence job ({ run with mailbox }.settle job i (.ofSuccess result.success) result) := by
  have hexec := hbooks.executing_of_report hm
  have hkeep : KeepsSettled run.board.states (run.board.states.set i (.ofSuccess result.success)) :=
    keepsSettled_set hexec rfl _
  have hstarted : StartedAt (run.board.states.set i (.ofSuccess result.success)) i := by
    unfold StartedAt DoneAt
    rw [getElem?_set_some hexec, if_pos rfl]
    cases result.success <;> simp [Standing.ofSuccess]
  have hother : ∀ {j s}, i ≠ j →
      ((run.board.states.set i (.ofSuccess result.success))[j]? = some s ↔
        run.board.states[j]? = some s) := by
    intro j s hij
    rw [getElem?_set_some hexec, if_neg hij]
  have hold : ∀ {j}, (∃ time, .began time j ∈ run.trace) →
      ∃ time, .began time j ∈ run.trace ++ [.settled i result] := by
    rintro j ⟨time, htime⟩
    exact ⟨time, List.mem_append_left _ htime⟩
  refine ⟨?_, ?_, h.inTurn.concat (by simp), ?_,
    fun f hf hphase => hold (h.begun_of_flight f hf hphase), ?_, ?_⟩
  · intro j hj d hd
    refine hkeep.met (h.met j ?_ d hd)
    by_cases hij : i = j
    · exact .inl (hij ▸ hexec)
    · exact hj.imp (hother hij).1 (Or.imp (hother hij).1 (hother hij).1)
  · intro time j hj
    by_cases hij : i = j
    · exact hij ▸ hstarted
    · have hj' := h.started time j (by simpa [settle] using hj)
      exact hj'.imp (hother hij).2 (Or.imp (hother hij).2 (hother hij).2)
  · intro j hj
    by_cases hij : i = j
    · subst hij
      have hj' : (run.board.states.set i (.ofSuccess result.success))[i]? = some .skipped := hj
      rw [getElem?_set_some hexec, if_pos rfl] at hj'
      cases hsuccess : result.success <;> simp [hsuccess, Standing.ofSuccess] at hj'
    · exact h.policy_of_skipped j ((hother hij).1 hj)
  · intro j r hr
    exact hold (h.begun_of_report j r (hm ▸ List.mem_cons_of_mem _ hr))
  · intro j hj
    by_cases hij : i = j
    · exact hold (h.begun_of_report j result (hm ▸ hij ▸ List.mem_cons_self))
    · exact hold (h.begun_of_done j (hj.imp (hother hij).1 (hother hij).1))

/-- Every part of every move keeps it. -/
theorem kept (job : Job) : Kept job fun due run =>
    (Books job due run ∧ Faithful job due run) ∧ Precedence job run where
  mark run hpolicy h := ⟨(Faithful.kept job).mark run hpolicy h.1, h.2.mark hpolicy⟩
  skip run i due h := ⟨(Faithful.kept job).skip run i due h.1, h.2.skip h.1.1⟩
  start run i hp hmet hroom h :=
    ⟨(Faithful.kept job).start run i hp hmet hroom h.1, h.2.start h.1.1 hp hmet⟩
  work run pre f post now p hf hp h :=
    ⟨(Faithful.kept job).work run pre f post now p hf hp h.1, h.2.work h.1.1 h.1.2 hf hp⟩
  receive run i result mailbox hm h :=
    ⟨(Faithful.kept job).receive run i result mailbox hm h.1, h.2.receive h.1.1 hm⟩
  callOff run now h := ⟨(Faithful.kept job).callOff run now h.1, { h.2 with }⟩

end Precedence

end Run

theorem Reached.precedence {job : Job} {m : Moment} (h : Reached job m) :
    m.run.Precedence job :=
  ((Run.Precedence.kept job).reached ⟨⟨.fresh job, .fresh job⟩, .fresh job⟩ h).2

/-! ### The order of work -/

/-- The order in which a run does its tasks, as an observer sees it. -/
structure Run.Orderly (job : Job) (run : Run) : Prop where
  exists_task : ∀ time i, .began time i ∈ run.trace → ∃ t, job.tasks[i]? = some t
  settled_before : ∀ pre time i post t name, run.trace = pre ++ .began time i :: post →
    job.tasks[i]? = some t → name ∈ t.dependencies →
      ∃ (d : Nat) (u : Task) (r : Settlement), job.tasks[d]? = some u ∧ u.id = name ∧
        .settled d r ∈ pre ∧ (job.config.policy = .skip → r.success = true)
  told : ∀ i r, .settled i r ∈ run.trace → SettledAt run.board.states i ∧
    (r.success = true ↔ run.board.states[i]? = some .completed)
  untouched : ∀ i, run.board.states[i]? = some .skipped → ∀ time, .began time i ∉ run.trace

theorem ResultOf.success_iff {job : Job} {states : List Standing} {i : Nat} {r : Settlement}
    (h : ResultOf job states i r) : SettledAt states i ∧
      (r.success = true ↔ states[i]? = some .completed) := by
  obtain ⟨t, -, -, hwork | ⟨hskip, d, u, -, -, -, rfl⟩⟩ := h
  · rw [SettledAt, DownAt, hwork]
    cases r.success <;> simp [Standing.ofSuccess]
  · rw [SettledAt, DownAt, hskip]
    simp [Settlement.skipped, Settlement.failed]

theorem Reached.orderly {job : Job} {m : Moment} (hgraph : Runnable job.tasks)
    (h : Reached job m) : m.run.Orderly job := by
  have hbooks := h.books
  have hprec := h.precedence
  refine ⟨?_, ?_, ?_, ?_⟩
  · intro time i hi
    rcases hprec.started time i hi with hs | hs | hs <;> exact hbooks.exists_task hs
  · intro pre time i post t name htrace ht hname
    obtain ⟨d, u, hu, rfl⟩ := hgraph.exists_position (List.mem_of_getElem? ht) hname
    have hd : d ∈ job.table.getD i [] := (Job.mem_table hgraph).2 ⟨t, u, ht, hu, hname⟩
    obtain ⟨r, hr, hsuccess⟩ := hprec.inTurn pre time i post htrace d hd
    exact ⟨d, u, r, hu, rfl, hr, hsuccess⟩
  · intro i r hr
    have hresult := (hbooks.mem_settlements i r).1 (mem_settlements_iff.2 hr)
    exact (h.faithful.result i r hresult).success_iff
  · intro i hi time hbegan
    have hstarted := hprec.started time i hbegan
    simp [StartedAt, DoneAt, hi] at hstarted

/-- In a run of a valid graph, whatever the rules, the priorities and the workers are and in
whatever order attempts end: no attempt begins before all that its task depends on has settled, and
completed if failures are skipped; a task that has settled stays as it is; and there is no attempt
at a task that is skipped, neither before nor after that. -/
theorem attempts_in_turn (job : Job) (hgraph : checkGraph job.tasks = .ok ()) :
    (∀ m, Reached job m → m.run.Orderly job ∧
      ∀ m', Turns job m m' → m.run.Continues m'.run ∧
        (∀ time i d, m'.run.trace = m.run.trace ++ [.began time i] → DependsOn job.tasks i d →
          Met job.config.policy m.run.board.states d) ∧
        ∀ i, m.run.board.states[i]? = some .skipped → ∀ time, .began time i ∉ m'.run.trace) ∧
    (∀ run, Passes job run → run.Orderly job ∧
      (∀ run', Rounds job run run' → run.Continues run') ∧
      ∀ ending run', schedule job = .ok (ending, run') → run.Continues run') ∧
    ∀ ending run, schedule job = .ok (ending, run) → run.Orderly job := by
  have hvalid := Runnable.of_checkGraph hgraph
  refine ⟨fun m hm => ⟨hm.orderly hvalid, fun m' hm' => ⟨hm'.continues hm.books, ?_, ?_⟩⟩,
    fun run hrun => ⟨?_, fun run' hrun' => ?_, fun ending run' hend => ?_⟩,
    fun ending run hend => (reached_of_schedule hend).orderly hvalid⟩
  · rintro time i d htrace ⟨t, u, ht, hu, hname⟩
    obtain ⟨e, v, r, hv, hid, hr, hsuccess⟩ :=
      ((hm.turns hm').orderly hvalid).settled_before _ time i [] t u.id htrace ht hname
    -- a name stands for one place
    obtain rfl : e = d := by
      have hd := (findIdx?_id_eq_some_iff hvalid.nodup).2 ⟨u, hu, rfl⟩
      have he := (findIdx?_id_eq_some_iff hvalid.nodup).2 ⟨v, hv, hid⟩
      exact Option.some.inj (he.symm.trans hd)
    obtain ⟨hsettled, hcompleted⟩ := (hm.orderly hvalid).told e r hr
    unfold Met
    split
    · next hpolicy => exact hcompleted.1 (hsuccess hpolicy)
    · exact hsettled
  · intro i hi
    exact ((hm.turns hm').orderly hvalid).untouched i
      ((hm'.continues hm.books).keepsSettled i _ rfl hi)
  · obtain ⟨point, hreached⟩ := hrun.reached
    exact hreached.orderly hvalid
  · obtain ⟨point, point', hreached, hturns⟩ := hrun.turns hrun'
    exact hturns.continues hreached.books
  · obtain ⟨point, hreached, hturns⟩ := hrun.turns_over hend
    exact hturns.continues hreached.books

theorem attempts_in_turn_sample : ∃ ending run, schedule sample = .ok (ending, run) ∧
    run.board.states = [.completed, .failed, .skipped] ∧ begun run.trace = [0, 0, 1] ∧
    run.Orderly sample :=
  ⟨_, _, schedule_sample, states_sample, by decide +kernel,
    (attempts_in_turn sample checkGraph_sample).2.2 _ _ schedule_sample⟩

end Mockup.Schedule
