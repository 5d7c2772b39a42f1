import Mockup.Proofs.Schedule.Moves
import Mockup.Schedule.Trace

/-!
# Consistency of a run

At every moment of a run the board, the flights, the mailbox and the trace agree.

* `runningFrom`, `peakFrom_append`: the attempts that go on after a trace, and the greatest number
  of them;
* `settlements`: the tasks that settled, with their results;
* `Run.Books`: the agreement of board, flights, mailbox and trace;
* `Run.Books.kept`: every part of every move keeps it.
-/

namespace Mockup.Schedule

/-! ### Reading a trace -/

/-- The number of attempts that go on after a trace, when `running` went on before. -/
def runningFrom (running : Nat) : List Event → Nat
  | [] => running
  | .began _ _ :: rest => runningFrom (running + 1) rest
  | .ended _ _ :: rest => runningFrom (running - 1) rest
  | .settled _ _ :: rest => runningFrom running rest

theorem runningFrom_append (running : Nat) (xs ys : List Event) :
    runningFrom running (xs ++ ys) = runningFrom (runningFrom running xs) ys := by
  induction xs generalizing running with
  | nil => rfl
  | cons x xs ih => cases x <;> exact ih _

theorem le_peakFrom (running : Nat) (xs : List Event) : running ≤ peakFrom running xs := by
  induction xs with
  | nil => exact Nat.le_refl _
  | cons x xs ih => cases x <;> simp only [peakFrom] <;> omega

theorem peakFrom_append (running : Nat) (xs ys : List Event) :
    peakFrom running (xs ++ ys)
      = max (peakFrom running xs) (peakFrom (runningFrom running xs) ys) := by
  induction xs generalizing running with
  | nil => exact (Nat.max_eq_right (le_peakFrom running ys)).symm
  | cons x xs ih =>
    cases x <;> simp only [List.cons_append, peakFrom, runningFrom, ih, Nat.max_assoc]

theorem runningFrom_le_peakFrom (running : Nat) (xs : List Event) :
    runningFrom running xs ≤ peakFrom running xs := by
  induction xs generalizing running with
  | nil => exact Nat.le_refl _
  | cons x xs ih =>
    cases x with
    | began | ended => exact Nat.le_trans (ih _) (Nat.le_max_right _ _)
    | settled => exact ih _

/-- The task that settles, with its result. -/
def Event.settlement? : Event → Option (Nat × Settlement)
  | .settled i r => some (i, r)
  | .began _ _ | .ended _ _ => none

/-- The tasks that settle, with their results, in order. -/
def settlements (trace : List Event) : List (Nat × Settlement) :=
  trace.filterMap Event.settlement?

@[simp] theorem settlements_append (xs ys : List Event) :
    settlements (xs ++ ys) = settlements xs ++ settlements ys :=
  List.filterMap_append

@[simp] theorem settlements_settled (i : Nat) (r : Settlement) :
    settlements [.settled i r] = [(i, r)] := rfl

@[simp] theorem settlements_nil : settlements [] = [] := rfl

@[simp] theorem settlements_began (t i : Nat) : settlements [.began t i] = [] := rfl

@[simp] theorem settlements_ended (t i : Nat) : settlements [.ended t i] = [] := rfl

theorem mem_settlements_iff {trace : List Event} {i : Nat} {r : Settlement} :
    (i, r) ∈ settlements trace ↔ .settled i r ∈ trace := by
  simp only [settlements, List.mem_filterMap]
  constructor
  · rintro ⟨e, he, heq⟩
    cases e <;> simp [Event.settlement?] at heq
    obtain ⟨rfl, rfl⟩ := heq
    exact he
  · exact fun h => ⟨_, h, rfl⟩

theorem peak_append_settled (trace : List Event) (i : Nat) (r : Settlement) :
    peak (trace ++ [.settled i r]) = peak trace := by
  rw [peak, peakFrom_append]
  exact Nat.max_eq_left (runningFrom_le_peakFrom 0 trace)

namespace Flight.Move

variable {now : Nat} {cancelled : Bool} {f : Flight} {p : Progress}

/-- A flight goes on as one flight or ends with one report, on the same task. -/
theorem index_landing (h : f.Move now cancelled p) :
    p.landing.flight?.toList.map (·.index) ++ p.landing.report?.toList.map (·.1) = [f.index] := by
  rcases h.effect with ⟨f', rfl, hi, -⟩ | ⟨f', rfl, hi, -⟩ | ⟨r, rfl, -⟩ | ⟨r, rfl, -⟩ <;>
    simp [Landing.flight?, Landing.report?, *]

/-- An attempt goes on at a flight when the trace says so. -/
theorem runningFrom_events (h : f.Move now cancelled p) (others : Nat) :
    runningFrom (others + f.isAttempting.toNat) p.events
      = others + p.landing.flight?.toList.countP isAttempting := by
  rcases h.effect with ⟨f', rfl, -, -, hno, hyes⟩ | ⟨f', rfl, -, -, hyes, t, ht⟩
    | ⟨r, rfl, -, hyes⟩ | ⟨r, rfl, -, t, ht⟩
  · simp [runningFrom, Landing.flight?, hno, hyes]
  · simp [runningFrom, Landing.flight?, hyes, isAttempting_of_resting ht]
  · simp [runningFrom, Landing.flight?, hyes]
  · simp [runningFrom, Landing.flight?, isAttempting_of_resting ht]

/-- There is never more than one attempt at a flight. -/
theorem peakFrom_events_le (h : f.Move now cancelled p) (others : Nat) :
    peakFrom (others + f.isAttempting.toNat) p.events ≤ others + 1 := by
  have hle := Bool.toNat_le f.isAttempting
  rcases h.effect with ⟨f', rfl, -, -, hno, -⟩ | ⟨f', rfl, -⟩ | ⟨r, rfl, -⟩ | ⟨r, rfl, -⟩
  · simp [peakFrom, hno]
  all_goals simp only [peakFrom]; omega

theorem settlements_events (h : f.Move now cancelled p) : settlements p.events = [] := by
  rcases h.effect with ⟨f', rfl, -⟩ | ⟨f', rfl, -⟩ | ⟨r, rfl, -⟩ | ⟨r, rfl, -⟩ <;> simp

end Flight.Move

/-! ### The books -/

namespace Run

/-- The board, the flights, the mailbox and the trace agree, but for skipped tasks that are due. -/
structure Books (job : Job) (due : List Nat) (run : Run) : Prop where
  board : run.board.Sound job.tasks.length due
  length_inFlight_le : run.board.inFlight.length ≤ job.config.maxConcurrency
  manned : (run.flights.map (·.index) ++ run.mailbox.map (·.1)).Perm run.board.inFlight
  running : runningFrom 0 run.trace = run.flights.countP Flight.isAttempting
  peak_le : peak run.trace ≤ job.config.maxConcurrency
  nodup_settlements : ((settlements run.trace).map (·.1)).Nodup
  mem_settlements : ∀ i r,
    (i, r) ∈ settlements run.trace ↔ run.board.results[i]? = some (some r)

/-- The tasks that the coordinator starts when it dispatches. -/
def started (job : Job) (run : Run) : List Nat :=
  (readyTasks job.config.policy job.tasks job.table run.board.states).take
    (job.config.maxConcurrency - run.board.inFlight.length)

namespace Books

variable {job : Job} {run : Run} {i : Nat} {due : List Nat}

theorem fresh (job : Job) : Books job [] (.fresh job) where
  board := .fresh _
  length_inFlight_le := Nat.zero_le _
  manned := .nil
  running := rfl
  peak_le := Nat.zero_le _
  nodup_settlements := List.nodup_nil
  mem_settlements := by simp [Run.fresh, Board.fresh, settlements, List.getElem?_replicate]

/-- Every state belongs to a task. -/
theorem exists_task (h : Books job due run) {s : Standing} (hi : run.board.states[i]? = some s) :
    ∃ t, job.tasks[i]? = some t :=
  ⟨_, List.getElem?_eq_getElem (h.board.lt_of_getElem? hi)⟩

/-- A task that settles for the first time is told about once, with its result. -/
theorem settlements_settle {b : Board} {trace : List Event} {n : Nat} {r : Settlement}
    (hlen : b.results.length = n) (hi : i < n) (hnone : ∀ r, b.results[i]? ≠ some (some r))
    (hnodup : ((settlements trace).map (·.1)).Nodup)
    (hmem : ∀ i r, (i, r) ∈ settlements trace ↔ b.results[i]? = some (some r)) :
    ((settlements (trace ++ [.settled i r])).map (·.1)).Nodup ∧
      ∀ j r', (j, r') ∈ settlements (trace ++ [.settled i r]) ↔
        (b.results.set i (some r))[j]? = some (some r') := by
  constructor
  · rw [settlements_append, settlements_settled, List.map_append, List.nodup_append]
    refine ⟨hnodup, List.nodup_singleton _, ?_⟩
    rintro a ha c hc rfl
    obtain ⟨⟨j, r'⟩, hj, rfl⟩ := List.mem_map.1 ha
    obtain rfl : j = i := by simpa using hc
    exact hnone r' ((hmem _ _).1 hj)
  · intro j r'
    rw [settlements_append, settlements_settled, List.mem_append, hmem, List.getElem?_set]
    by_cases hij : i = j
    · subst hij
      simp only [hnone r', false_or, List.mem_singleton, Prod.mk.injEq, true_and, if_true,
        hlen, hi, Option.some.injEq, eq_comm]
    · simp [hij, Ne.symm hij]

theorem mark (h : Books job [] run) : Books job (spreadSkips job.table run.board.states).1
    { run with board := { run.board with states := (spreadSkips job.table run.board.states).2 } } :=
  { h with board := h.board.mark job.table }

theorem skip (h : Books job (i :: due) run) : Books job due (run.settleSkipped job i) := by
  have hskipped := h.board.skipped_of_due i List.mem_cons_self
  have hlt := h.board.lt_of_getElem? hskipped
  have hnone : ∀ r, run.board.results[i]? ≠ some (some r) := fun r hr =>
    ((h.board.result_iff i).1 ⟨r, hr⟩).2 List.mem_cons_self
  -- a task that is skipped was never in flight
  have hflight : run.board.inFlight.erase i = run.board.inFlight := by
    refine List.erase_of_not_mem fun hmem => ?_
    rw [h.board.mem_inFlight, hskipped] at hmem
    cases hmem
  rw [settleSkipped_eq (List.getElem?_eq_getElem hlt)]
  obtain ⟨hnodup, hmem⟩ := settlements_settle h.board.length_results hlt hnone
    h.nodup_settlements h.mem_settlements
  refine ⟨h.board.settle_skipped _, ?_, ?_, ?_, ?_, hnodup, hmem⟩
  · simpa only [settle, Board.settle, hflight] using h.length_inFlight_le
  · simpa only [settle, Board.settle, hflight] using h.manned
  · exact (runningFrom_append 0 run.trace _).trans h.running
  · exact Nat.le_trans (Nat.le_of_eq (peak_append_settled run.trace i _)) h.peak_le

theorem start (h : Books job [] run) (hp : run.board.states[i]? = some .pending)
    (hroom : run.board.inFlight.length < job.config.maxConcurrency) :
    Books job [] (run.start job i) := by
  obtain ⟨t, ht⟩ := h.exists_task hp
  have hboard : run.board.start? i = some { run.board with
      states := run.board.states.set i .executing, inFlight := run.board.inFlight ++ [i] } := by
    simp only [Board.start?, hp, if_true]
  rw [start_eq hp ht]
  refine ⟨h.board.start hboard, ?_, ?_, ?_, h.peak_le, h.nodup_settlements, h.mem_settlements⟩
  · simp only [List.length_append, List.length_singleton]
    omega
  · have hperm := h.manned.append_right [i]
    refine List.Perm.trans ?_ hperm
    simp only [List.map_append, List.map_cons, List.map_nil, List.append_assoc]
    exact List.Perm.append_left _ List.perm_append_comm
  · simpa [Flight.fresh, Flight.isAttempting] using h.running

/-- Attempts go on at flights, and every flight is one of a task in flight. -/
theorem length_flights_le (h : Books job due run) :
    run.flights.length + run.mailbox.length ≤ job.config.maxConcurrency := by
  have hlen := h.manned.length_eq
  simp only [List.length_append, List.length_map] at hlen
  exact hlen ▸ h.length_inFlight_le

theorem work {pre post : List Flight} {f : Flight} {now : Nat} {p : Progress}
    (hf : run.flights = pre ++ f :: post) (hp : f.Move now run.cancelled p)
    (h : Books job [] run) : Books job [] (run.carry (pre ++ post) now p) := by
  -- the flight that moves goes to the end, where what becomes of it stands afterwards
  have hsplit : run.flights.Perm ((pre ++ post) ++ [f]) := by
    rw [hf]
    exact List.perm_middle.trans (List.perm_append_singleton f _).symm
  have hcalls : runningFrom 0 run.trace
      = (pre ++ post).countP Flight.isAttempting + f.isAttempting.toNat := by
    rw [h.running, hsplit.countP_eq, List.countP_append, List.countP_singleton]
    cases f.isAttempting <;> rfl
  refine ⟨h.board, h.length_inFlight_le, ?_, ?_, ?_, ?_, ?_⟩
  · have hmoved := (hsplit.map (·.index)).append_right (run.mailbox.map (·.1))
    have hmanned := hmoved.symm.trans h.manned
    refine List.Perm.trans ?_ hmanned
    rw [List.map_append, List.map_singleton, ← hp.index_landing]
    simp only [carry, List.map_append, List.append_assoc]
    exact (List.perm_append_comm.append_left _).append_left _ |>.append_left _
  · simp only [carry]
    rw [runningFrom_append, hcalls, hp.runningFrom_events]
    exact List.countP_append.symm
  · have hroom := h.length_flights_le
    have hle := List.countP_le_length (p := Flight.isAttempting) (l := pre ++ post)
    have hone := hp.peakFrom_events_le ((pre ++ post).countP Flight.isAttempting)
    have hlen := hsplit.length_eq
    rw [List.length_append, List.length_singleton] at hlen
    rw [carry, peak, peakFrom_append, hcalls]
    exact Nat.max_le.2 ⟨h.peak_le, by omega⟩
  · simpa [carry, hp.settlements_events] using h.nodup_settlements
  · simpa [carry, hp.settlements_events] using h.mem_settlements

/-- A report is on a task that is executing. -/
theorem executing_of_report {result : Settlement} {mailbox : List (Nat × Settlement)}
    (hm : run.mailbox = (i, result) :: mailbox) (h : Books job [] run) :
    run.board.states[i]? = some .executing := by
  refine (h.board.mem_inFlight i).1 (h.manned.mem_iff.1 ?_)
  simp [hm]

/-- A flight is one of a task that is executing. -/
theorem executing_of_flight {f : Flight} (hf : f ∈ run.flights) (h : Books job [] run) :
    run.board.states[f.index]? = some .executing := by
  refine (h.board.mem_inFlight f.index).1 (h.manned.mem_iff.1 ?_)
  exact List.mem_append_left _ (List.mem_map.2 ⟨f, hf, rfl⟩)

/-- No two flights are on the same task. -/
theorem nodup_flights (h : Books job due run) : (run.flights.map (·.index)).Nodup :=
  (List.nodup_append.1 (h.manned.nodup_iff.2 h.board.nodup_inFlight)).1

/-- No flight and report are on the same task. -/
theorem index_ne_of_report (h : Books job due run) {f : Flight} (hf : f ∈ run.flights)
    {r : Settlement} (hr : (i, r) ∈ run.mailbox) : f.index ≠ i :=
  (List.nodup_append.1 (h.manned.nodup_iff.2 h.board.nodup_inFlight)).2.2 _
    (List.mem_map_of_mem hf) _ (List.mem_map_of_mem hr)

/-- A settled task has a result, and it was told that it settled. -/
theorem exists_settled (h : Books job [] run) (hi : SettledAt run.board.states i) :
    ∃ r, run.board.results[i]? = some (some r) ∧ .settled i r ∈ run.trace := by
  obtain ⟨r, hr⟩ := (h.board.result_iff i).2 ⟨hi, List.not_mem_nil⟩
  exact ⟨r, hr, mem_settlements_iff.1 ((h.mem_settlements i r).2 hr)⟩

theorem receive {result : Settlement} {mailbox : List (Nat × Settlement)}
    (hm : run.mailbox = (i, result) :: mailbox) (h : Books job [] run) :
    Books job [] ({ run with mailbox }.settle job i (.ofSuccess result.success) result) := by
  have hmanned := h.manned
  rw [hm, List.map_cons] at hmanned
  have hexec := h.executing_of_report hm
  have hflight := (h.board.mem_inFlight i).2 hexec
  have hlt := h.board.lt_of_getElem? hexec
  -- a task that is executing has no result yet
  have hnone : ∀ r, run.board.results[i]? ≠ some (some r) := by
    intro r hr
    have hsettled := ((h.board.result_iff i).1 ⟨r, hr⟩).1
    simp [SettledAt, DownAt, hexec] at hsettled
  obtain ⟨hnodup, hmem⟩ := settlements_settle h.board.length_results hlt hnone
    h.nodup_settlements h.mem_settlements
  refine ⟨h.board.settle_inFlight hflight _ _, ?_, ?_, ?_, ?_, hnodup, hmem⟩
  · exact Nat.le_trans List.length_erase_le h.length_inFlight_le
  · have hperm := hmanned.erase i
    refine List.Perm.trans ?_ hperm
    refine List.Perm.trans ?_ (List.perm_middle.symm.erase i)
    simp [settle]
  · exact (runningFrom_append 0 run.trace _).trans h.running
  · exact Nat.le_trans (Nat.le_of_eq (peak_append_settled run.trace i _)) h.peak_le

/-- Settling a task that is due changes no state. -/
theorem states_settleSkipped (h : Books job (i :: due) run) :
    (run.settleSkipped job i).board.states = run.board.states := by
  have hskipped := h.board.skipped_of_due i List.mem_cons_self
  obtain ⟨t, ht⟩ := h.exists_task hskipped
  rw [settleSkipped_eq ht]
  exact set_getElem?_some hskipped

theorem states_foldl_settleSkipped (due : List Nat) (run : Run) (h : Books job due run) :
    (due.foldl (settleSkipped job) run).board.states = run.board.states := by
  induction due generalizing run with
  | nil => rfl
  | cons i due ih => rw [List.foldl_cons, ih _ h.skip, h.states_settleSkipped]

/-- The states once all that is blocked has been settled. -/
theorem states_skipPhase (h : Books job [] run) (hpolicy : job.config.policy = .skip) :
    (run.skipPhase job).board.states = (spreadSkips job.table run.board.states).2 := by
  simp only [skipPhase, hpolicy]
  exact states_foldl_settleSkipped _ _ h.mark

/-- Once all that is blocked has been settled nothing is. -/
theorem blockedTasks_skipPhase (h : Books job [] run) (hpolicy : job.config.policy = .skip) :
    blockedTasks job.table (run.skipPhase job).board.states = [] := by
  rw [h.states_skipPhase hpolicy]
  exact blockedTasks_spreadSkips _ _

/-- The coordinator starts the first ready tasks, as many as there is room for. -/
theorem startPhase_eq (h : Books job [] run) : run.startPhase job = { run with
    board := { run.board with
      states := (run.started job).foldl (fun states i => states.set i .executing) run.board.states
      inFlight := run.board.inFlight ++ run.started job }
    flights := run.flights
      ++ (run.started job).filterMap fun i => (job.tasks[i]?).map (Flight.fresh job.config i) } :=
  foldl_start (run.started job) run (nodup_readyTasks.sublist (List.take_sublist _ _))
    h.board.length_states fun _ hi => (mem_readyTasks.1 (List.mem_of_mem_take hi)).1

/-- Every part of every move keeps the books. -/
theorem kept (job : Job) : Kept job (Books job) where
  mark _ _ h := h.mark
  skip _ _ _ h := h.skip
  start _ _ hp _ hroom h := h.start hp hroom
  work _ _ _ _ _ _ hf hp h := h.work hf hp
  receive _ _ _ _ hm h := h.receive hm
  callOff _ _ h := { h with }

end Books

end Run

end Mockup.Schedule
