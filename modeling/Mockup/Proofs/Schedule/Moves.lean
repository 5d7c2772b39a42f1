import Mathlib.Logic.Relation
import Mockup.Proofs.Schedule.Board
import Mockup.Schedule.Run

/-!
# The moves of a run

`Run.step` follows one course of a run: what is due at one time happens in the order in which it was
last waited for.  The relation below fixes the coordinator only: attempts end at any time, in any
order and in any way, and the run may be called off at any time.

* `Flight.Move`: the moves of a flight;
* `Moment`: a run, and where the coordinator stands in its loop;
* `Move`: the moves of the coordinator and of the workers; `Turn`: a move, or the run is called off;
* `Reached`: the moments of all runs;
* `of_dispatch_again`, `of_dispatch_over`: the moments after the work of the coordinator;
* `KeptByCoordinator`: invariants of all parts of the work of the coordinator;
* `Kept`: invariants of all parts of every turn, with `Kept.turns` and `Kept.reached`.
-/

namespace Mockup.Schedule

/-! ### Workers -/

namespace Flight

/-- An attempt is being made. -/
def isAttempting (f : Flight) : Bool :=
  match f.phase with
  | .attempting _ _ => true
  | .waiting | .resting _ => false

theorem isAttempting_of_resting {f : Flight} {t : Nat} (h : f.phase = .resting t) :
    f.isAttempting = false := by
  simp [isAttempting, h]

/-- The moves of a flight.  `cancelled` says whether the run was called off. -/
inductive Move (now : Nat) (cancelled : Bool) : Flight → Progress → Prop
  | begin {f : Flight} (hf : f.phase = .waiting) (ends : Nat)
      (outcome : Except AttemptError Output) :
      Move now cancelled f ⟨[.began now f.index],
        .flying { f with begun := now, phase := .attempting ends outcome }⟩
  | resume {f : Flight} {t : Nat} (hf : f.phase = .resting t) (ends : Nat)
      (outcome : Except AttemptError Output) :
      Move now cancelled f ⟨[.began now f.index],
        .flying { f with phase := .attempting ends outcome }⟩
  | succeed {f : Flight} {ends : Nat} {out : Output} (hf : f.phase = .attempting ends (.ok out)) :
      Move now cancelled f (f.report now (.succeeded f.task out.payload) out.confidence)
  | retry {f : Flight} {ends left : Nat} {e : AttemptError}
      (hf : f.phase = .attempting ends (.error e)) (he : e.mayPass = true)
      (hleft : f.left = left + 1) (rest : Nat) :
      Move now cancelled f ⟨[.ended now f.index],
        .flying { f with attempt := f.attempt + 1, left, phase := .resting rest }⟩
  | fail {f : Flight} {ends : Nat} {e : AttemptError}
      (hf : f.phase = .attempting ends (.error e)) (he : e.mayPass = false ∨ f.left = 0) :
      Move now cancelled f (f.report now (.failed f.task e.message) none)
  | breakDown {f : Flight} {ends : Nat} {outcome : Except AttemptError Output}
      (hf : f.phase = .attempting ends outcome) (reason : String) :
      Move now cancelled f ⟨[.ended now f.index],
        .landed f.index (.failed f.task ("executor panicked: " ++ reason) ⟨0, none, 1⟩)⟩
  | giveUp {f : Flight} {t : Nat} (hf : f.phase = .resting t) (hc : cancelled = true) :
      Move now cancelled f ⟨[], .landed f.index
        (.failed f.task AttemptError.cancelled.message ⟨now - f.begun, none, f.attempt - 1⟩)⟩

theorem Move.weight_lt {now : Nat} {cancelled : Bool} {f : Flight} {p : Progress}
    (h : f.Move now cancelled p) : p.landing.weight < f.weight := by
  cases h with
  | begin hf | resume hf => simp [Landing.weight, weight, hf]
  | retry hf _ hleft => simp [Landing.weight, weight, hf, hleft]; omega
  | succeed hf | fail hf | breakDown hf | giveUp hf => simp [report, Landing.weight, weight, hf]

end Flight

/-- A result that reports on the task. -/
def IsReport (t : Task) (r : Settlement) : Prop :=
  r.taskId = t.id ∧ r.kind = t.kind

/-- A move begins an attempt or ends one or neither, and the flight goes on or there is a report. -/
theorem Flight.Move.effect {now : Nat} {cancelled : Bool} {f : Flight} {p : Progress}
    (h : f.Move now cancelled p) :
    (∃ f' : Flight, p = ⟨[.began now f.index], .flying f'⟩ ∧ f'.index = f.index ∧ f'.task = f.task ∧
      f.isAttempting = false ∧ f'.isAttempting = true) ∨
    (∃ f' : Flight, p = ⟨[.ended now f.index], .flying f'⟩ ∧ f'.index = f.index ∧ f'.task = f.task ∧
      f.isAttempting = true ∧ ∃ t, f'.phase = .resting t) ∨
    (∃ r, p = ⟨[.ended now f.index], .landed f.index r⟩ ∧ IsReport f.task r ∧
      f.isAttempting = true) ∨
    (∃ r, p = ⟨[], .landed f.index r⟩ ∧ IsReport f.task r ∧ ∃ t, f.phase = .resting t) := by
  cases h with
  | begin hf | resume hf =>
    exact .inl ⟨_, rfl, rfl, rfl, by simp [isAttempting, hf], rfl⟩
  | retry hf => exact .inr (.inl ⟨_, rfl, rfl, rfl, by simp [isAttempting, hf], _, rfl⟩)
  | succeed hf | fail hf | breakDown hf =>
    exact .inr (.inr (.inl ⟨_, rfl, ⟨rfl, rfl⟩, by simp [isAttempting, hf]⟩))
  | giveUp hf => exact .inr (.inr (.inr ⟨_, rfl, ⟨rfl, rfl⟩, _, hf⟩))

namespace Flight.Move

variable {now : Nat} {cancelled : Bool} {f : Flight} {p : Progress}

/-- A flight goes on as work on the same task. -/
theorem of_flight? (h : f.Move now cancelled p) {g : Flight} (hg : p.landing.flight? = some g) :
    g.index = f.index ∧ g.task = f.task := by
  rcases h.effect with ⟨f', rfl, hi, ht, -⟩ | ⟨f', rfl, hi, ht, -⟩ | ⟨r, rfl, -⟩ | ⟨r, rfl, -⟩ <;>
    cases hg
  · exact ⟨hi, ht⟩
  · exact ⟨hi, ht⟩

/-- A flight ends with a report on its task. -/
theorem of_report? (h : f.Move now cancelled p) {i : Nat} {r : Settlement}
    (hr : p.landing.report? = some (i, r)) : i = f.index ∧ IsReport f.task r := by
  rcases h.effect with ⟨f', rfl, -⟩ | ⟨f', rfl, -⟩ | ⟨r', rfl, hreport, -⟩ | ⟨r', rfl, hreport, -⟩
    <;> cases hr
  · exact ⟨rfl, hreport⟩
  · exact ⟨rfl, hreport⟩

end Flight.Move

/-- The run once something has happened at one flight. -/
def Run.carry (run : Run) (others : List Flight) (now : Nat) (p : Progress) : Run :=
  { run with
    flights := others ++ p.landing.flight?.toList
    mailbox := run.mailbox ++ p.landing.report?.toList
    clock := now
    trace := run.trace ++ p.events }

/-- The run once it has been called off. -/
def Run.callOff (run : Run) (now : Nat) : Run :=
  { run with clock := now, cancelled := true }

/-! ### The coordinator -/

/-- The coordinator is at the head of its loop, or waits. -/
inductive Point where
  | atHead
  | atWait
  | over (ending : Ending)

/-- A run at one moment. -/
structure Moment where
  point : Point
  run : Run

namespace Moment

/-- The first moment of a run. -/
def fresh (job : Job) : Moment := ⟨.atHead, .fresh job⟩

/-- The moment to which the work of the coordinator leads before it listens. -/
def ofDispatch : Outcome → Moment
  | .over ending run => ⟨.over ending, run⟩
  | .again run => ⟨.atWait, run⟩

/-- The run has come to its end. -/
def IsOver (m : Moment) : Prop := ∃ ending, m.point = .over ending

end Moment

/-- The moves of the coordinator and of the workers.  All that the coordinator does without waiting
is one move: it shares nothing with the workers but the mailbox. -/
inductive Move (job : Job) : Moment → Moment → Prop
  | dispatch (run : Run) : Move job ⟨.atHead, run⟩ (.ofDispatch (run.dispatch job))
  | receive {run run' : Run} (hr : run.receive? job = some run') :
      Move job ⟨.atWait, run⟩ ⟨.atHead, run'⟩
  | turnBack {run : Run} (hc : run.cancelled = true) : Move job ⟨.atWait, run⟩ ⟨.atHead, run⟩
  | work {m : Moment} {pre post : List Flight} {f : Flight} {now : Nat} {p : Progress}
      (hm : ¬ m.IsOver) (hf : m.run.flights = pre ++ f :: post)
      (hp : f.Move now m.run.cancelled p) :
      Move job m ⟨m.point, m.run.carry (pre ++ post) now p⟩

/-- A turn is a move, or the run is called off. -/
inductive Turn (job : Job) : Moment → Moment → Prop
  | move {m m' : Moment} (h : Move job m m') : Turn job m m'
  | callOff {m : Moment} (hm : ¬ m.IsOver) (now : Nat) : Turn job m ⟨m.point, m.run.callOff now⟩

/-- Turns in the course of time. -/
abbrev Turns (job : Job) : Moment → Moment → Prop :=
  Relation.ReflTransGen (Turn job)

theorem Turns.of_moves {job : Job} {m m' : Moment} (h : Relation.ReflTransGen (Move job) m m') :
    Turns job m m' :=
  Relation.ReflTransGen.mono (fun _ _ => Turn.move) _ _ h

/-- The moments of all runs of a job. -/
def Reached (job : Job) (m : Moment) : Prop :=
  Turns job (.fresh job) m

theorem Reached.turns {job : Job} {m m' : Moment} (h : Reached job m) (h' : Turns job m m') :
    Reached job m' :=
  Relation.ReflTransGen.trans h h'

theorem Reached.move {job : Job} {m m' : Moment} (h : Reached job m) (h' : Move job m m') :
    Reached job m' :=
  Relation.ReflTransGen.tail h (.move h')

/-! ### What is kept -/

theorem settleSkipped_eq {job : Job} {run : Run} {i : Nat} {task : Task}
    (hi : job.tasks[i]? = some task) : run.settleSkipped job i = run.settle job i .skipped
      (.skipped task (Board.blocker job.tasks job.table run.board.states i)) := by
  simp only [Run.settleSkipped, hi]

theorem start_eq {job : Job} {run : Run} {i : Nat} {task : Task}
    (hp : run.board.states[i]? = some .pending) (hi : job.tasks[i]? = some task) :
    run.start job i = { run with
      board := { run.board with
        states := run.board.states.set i .executing, inFlight := run.board.inFlight ++ [i] }
      flights := run.flights ++ [.fresh job.config i task] } := by
  simp only [Run.start, Board.start?, hp, hi, if_true]

/-- Tasks that are started one after the other. -/
theorem foldl_start {job : Job} (is : List Nat) (run : Run) (hnodup : is.Nodup)
    (hlen : run.board.states.length = job.tasks.length)
    (hp : ∀ i ∈ is, run.board.states[i]? = some .pending) :
    is.foldl (Run.start job) run = { run with
      board := { run.board with
        states := is.foldl (fun states i => states.set i .executing) run.board.states
        inFlight := run.board.inFlight ++ is }
      flights := run.flights
        ++ is.filterMap fun i => (job.tasks[i]?).map (Flight.fresh job.config i) } := by
  induction is generalizing run with
  | nil => simp
  | cons i is ih =>
    obtain ⟨hi, hnodup⟩ := List.nodup_cons.1 hnodup
    have hpi := hp i List.mem_cons_self
    have hlt : i < job.tasks.length := hlen ▸ (List.getElem?_eq_some_iff.1 hpi).1
    have htask := List.getElem?_eq_getElem hlt
    rw [List.foldl_cons, start_eq hpi htask, ih _ hnodup (by simpa using hlen)]
    · simp [htask, List.append_assoc]
    · intro j hj
      have hne : i ≠ j := fun hij => hi (hij ▸ hj)
      simpa [getElem?_set_some hpi, hne] using hp j (List.mem_cons_of_mem _ hj)

/-- The coordinator listens once it has settled what is blocked and started what is ready, if there
are tasks left and something is in flight. -/
theorem of_dispatch_again {job : Job} {run run' : Run} (h : run.dispatch job = .again run') :
    run.cancelled = false ∧ (run.skipPhase job).board.settled < job.tasks.length ∧
      run' = (run.skipPhase job).startPhase job ∧ run'.board.inFlight ≠ [] := by
  unfold Run.dispatch at h
  simp only at h
  split at h
  · cases h
  split at h
  · cases h
  next hc =>
  split at h
  · cases h
  next hlt =>
  split at h <;> cases h
  next hbusy =>
  exact ⟨by simpa using hc, Nat.not_le.1 hlt, rfl, fun hnil => hbusy (List.isEmpty_iff.2 hnil)⟩

/-- Otherwise that is the end of the run: all tasks have settled, or it was called off, or nothing
is in flight. -/
theorem of_dispatch_over {job : Job} {run run' : Run} {ending : Ending}
    (h : run.dispatch job = .over ending run') :
    ((run' = run ∨ run' = run.skipPhase job) ∧ job.tasks.length ≤ run'.board.settled ∧
      ending = .finished (run'.board.results.filterMap id)) ∨
    (run' = run ∧ run.cancelled = true ∧ ending = .cancelled) ∨
    ((run.skipPhase job).board.settled < job.tasks.length ∧
      run' = (run.skipPhase job).startPhase job ∧ run'.board.inFlight = [] ∧
      ending = .stuck (job.tasks.length - run'.board.settled)) := by
  unfold Run.dispatch at h
  simp only at h
  split at h
  · next hle => cases h; exact .inl ⟨.inl rfl, hle, rfl⟩
  split at h
  · next hc => cases h; exact .inr (.inl ⟨rfl, hc, rfl⟩)
  split at h
  · next hle => cases h; exact .inl ⟨.inr rfl, hle, rfl⟩
  next hlt =>
  split at h <;> cases h
  next hidle => exact .inr (.inr ⟨Nat.not_le.1 hlt, rfl, List.isEmpty_iff.1 hidle, rfl⟩)

/-- An invariant of all parts of the coordinator's work.  The list holds the tasks that were marked
as skipped and are still to be settled; it is empty unless skips are under way. -/
structure KeptByCoordinator (job : Job) (P : List Nat → Run → Prop) : Prop where
  mark : ∀ run, job.config.policy = .skip → P [] run → P (spreadSkips job.table run.board.states).1
    { run with board := { run.board with states := (spreadSkips job.table run.board.states).2 } }
  skip : ∀ run i due, P (i :: due) run → P due (run.settleSkipped job i)
  start : ∀ run i, run.board.states[i]? = some .pending →
    (∀ d ∈ job.table.getD i [], Met job.config.policy run.board.states d) →
    run.board.inFlight.length < job.config.maxConcurrency → P [] run → P [] (run.start job i)
  receive : ∀ run i result mailbox, run.mailbox = (i, result) :: mailbox → P [] run →
    P [] ({ run with mailbox }.settle job i (.ofSuccess result.success) result)

/-- An invariant of all parts of every turn. -/
structure Kept (job : Job) (P : List Nat → Run → Prop) : Prop extends KeptByCoordinator job P where
  work : ∀ run pre f post now p, run.flights = pre ++ f :: post → f.Move now run.cancelled p →
    P [] run → P [] (run.carry (pre ++ post) now p)
  callOff : ∀ run now, P [] run → P [] (run.callOff now)

namespace KeptByCoordinator

variable {job : Job} {P : List Nat → Run → Prop}

theorem settleAll (h : KeptByCoordinator job P) (due : List Nat) (run : Run) (hrun : P due run) :
    P [] (due.foldl (Run.settleSkipped job) run) := by
  induction due generalizing run with
  | nil => exact hrun
  | cons i due ih => exact ih _ (h.skip run i due hrun)

theorem skipPhase (h : KeptByCoordinator job P) {run : Run} (hrun : P [] run) :
    P [] (run.skipPhase job) := by
  unfold Run.skipPhase
  split
  · exact hrun
  · next hpolicy => exact h.settleAll _ _ (h.mark run hpolicy hrun)

/-- Tasks that may start are started one after the other: none of them keeps another from it. -/
theorem startAll (h : KeptByCoordinator job P) (is : List Nat) (run : Run) (hnodup : is.Nodup)
    (hp : ∀ i ∈ is, run.board.states[i]? = some .pending)
    (hmet : ∀ i ∈ is, ∀ d ∈ job.table.getD i [], Met job.config.policy run.board.states d)
    (hroom : run.board.inFlight.length + is.length ≤ job.config.maxConcurrency)
    (hrun : P [] run) : P [] (is.foldl (Run.start job) run) := by
  induction is generalizing run with
  | nil => exact hrun
  | cons i is ih =>
    obtain ⟨hi, hnodup⟩ := List.nodup_cons.1 hnodup
    have hpi := hp i List.mem_cons_self
    rw [List.length_cons] at hroom
    have hnext := h.start run i hpi (hmet i List.mem_cons_self) (by omega) hrun
    rw [List.foldl_cons]
    cases htask : job.tasks[i]? with
    | none =>
      -- where there is no task nothing is started
      have hsame : run.start job i = run := by simp only [Run.start, htask]; split <;> simp_all
      rw [hsame]
      exact ih run hnodup (fun j hj => hp j (List.mem_cons_of_mem _ hj))
        (fun j hj => hmet j (List.mem_cons_of_mem _ hj)) (by omega) hrun
    | some task =>
      rw [start_eq hpi htask] at hnext ⊢
      refine ih _ hnodup ?_ ?_ ?_ hnext
      · -- the others are pending still, and what they depend on has settled before
        intro j hj
        have hne : i ≠ j := fun hij => hi (hij ▸ hj)
        simpa [getElem?_set_some hpi, hne] using hp j (List.mem_cons_of_mem _ hj)
      · intro j hj d hd
        exact (met_set_executing_iff hpi).2 (hmet j (List.mem_cons_of_mem _ hj) d hd)
      · simp only [List.length_append, List.length_singleton]
        omega

theorem startPhase (h : KeptByCoordinator job P) {run : Run} (hrun : P [] run) :
    P [] (run.startPhase job) := by
  simp only [Run.startPhase]
  by_cases hroom : run.board.inFlight.length ≤ job.config.maxConcurrency
  · refine h.startAll _ run (nodup_readyTasks.sublist (List.take_sublist _ _)) ?_ ?_ ?_ hrun
    · exact fun i hi => (mem_readyTasks.1 (List.mem_of_mem_take hi)).1
    · exact fun i hi => (mem_readyTasks.1 (List.mem_of_mem_take hi)).2
    · rw [List.length_take]
      omega
  · rw [Nat.sub_eq_zero_of_le (Nat.le_of_not_le hroom), List.take_zero]
    exact hrun

theorem dispatch (h : KeptByCoordinator job P) {run : Run} (hrun : P [] run) :
    P [] (Moment.ofDispatch (run.dispatch job)).run := by
  cases hd : run.dispatch job with
  | again run' =>
    obtain ⟨-, -, rfl, -⟩ := of_dispatch_again hd
    exact h.startPhase (h.skipPhase hrun)
  | «over» ending run' =>
    rcases of_dispatch_over hd with ⟨rfl | rfl, -⟩ | ⟨rfl, -⟩ | ⟨-, rfl, -⟩
    · exact hrun
    · exact h.skipPhase hrun
    · exact hrun
    · exact h.startPhase (h.skipPhase hrun)

theorem receive? (h : KeptByCoordinator job P) {run run' : Run} (hr : run.receive? job = some run')
    (hrun : P [] run) : P [] run' := by
  unfold Run.receive? at hr
  split at hr
  · cases hr
  · next i result mailbox hm =>
    cases hr
    exact h.receive run i result mailbox hm hrun

end KeptByCoordinator

namespace Kept

variable {job : Job} {P : List Nat → Run → Prop}

theorem move (h : Kept job P) {m m' : Moment} (hm : Move job m m') (hrun : P [] m.run) :
    P [] m'.run := by
  cases hm with
  | dispatch run => exact h.dispatch hrun
  | receive hr => exact h.receive? hr hrun
  | turnBack => exact hrun
  | work _ hf hp => exact h.work _ _ _ _ _ _ hf hp hrun

/-- An invariant is kept in the course of time. -/
theorem turns (h : Kept job P) {m m' : Moment} (hm : Turns job m m') (hrun : P [] m.run) :
    P [] m'.run := by
  induction hm with
  | refl => exact hrun
  | tail _ hturn ih =>
    cases hturn with
    | move hm => exact h.move hm ih
    | callOff _ now => exact h.callOff _ now ih

/-- An invariant that holds of a fresh run holds at every moment of every run. -/
theorem reached (h : Kept job P) (hfresh : P [] (.fresh job)) {m : Moment} (hm : Reached job m) :
    P [] m.run :=
  h.turns hm hfresh

end Kept

end Mockup.Schedule
