import Mathlib.Algebra.Group.Nat.Defs
import Mathlib.Order.Bounds.Defs
import Mockup.Proofs.Schedule.Course

/-!
# The attempts at one task

How many attempts are made at a task, when each begins and ends, and what is reported at the end is
settled by the worker, by the rules and by the time at which the work begins.

* `Timetable`: the begin, the end and the outcome of attempts;
* `IsLast`: no attempt follows one with this outcome;
* `Retried`: the attempts that are made, and the result;
* `tried`, `beginsAt`, `endsAt`: the attempts that a worker would make, with `timetable_tried`;
* `Flight.OnTime`, `Progress.OnTime`: the place of a flight among them;
* `Flight.onTime_advance`: going on with a flight when it is due keeps it in time.
-/

namespace Mockup.Schedule

/-! ### What attempts are made -/

/-- The attempts at a task, whether they are made or not: when each begins and ends, and its
outcome.  A wait of so many milliseconds lasts as `wait` says. -/
structure Timetable (wait : Nat → Nat) (worker : Worker) (config : SchedulerRules) (task : Task)
    (begun ended : Nat → Nat) (outcome : Nat → Except AttemptError Output) : Prop where
  in_time : ∀ j, 1 ≤ j → wait (worker task j).latency ≤ wait config.timeout →
    ended j = begun j + wait (worker task j).latency ∧ outcome j = (worker task j).outcome
  timed_out : ∀ j, 1 ≤ j → wait config.timeout < wait (worker task j).latency →
    ended j = begun j + wait config.timeout ∧ outcome j = .error (.timeout config.timeout)
  pause : ∀ j, 1 ≤ j → begun (j + 1) = ended j
    + wait (min (config.retryBaseDelay * 2 ^ min (j - 1) 16) (2 ^ 64 - 1))

/-- No attempt follows attempt number `j`: it ended well, or it failed for good, or no more attempts
may be made. -/
def IsLast (config : SchedulerRules) (j : Nat) (outcome : Except AttemptError Output) : Prop :=
  (∃ out, outcome = .ok out) ∨ (∃ e, outcome = .error e ∧ e.mayPass = false) ∨
    j = config.retryAttempts + 1

/-- Of the attempts at the task at place `index` the first `k` were made and seen, and `r` is what
was reported. -/
structure Retried (wait : Nat → Nat) (worker : Worker) (config : SchedulerRules) (task : Task)
    (index : Nat) (seen : List Event) (r : Settlement) (k : Nat) (begun ended : Nat → Nat)
    (outcome : Nat → Except AttemptError Output) : Prop where
  timetable : Timetable wait worker config task begun ended outcome
  isLeast : IsLeast {j | 1 ≤ j ∧ IsLast config j (outcome j)} k
  seen_eq : seen = (List.range' 1 k).flatMap fun j =>
    [.began (begun j) index, .ended (ended j) index]
  of_ok : ∀ out, outcome k = .ok out →
    r = .succeeded task out.payload ⟨ended k - begun 1, out.confidence, k⟩
  of_error : ∀ e, outcome k = .error e →
    r = .failed task e.message ⟨ended k - begun 1, none, k⟩

/-! ### What attempts a worker would make -/

section Tried

variable (worker : Worker) (config : SchedulerRules) (task : Task)

/-- Attempt number `j`, within its limit. -/
def tried (j : Nat) : Attempt :=
  (worker task j).within config.timeout

/-- The begin of attempt number `j`, if the first one begins at `start`. -/
def beginsAt (start : Nat) : Nat → Nat
  | 0 | 1 => start
  | j + 2 => beginsAt start (j + 1) + (tried worker config task (j + 1)).latency
    + waitFor (config.backoff (j + 1))

/-- The end of attempt number `j`. -/
def endsAt (start j : Nat) : Nat :=
  beginsAt worker config task start j + (tried worker config task j).latency

/-- The events of the first `k` attempts. -/
def attemptEvents (index start k : Nat) : List Event :=
  (List.range' 1 k).flatMap fun j =>
    [.began (beginsAt worker config task start j) index,
      .ended (endsAt worker config task start j) index]

end Tried

variable {worker : Worker} {config : SchedulerRules} {task : Task}

theorem backoff_eq (j : Nat) :
    config.backoff j = min (config.retryBaseDelay * 2 ^ min (j - 1) 16) (2 ^ 64 - 1) := by
  rw [SchedulerRules.backoff, Nat.shiftLeft_eq]
  rfl

theorem beginsAt_succ {j : Nat} (start : Nat) (hj : 1 ≤ j) :
    beginsAt worker config task start (j + 1)
      = endsAt worker config task start j + waitFor (config.backoff j) := by
  obtain ⟨j, rfl⟩ : ∃ i, j = i + 1 := ⟨j - 1, by omega⟩
  rfl

theorem timetable_tried (start : Nat) : Timetable waitFor worker config task
    (beginsAt worker config task start) (endsAt worker config task start)
    (fun j => (tried worker config task j).outcome) where
  in_time j _ hle := by simp only [endsAt, tried, Attempt.within, hle, if_true, and_self]
  timed_out j _ hlt := by
    simp only [endsAt, tried, Attempt.within, Nat.not_le.2 hlt, if_false, and_self]
  pause j hj := by rw [beginsAt_succ start hj, backoff_eq]

/-- No attempt takes longer than it may. -/
theorem Timetable.ended_le {begun ended : Nat → Nat} {outcome : Nat → Except AttemptError Output}
    (h : Timetable waitFor worker config task begun ended outcome) {j : Nat} (hj : 1 ≤ j) :
    ended j ≤ begun j + config.timeout := by
  have hlimit := waitFor_le config.timeout
  rcases Nat.lt_or_ge (waitFor config.timeout) (waitFor (worker task j).latency) with hlt | hle
  · have := (h.timed_out j hj hlt).1
    omega
  · have := (h.in_time j hj hle).1
    omega

theorem attemptEvents_succ (index start k : Nat) :
    attemptEvents worker config task index start (k + 1)
      = attemptEvents worker config task index start k
        ++ [.began (beginsAt worker config task start (k + 1)) index,
          .ended (endsAt worker config task start (k + 1)) index] := by
  simp only [attemptEvents, List.range'_1_concat, List.flatMap_append, List.flatMap_singleton,
    Nat.add_comm 1 k]

/-! ### Flights -/

/-- A flight stands where the attempts at its task have got to. -/
structure Flight.OnTime (worker : Worker) (config : SchedulerRules) (f : Flight)
    (seen : List Event) : Prop where
  one_le : 1 ≤ f.attempt
  attempt_add_left : f.attempt + f.left = config.retryAttempts + 1
  not_last : ∀ j, 1 ≤ j → j < f.attempt →
    ¬ IsLast config j (tried worker config f.task j).outcome
  phase : match f.phase with
    | .waiting => f.attempt = 1 ∧ seen = []
    | .attempting ends outcome => ends = endsAt worker config f.task f.begun f.attempt ∧
        outcome = (tried worker config f.task f.attempt).outcome ∧
        seen = attemptEvents worker config f.task f.index f.begun (f.attempt - 1)
          ++ [.began (beginsAt worker config f.task f.begun f.attempt) f.index]
    | .resting ends => ends = beginsAt worker config f.task f.begun f.attempt ∧
        seen = attemptEvents worker config f.task f.index f.begun (f.attempt - 1)

/-- The work on a task was done as the worker and the rules have it. -/
def Worked (worker : Worker) (config : SchedulerRules) (task : Task) (index : Nat)
    (seen : List Event) (r : Settlement) : Prop :=
  ∃ k begun ended outcome,
    Retried waitFor worker config task index seen r k begun ended outcome

/-- The work has got to where it should, and so it has if it is over. -/
def Landing.OnTime (worker : Worker) (config : SchedulerRules) (task : Task) (index : Nat)
    (seen : List Event) : Landing → Prop
  | .flying f => f.index = index ∧ f.task = task ∧ f.OnTime worker config seen
  | .landed i r => i = index ∧ Worked worker config task index seen r

/-- The work has got to where it should after the events of this progress. -/
def Progress.OnTime (worker : Worker) (config : SchedulerRules) (task : Task) (index : Nat)
    (seen : List Event) (p : Progress) : Prop :=
  p.landing.OnTime worker config task index (seen ++ p.events)

theorem Progress.OnTime.cons {e : Event} {index : Nat} {seen : List Event} {p : Progress}
    (h : p.OnTime worker config task index (seen ++ [e])) :
    { p with events := e :: p.events : Progress }.OnTime worker config task index seen := by
  unfold OnTime at *
  rwa [List.append_assoc] at h

namespace Flight

variable {f : Flight} {now : Nat} {seen : List Event}

theorem onTime_fresh (index : Nat) (task : Task) :
    (fresh config index task).OnTime worker config [] where
  one_le := Nat.le_refl 1
  attempt_add_left := Nat.add_comm _ _
  not_last _ hj hlt := absurd hlt (Nat.not_lt.2 hj)
  phase := ⟨rfl, rfl⟩

/-- If no attempt follows the one that is made, it is the first such one. -/
theorem OnTime.isLeast (h : f.OnTime worker config seen)
    (hlast : IsLast config f.attempt (tried worker config f.task f.attempt).outcome) :
    IsLeast {j | 1 ≤ j ∧ IsLast config j (tried worker config f.task j).outcome} f.attempt :=
  ⟨⟨h.one_le, hlast⟩, fun j ⟨hj, hj'⟩ => Nat.not_lt.1 fun hlt => h.not_last j hj hlt hj'⟩

/-- The events up to the end of the current attempt. -/
theorem OnTime.seen_ended (h : f.OnTime worker config seen) {outcome : Except AttemptError Output}
    (hf : f.phase = .attempting now outcome) : seen ++ [.ended now f.index]
      = attemptEvents worker config f.task f.index f.begun f.attempt := by
  have hphase := h.phase
  rw [hf] at hphase
  obtain ⟨rfl, -, rfl⟩ := hphase
  obtain ⟨k, hk⟩ : ∃ k, f.attempt = k + 1 := ⟨f.attempt - 1, by have := h.one_le; omega⟩
  rw [hk, Nat.add_sub_cancel, attemptEvents_succ, List.append_assoc]
  rfl

/-- The attempt that is made is the last one, and its outcome is reported. -/
theorem OnTime.worked (h : f.OnTime worker config seen) {outcome : Except AttemptError Output}
    (hf : f.phase = .attempting now outcome) (hlast : IsLast config f.attempt outcome)
    {result : WorkRecord → Settlement} {confidence : Option Float}
    (hok : ∀ out, outcome = .ok out →
      result = .succeeded f.task out.payload ∧ confidence = out.confidence)
    (herror : ∀ e, outcome = .error e → result = .failed f.task e.message ∧ confidence = none) :
    (f.report now result confidence).OnTime worker config f.task f.index seen := by
  have hseen := h.seen_ended hf
  have hphase := h.phase
  rw [hf] at hphase
  obtain ⟨rfl, rfl, -⟩ := hphase
  refine ⟨rfl, f.attempt, _, _, _, timetable_tried f.begun, h.isLeast hlast, hseen, ?_, ?_⟩
  · intro out hout
    obtain ⟨rfl, rfl⟩ := hok out hout
    rfl
  · intro e he
    obtain ⟨rfl, rfl⟩ := herror e he
    rfl

/-- An attempt that failed is not the last one if the failure may pass and more attempts are
allowed. -/
theorem OnTime.not_isLast (h : f.OnTime worker config seen) {e : AttemptError} {left : Nat}
    (hf : f.phase = .attempting now (.error e)) (he : e.mayPass = true)
    (hleft : f.left = left + 1) :
    ¬ IsLast config f.attempt (tried worker config f.task f.attempt).outcome := by
  have hphase := h.phase
  have hcount := h.attempt_add_left
  rw [hf] at hphase
  rw [← hphase.2.1]
  rintro (⟨out, hout⟩ | ⟨e', he', hno⟩ | hlast)
  · cases hout
  · cases he'
    rw [he] at hno
    cases hno
  · omega

/-- The next attempt is due when the pause after it is over. -/
theorem OnTime.retry (h : f.OnTime worker config seen) {e : AttemptError} {left : Nat}
    (hf : f.phase = .attempting now (.error e)) (he : e.mayPass = true)
    (hleft : f.left = left + 1) :
    { f with
      attempt := f.attempt + 1, left
      phase := .resting (now + waitFor (config.backoff f.attempt)) : Flight }.OnTime worker config
        (seen ++ [.ended now f.index]) := by
  have hcount := h.attempt_add_left
  have hphase := h.phase
  rw [hf] at hphase
  refine ⟨Nat.le_add_left 1 _, by simp only; omega, fun j hj hlt => ?_, ?_, h.seen_ended hf⟩
  · rcases Nat.lt_or_eq_of_le (Nat.lt_succ_iff.1 hlt) with hlt | rfl
    · exact h.not_last j hj hlt
    · exact h.not_isLast hf he hleft
  · rw [hphase.1, beginsAt_succ f.begun h.one_le]

/-- An attempt begins when it is due. -/
theorem onTime_launch {cont : Except AttemptError Output → Progress}
    (h : { f with phase := .resting now : Flight }.OnTime worker config seen)
    (hcont : ∀ outcome seen,
      { f with phase := .attempting now outcome : Flight }.OnTime worker config seen →
        (cont outcome).OnTime worker config f.task f.index seen) :
    (launch worker config.timeout now f cont).OnTime worker config f.task f.index seen := by
  obtain ⟨hnow, hseen⟩ := h.phase
  have hbegun : ∀ ends, ends = endsAt worker config f.task f.begun f.attempt →
      { f with
        phase := .attempting ends (tried worker config f.task f.attempt).outcome : Flight }.OnTime
          worker config (seen ++ [.began now f.index]) := fun ends hends =>
    ⟨h.one_le, h.attempt_add_left, h.not_last, hends, rfl, by rw [hseen, hnow]⟩
  unfold launch
  simp only
  split
  · next hzero =>
    -- an attempt that takes no time ends when it begins
    have hends : now = endsAt worker config f.task f.begun f.attempt := by
      rw [endsAt, ← hnow, tried, hzero, Nat.add_zero]
    exact (hcont _ _ (hbegun now hends)).cons
  · exact ⟨rfl, rfl, hbegun _ (by rw [endsAt, ← hnow, tried])⟩

/-- After the end of an attempt there is a result, or another attempt when it is due. -/
theorem onTime_conclude (left attempt : Nat) (outcome : Except AttemptError Output)
    (h : { f with left, attempt, phase := .attempting now outcome : Flight }.OnTime worker config
      seen) :
    (conclude worker config now f left attempt outcome).OnTime worker config f.task f.index
      seen := by
  induction left generalizing attempt outcome seen with
  | zero =>
    cases outcome with
    | ok out => exact h.worked rfl (.inl ⟨out, rfl⟩) (by simp) (by simp)
    | error e =>
      have hlast : attempt = config.retryAttempts + 1 := h.attempt_add_left
      exact h.worked rfl (.inr (.inr hlast)) (by simp) (by simp)
  | succ left ih =>
    cases outcome with
    | ok out => exact h.worked rfl (.inl ⟨out, rfl⟩) (by simp) (by simp)
    | error e =>
      unfold conclude
      split
      · next he =>
        have hnext := h.retry rfl he rfl
        simp only
        split
        · next hzero =>
          rw [hzero, Nat.add_zero] at hnext
          exact (onTime_launch (f := { f with attempt := attempt + 1, left }) hnext
            fun outcome _ h => ih (attempt + 1) outcome h).cons
        · exact ⟨rfl, rfl, hnext⟩
      · next he =>
        exact h.worked rfl (.inr (.inl ⟨e, rfl, by simpa using he⟩)) (by simp) (by simp)

/-- Going on with a flight when it is due keeps it in time. -/
theorem onTime_advance (h : f.OnTime worker config seen) (hdue : f.isDue now = true)
    (hnow : now ≤ f.nextTime now) :
    (advance worker config now f).OnTime worker config f.task f.index seen := by
  unfold advance
  split
  · next ends outcome hf =>
    simp only [isDue, nextTime, hf, decide_eq_true_eq] at hdue hnow
    obtain rfl : ends = now := Nat.le_antisymm hdue hnow
    refine onTime_conclude f.left f.attempt outcome ?_
    rwa [← hf]
  · next ends hf =>
    simp only [isDue, nextTime, hf, decide_eq_true_eq] at hdue hnow
    obtain rfl : ends = now := Nat.le_antisymm hdue hnow
    refine onTime_launch (hf ▸ h) fun outcome seen h => ?_
    exact onTime_conclude f.left f.attempt outcome h
  · next hf =>
    -- the time at which the first attempt begins is the one from which all others count
    have hphase := h.phase
    rw [hf] at hphase
    obtain ⟨hone, rfl⟩ := hphase
    have hbegin : { f with begun := now, phase := .resting now : Flight }.OnTime worker config [] :=
      ⟨h.one_le, h.attempt_add_left, h.not_last, by simp only [hone]; exact ⟨rfl, rfl⟩⟩
    refine onTime_launch (f := { f with begun := now }) hbegin fun outcome seen h => ?_
    exact onTime_conclude f.left f.attempt outcome h

end Flight

end Mockup.Schedule
