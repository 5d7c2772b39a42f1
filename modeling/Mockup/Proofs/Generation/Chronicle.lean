import Mockup.Proofs.Generation.Session

/-!
# The reports of a tracker under any calls

A tracker may be called in any order: stages may be entered again or out of turn, tasks may be said
to settle at any time, and the run may be said to end more than once.  Its reports are in
order for every such list of calls.

* `Tracker.Closes`: only the last report may say that the run is over, and the tracker knows whether
  it does, with `Tracker.Closes.reach`;
* `runningPercent_eq`: the percentage of tasks that have settled, without the bounds on numbers;
* `Session.follow`, `Session.Chronicle`: the events of a tracker's calls, and their order;
* `Session.reports_in_order`: the events of all calls are in that order.
-/

namespace Mockup

namespace Tracker

variable {t : Tracker}

/-! ### The end of a run -/

/-- Only the last report may say that the run is over, and it does just if the tracker says so. -/
structure Closes (t : Tracker) : Prop where
  open_before : ∀ r ∈ t.history.dropLast, r.stage.endsRun = false
  finished_iff : t.finished = true ↔ ∃ r ∈ t.history.getLast?, r.stage.endsRun = true

namespace Closes

theorem fresh : Closes {} := by
  constructor <;> simp

/-- Before the last report nothing ends the run. -/
theorem mem_cases (h : t.Closes) {r : Report} (hr : r ∈ t.history) :
    r.stage.endsRun = false ∨ t.history.getLast? = some r := by
  obtain ⟨last, hlast⟩ : ∃ last, t.history.getLast? = some last := by
    cases hlast : t.history.getLast? with
    | none => rw [List.getLast?_eq_none_iff.1 hlast] at hr; cases hr
    | some last => exact ⟨last, rfl⟩
  rw [← List.dropLast_append_getLast? last hlast] at hr
  rcases List.mem_append.1 hr with hr | hr
  · exact .inl (h.open_before r hr)
  · obtain rfl := List.mem_singleton.1 hr
    exact .inr hlast

theorem endsRun_eq (h : t.Closes) (hopen : t.finished = false) :
    ∀ r ∈ t.history, r.stage.endsRun = false := by
  intro r hr
  rcases h.mem_cases hr with hbefore | hlast
  · exact hbefore
  · refine Bool.eq_false_iff.2 fun hends => ?_
    have hover := h.finished_iff.2 ⟨r, hlast, hends⟩
    rw [hopen] at hover
    cases hover

theorem reach (h : t.Closes) (m : Milestone) : (t.reach m).Closes := by
  by_cases hover : t.finished = true
  · rw [reach_of_finished hover]
    exact h
  · have hopen : t.finished = false := by simpa using hover
    obtain ⟨r, hhistory, hstage, hfinished⟩ := reach_of_open hopen m
    constructor
    · rw [hhistory, List.dropLast_concat]
      exact h.endsRun_eq hopen
    · rw [hhistory, hfinished, List.getLast?_concat, ← hstage]
      simp

/-- At most one report ends the run. -/
theorem countP_le (h : t.Closes) : t.history.countP (·.stage.endsRun) ≤ 1 := by
  cases hlast : t.history.getLast? with
  | none => simp [List.getLast?_eq_none_iff.1 hlast]
  | some last =>
    have hbefore : t.history.dropLast.countP (·.stage.endsRun) = 0 := by
      rw [List.countP_eq_zero]
      intro r hr
      simp [h.open_before r hr]
    rw [← List.dropLast_append_getLast? last hlast, List.countP_append, hbefore, Nat.zero_add]
    exact List.countP_le_length

end Closes

end Tracker

/-! ### Tasks that settle -/

/-- The percentage once so many tasks of all have settled: from 35 to 85, as the part of them. -/
def settledPercent (settled total : Nat) : Nat :=
  if total = 0 then 85 else 35 + 50 * min settled total / total

section Settled

variable {settled settled' total : Nat}

theorem share_le (settled total : Nat) : 50 * min settled total / total ≤ 50 := by
  have hmin : min settled total ≤ total := Nat.min_le_right _ _
  exact Nat.div_le_of_le_mul (by rw [Nat.mul_comm total]; exact Nat.mul_le_mul_left 50 hmin)

/-- Only when all tasks have settled is their share full. -/
theorem share_eq_iff (settled : Nat) (htotal : total ≠ 0) :
    50 * min settled total / total = 50 ↔ total ≤ settled := by
  have hpos : 0 < total := Nat.pos_of_ne_zero htotal
  constructor
  · intro hfull
    by_contra hlt
    have hshare : 50 * min settled total / total < 50 := by
      rw [Nat.div_lt_iff_lt_mul hpos]
      omega
    omega
  · intro hle
    rw [Nat.min_eq_right hle, Nat.mul_div_cancel _ hpos]

theorem settledPercent_le (settled total : Nat) : settledPercent settled total ≤ 85 := by
  unfold settledPercent
  by_cases htotal : total = 0
  · simp [htotal]
  · have hshare := share_le settled total
    simp only [htotal, if_false]
    omega

theorem settledPercent_mono (h : settled ≤ settled') (total : Nat) :
    settledPercent settled total ≤ settledPercent settled' total := by
  unfold settledPercent
  by_cases htotal : total = 0
  · simp [htotal]
  · have hmin : min settled total ≤ min settled' total := by omega
    simp only [htotal, if_false]
    exact Nat.add_le_add_left (Nat.div_le_div_right (Nat.mul_le_mul_left 50 hmin)) 35

theorem settledPercent_eq_iff (settled total : Nat) :
    settledPercent settled total = 85 ↔ total ≤ settled := by
  unfold settledPercent
  by_cases htotal : total = 0
  · simp [htotal]
  · have hiff := share_eq_iff settled htotal
    simp only [htotal, if_false]
    omega

/-- The arithmetic in 32 and in 8 bits loses nothing. -/
theorem runningPercent_eq (htotal : 50 * total < UInt32.size) (settled : Nat) :
    runningPercent settled total = settledPercent settled total := by
  unfold runningPercent runningShare settledPercent Stage.percent
  by_cases hzero : total = 0
  · simp [hzero, UInt8.size]
  · have hmul : 50 * min settled total % UInt32.size = 50 * min settled total :=
      Nat.mod_eq_of_lt (by omega)
    have hmod : total % UInt32.size = total := Nat.mod_eq_of_lt (by omega)
    have hshare := share_le settled total
    simp only [hzero, if_false, hmul, hmod, UInt8.size]
    generalize 50 * min settled total / total = share at hshare ⊢
    omega

theorem Tracker.percent_reach_settled {t : Tracker} (hopen : t.finished = false)
    (htotal : 50 * total < UInt32.size) (settled : Nat) :
    (t.reach (.settled settled total)).percent = max t.percent (settledPercent settled total) := by
  have hle := settledPercent_le settled total
  have hmin : min (settledPercent settled total) 100 = settledPercent settled total := by omega
  simp only [reach, report, hopen, Bool.false_eq_true, if_false, runningPercent_eq htotal, hmin]

end Settled

/-! ### What listeners hear -/

namespace Session

/-- The session after the tracker has been called for these milestones, one after the other. -/
def follow (s : Session) (ms : List Milestone) : Session :=
  ms.foldl (fun s m => s.tell (.milestone m)) s

/-- Listeners hear the reports of a tracker and nothing else.  Percentages rise up to a hundred at
most, one report at most ends the run, and nothing follows it. -/
structure Chronicle (s : Session) : Prop where
  heard : s.events = s.tracker.history.map .progress
  rising : (s.tracker.history.map (·.percent)).Pairwise (· ≤ ·)
  percent_le : ∀ r ∈ s.tracker.history, r.percent ≤ 100
  ends_once : s.tracker.history.countP (·.stage.endsRun) ≤ 1
  ends_last : ∀ r ∈ s.tracker.history, r.stage.endsRun = true →
    s.tracker.history.getLast? = some r
  closed : (∃ r ∈ s.tracker.history, r.stage.endsRun = true) → ∀ later, s.follow later = s

/-- The invariant of a session while its tracker is called. -/
structure Kept (s : Session) : Prop where
  heard : s.events = s.tracker.history.map .progress
  orderly : s.tracker.Orderly
  closes : s.tracker.Closes

theorem tell_of_finished {s : Session} (h : s.tracker.finished = true) (m : Milestone) :
    s.tell (.milestone m) = s := by
  simp [tell, Tracker.reach_of_finished h]

theorem follow_of_finished {s : Session} (h : s.tracker.finished = true) (ms : List Milestone) :
    s.follow ms = s := by
  induction ms with
  | nil => rfl
  | cons m ms ih =>
    rw [follow, List.foldl_cons, tell_of_finished h]
    exact ih

theorem tracker_follow (s : Session) (ms : List Milestone) :
    (s.follow ms).tracker = s.tracker.reachAll ms := by
  induction ms generalizing s with
  | nil => rfl
  | cons m ms ih => exact ih (s.tell (.milestone m))

namespace Kept

theorem fresh : Kept {} := ⟨rfl, .fresh, .fresh⟩

theorem tell {s : Session} (h : s.Kept) (m : Milestone) : (s.tell (.milestone m)).Kept := by
  refine ⟨?_, h.orderly.reach m, h.closes.reach m⟩
  by_cases hover : s.tracker.finished = true
  · rw [tell_of_finished hover]
    exact h.heard
  · obtain ⟨r, hhistory, -⟩ := Tracker.reach_of_open (by simpa using hover) m
    simp only [Session.tell, hhistory, List.drop_left, List.map_append, h.heard]

theorem follow {s : Session} (h : s.Kept) (ms : List Milestone) : (s.follow ms).Kept := by
  induction ms generalizing s with
  | nil => exact h
  | cons m ms ih => exact ih (h.tell m)

theorem chronicle {s : Session} (h : s.Kept) : s.Chronicle where
  heard := h.heard
  rising := h.orderly.rising
  percent_le := fun r hr => Nat.le_trans (h.orderly.le_percent r hr) h.orderly.percent_le
  ends_once := h.closes.countP_le
  ends_last := fun r hr hends =>
    (h.closes.mem_cases hr).resolve_left (by simp [hends])
  closed := by
    rintro ⟨r, hr, hends⟩ later
    have hlast := (h.closes.mem_cases hr).resolve_left (by simp [hends])
    exact follow_of_finished (h.closes.finished_iff.2 ⟨r, hlast, hends⟩) later

end Kept

/-- Whatever a tracker is called for, in whatever order, its reports are in order, and listeners
hear them.  While the run is not over, a call for tasks that settle takes the percentage to that of
their part, unless it is there or beyond; so it rises with the tasks that have settled, and gets to
85 when all of them have. -/
theorem reports_in_order :
    (∀ ms : List Milestone, (follow {} ms).tracker = Tracker.reachAll {} ms ∧
      (follow {} ms).Chronicle) ∧
    ∀ (t : Tracker) (total : Nat), t.finished = false → 50 * total < UInt32.size →
      (∀ settled, (t.reach (.settled settled total)).percent
        = max t.percent (if total = 0 then 85 else 35 + 50 * min settled total / total)) ∧
      (∀ settled settled', settled ≤ settled' → (t.reach (.settled settled total)).percent
        ≤ (t.reach (.settled settled' total)).percent) ∧
      (t.percent ≤ 35 → ∀ settled,
        (t.reach (.settled settled total)).percent = 85 ↔ total ≤ settled) := by
  refine ⟨fun ms => ⟨tracker_follow {} ms, (Kept.fresh.follow ms).chronicle⟩, ?_⟩
  intro t total hopen htotal
  have hpercent := fun settled => Tracker.percent_reach_settled hopen htotal settled
  refine ⟨hpercent, fun settled settled' hle => ?_, fun hstart settled => ?_⟩
  · have hmono := settledPercent_mono hle total
    rw [hpercent, hpercent]
    omega
  · have hle := settledPercent_le settled total
    rw [hpercent, ← settledPercent_eq_iff settled total]
    omega

/-- Calls out of order: the end of the run is reported before its last calls. -/
theorem reports_in_order_failed :
    let ms : List Milestone := [.entered .running "run", .entered .reading "late", .settled 1 3,
      .settled 0 3, .failed "boom", .completed "done", .settled 3 3]
    (Tracker.reachAll {} ms).history.map (fun r => (r.stage, r.percent))
      = [(.running, 35), (.reading, 35), (.running, 51), (.running, 51), (.error, 51)] ∧
    (follow {} ms).Chronicle ∧
    ((⟨35, false, []⟩ : Tracker).reach (.settled 1 3)).percent = 51 ∧
    (((⟨35, false, []⟩ : Tracker).reach (.settled 3 3)).percent = 85 ↔ 3 ≤ 3) := by
  obtain ⟨hmax, -, hfull⟩ := reports_in_order.2 ⟨35, false, []⟩ 3 rfl (by decide)
  exact ⟨by decide +kernel, (reports_in_order.1 _).2, hmax 1, hfull (Nat.le_refl 35) 3⟩

end Session

end Mockup
