import Mockup.Progress.Tracker

/-!
# Reports of a run

* `Milestone.stage`: the stage that a milestone is reported under;
* `Tracker.reach_of_open`: until the run is over, every milestone leads to one more report;
* `Tracker.Orderly`: percentages rise up to that of the tracker, and never beyond a hundred, with
  `Tracker.Orderly.reach`;
* `Tracker.reach_completed`, `Tracker.reach_failed`: the report with which a run ends.
-/

namespace Mockup

/-- The stage that a milestone is reported under. -/
def Milestone.stage : Milestone → Stage
  | .entered stage _ => stage
  | .settled _ _ => .running
  | .completed _ => .complete
  | .failed _ => .error

namespace Tracker

variable {t : Tracker}

/-- Whatever the tracker gets to, it makes one report of it. -/
theorem reach_eq_report (t : Tracker) (m : Milestone) :
    ∃ percent message error, t.reach m = t.report m.stage percent message error := by
  cases m <;> exact ⟨_, _, _, rfl⟩

/-- Until the run is over every milestone leads to one more report. -/
theorem reach_of_open (h : t.finished = false) (m : Milestone) :
    ∃ r, (t.reach m).history = t.history ++ [r] ∧ r.stage = m.stage ∧
      (t.reach m).finished = m.stage.endsRun := by
  obtain ⟨percent, message, error, heq⟩ := t.reach_eq_report m
  rw [heq]
  refine ⟨{ Report.plain m.stage (max t.percent (min percent 100)) message with error }, ?_, rfl,
    ?_⟩
  · simp [report, h]
  · simp [report, h]

/-- Percentages rise up to that of the tracker, and never beyond a hundred. -/
structure Orderly (t : Tracker) : Prop where
  rising : (t.history.map (·.percent)).Pairwise (· ≤ ·)
  le_percent : ∀ r ∈ t.history, r.percent ≤ t.percent
  percent_last : ∀ r, t.history.getLast? = some r → r.percent = t.percent
  percent_le : t.percent ≤ 100

namespace Orderly

theorem fresh : Orderly {} where
  rising := .nil
  le_percent := by simp
  percent_last := by simp
  percent_le := Nat.zero_le _

theorem report (h : t.Orderly) (stage : Stage) (percent : Nat) (message : String)
    (error : Option String) : (t.report stage percent message error).Orderly := by
  by_cases hover : t.finished = true
  · rw [report_of_finished hover]
    exact h
  · have hle := h.percent_le
    have hmin : min (max t.percent (min percent 100)) 100 = max t.percent (min percent 100) := by
      omega
    simp only [Tracker.report, hover, Bool.false_eq_true, if_false, Report.plain, hmin]
    refine ⟨?_, ?_, ?_, ?_⟩
    · rw [List.map_append, List.pairwise_append]
      refine ⟨h.rising, List.pairwise_singleton _ _, ?_⟩
      intro a ha b hb
      obtain ⟨r, hr, rfl⟩ := List.mem_map.1 ha
      obtain rfl := List.mem_singleton.1 hb
      have hpast := h.le_percent r hr
      show r.percent ≤ max t.percent (min percent 100)
      omega
    · intro r hr
      rcases List.mem_append.1 hr with hr | hr
      · exact Nat.le_trans (h.le_percent r hr) (Nat.le_max_left _ _)
      · obtain rfl := List.mem_singleton.1 hr
        exact Nat.le_refl _
    · intro r hr
      rw [List.getLast?_append, List.getLast?_singleton, Option.some_or] at hr
      cases hr
      rfl
    · show max t.percent (min percent 100) ≤ 100
      omega

theorem reach (h : t.Orderly) (m : Milestone) : (t.reach m).Orderly := by
  obtain ⟨percent, message, error, heq⟩ := t.reach_eq_report m
  rw [heq]
  exact h.report _ _ _ _

end Orderly

/-- A run that ends well is reported at a hundred percent. -/
theorem reach_completed (h : t.Orderly) (hopen : t.finished = false) (message : String) :
    (t.reach (.completed message)).history = t.history ++ [⟨.complete, 100, message, none⟩] := by
  have hmax : max t.percent 100 = 100 := Nat.max_eq_right h.percent_le
  simp [Tracker.reach, Tracker.report, hopen, Report.plain, hmax]

/-- A run that fails is reported where it had got to. -/
theorem reach_failed (h : t.Orderly) (hopen : t.finished = false) (error : String) :
    (t.reach (.failed error)).history
      = t.history ++ [⟨.error, t.percent, "Generation failed: " ++ error, some error⟩] := by
  have hle := h.percent_le
  simp [Tracker.reach, Tracker.report, hopen, Report.plain, hle]

end Tracker

end Mockup
