import Mathlib.Data.List.Nodup
import Mockup.Schedule.Board

/-!
# The spread of skips

`spreadSkips` marks pending tasks and nothing else, each once, and leaves no pending task that
depends on a task which is down.

* `DownAt`, `SettledAt`: the tasks that are down, or settled;
* `getElem?_markSkipped`: the states once tasks were marked;
* `spreadSkips_snd`: the states that result are those with the answered tasks marked;
* `nodup_spreadSkips`, `pending_of_mem_spreadSkips`, `exists_down_of_mem_spreadSkips`: the tasks
  that are answered;
* `blockedTasks_spreadSkips`: afterwards nothing is blocked;
* `spreadSkips_of_blockedTasks_eq_nil`: without blocked tasks nothing is marked.
-/

namespace Mockup.Schedule

variable {table : List (List Nat)} {states : List Standing} {i j : Nat}

/-- A new entry adds to a count what it counts for, less what the old entry counted for. -/
theorem countP_set_add {α : Type} {p : α → Bool} {l : List α} {a b : α} (h : l[i]? = some a) :
    (l.set i b).countP p + (p a).toNat = l.countP p + (p b).toNat := by
  obtain ⟨hi, rfl⟩ := List.getElem?_eq_some_iff.1 h
  have hpos : p l[i] = true → 0 < l.countP p := fun ha =>
    List.countP_pos_iff.2 ⟨l[i], List.getElem_mem hi, ha⟩
  rw [List.countP_set hi]
  cases ha : p l[i] <;> cases p b <;> simp only [ha, forall_const, Bool.toNat_true,
    Bool.toNat_false, if_true, Bool.false_eq_true, if_false] at hpos ⊢ <;> omega

theorem getElem?_set_some {α : Type} {l : List α} {a : α} (h : l[i]? = some a) (b : α) (j : Nat) :
    (l.set i b)[j]? = if i = j then some b else l[j]? := by
  rw [List.getElem?_set, if_pos (List.getElem?_eq_some_iff.1 h).1]

theorem set_getElem?_some {α : Type} {l : List α} {a : α} (h : l[i]? = some a) : l.set i a = l := by
  refine List.ext_getElem? fun j => ?_
  rw [getElem?_set_some h]
  split
  · next hij => rw [← hij, h]
  · rfl

/-! ### Where a task stands -/

/-- The task ended badly, or was skipped. -/
def DownAt (states : List Standing) (i : Nat) : Prop :=
  states[i]? = some .failed ∨ states[i]? = some .skipped

/-- The task has come to its end. -/
def SettledAt (states : List Standing) (i : Nat) : Prop :=
  states[i]? = some .completed ∨ DownAt states i

theorem any_isDown_iff : (states[i]?).any Standing.isDown = true ↔ DownAt states i := by
  unfold DownAt
  cases states[i]? with
  | none => simp
  | some s => cases s <;> simp [Standing.isDown]

theorem any_isSettled_iff : (states[i]?).any Standing.isSettled = true ↔ SettledAt states i := by
  unfold SettledAt DownAt
  cases states[i]? with
  | none => simp
  | some s => cases s <;> simp [Standing.isSettled]

theorem isBlocked_iff : isBlocked table states i = true ↔
    states[i]? = some .pending ∧ ∃ d ∈ table.getD i [], DownAt states d := by
  simp only [isBlocked, Bool.and_eq_true, beq_iff_eq, List.any_eq_true, any_isDown_iff]

theorem mem_blockedTasks_iff : i ∈ blockedTasks table states ↔
    states[i]? = some .pending ∧ ∃ d ∈ table.getD i [], DownAt states d := by
  simp only [blockedTasks, List.mem_filter, List.mem_range, isBlocked_iff, and_iff_right_iff_imp]
  rintro ⟨hi, -⟩
  exact (List.getElem?_eq_some_iff.1 hi).1

theorem nodup_blockedTasks : (blockedTasks table states).Nodup :=
  List.nodup_range.filter _

/-! ### Marking -/

theorem getElem?_foldl_set (s : Standing) (states : List Standing) (is : List Nat) (j : Nat) :
    (is.foldl (fun states i => states.set i s) states)[j]?
      = (states[j]?).map fun s' => if j ∈ is then s else s' := by
  induction is generalizing states with
  | nil => simp
  | cons i is ih =>
    rw [List.foldl_cons, ih, List.getElem?_set]
    by_cases hij : i = j
    · subst hij
      by_cases hi : i < states.length
      · simp [hi]
      · simp [Nat.le_of_not_lt hi]
    · simp [hij, Ne.symm hij]

/-- A state other than the new one is an old one, of a task that was left alone. -/
theorem getElem?_foldl_set_of_ne {s s' : Standing} (hne : s ≠ s') {states : List Standing}
    {is : List Nat} {j : Nat} : (is.foldl (fun states i => states.set i s) states)[j]? = some s' ↔
      states[j]? = some s' ∧ j ∉ is := by
  rw [getElem?_foldl_set]
  by_cases hj : j ∈ is <;> simp [hj, hne]

theorem getElem?_markSkipped (states : List Standing) (is : List Nat) (j : Nat) :
    (markSkipped states is)[j]? = (states[j]?).map fun s => if j ∈ is then .skipped else s :=
  getElem?_foldl_set .skipped states is j

@[simp] theorem length_markSkipped (states : List Standing) (is : List Nat) :
    (markSkipped states is).length = states.length := by
  induction is generalizing states with
  | nil => rfl
  | cons i is ih => exact (ih (states.set i .skipped)).trans List.length_set

theorem pending_markSkipped_iff {is : List Nat} :
    (markSkipped states is)[j]? = some .pending ↔ states[j]? = some .pending ∧ j ∉ is :=
  getElem?_foldl_set_of_ne (by decide)

theorem markSkipped_append (states : List Standing) (is js : List Nat) :
    markSkipped states (is ++ js) = markSkipped (markSkipped states is) js :=
  List.foldl_append

theorem countP_markSkipped {is : List Nat} (hnodup : is.Nodup)
    (hp : ∀ i ∈ is, states[i]? = some .pending) :
    (markSkipped states is).countP Standing.isSettled
      = states.countP Standing.isSettled + is.length := by
  induction is generalizing states with
  | nil => rfl
  | cons i is ih =>
    obtain ⟨hi, hnodup⟩ := List.nodup_cons.1 hnodup
    have hset := countP_set_add (p := Standing.isSettled) (b := .skipped) (hp i List.mem_cons_self)
    have hrest : ∀ j ∈ is, (states.set i .skipped)[j]? = some .pending := by
      intro j hj
      have hne : i ≠ j := fun h => hi (h ▸ hj)
      rw [List.getElem?_set_ne hne]
      exact hp j (List.mem_cons_of_mem _ hj)
    have hstep := ih hnodup hrest
    simp only [Standing.isSettled, Bool.toNat_true, Bool.toNat_false] at hset
    rw [List.length_cons]
    exact hstep.trans (by omega)

/-- A task that is down stays down when tasks are marked. -/
theorem DownAt.markSkipped (h : DownAt states j) (is : List Nat) :
    DownAt (markSkipped states is) j := by
  unfold DownAt at *
  rw [getElem?_markSkipped]
  by_cases hj : j ∈ is
  · rcases h with h | h <;> simp [h, hj]
  · rcases h with h | h <;> simp [h, hj]

/-! ### Spreading -/

theorem spreadSkips_of_blockedTasks_eq_nil (h : blockedTasks table states = []) :
    spreadSkips table states = ([], states) := by
  rw [spreadSkips]
  split
  · rfl
  · next heq => rw [h] at heq; cases heq

theorem spreadSkips_snd (table : List (List Nat)) (states : List Standing) :
    (spreadSkips table states).2 = markSkipped states (spreadSkips table states).1 := by
  fun_induction spreadSkips table states with
  | case1 => rfl
  | case2 states i is h next ih => rw [ih, ← markSkipped_append]

theorem blockedTasks_spreadSkips (table : List (List Nat)) (states : List Standing) :
    blockedTasks table (spreadSkips table states).2 = [] := by
  fun_induction spreadSkips table states with
  | case1 states h => exact h
  | case2 states i is h next ih => exact ih

theorem pending_of_mem_spreadSkips (h : j ∈ (spreadSkips table states).1) :
    states[j]? = some .pending := by
  fun_induction spreadSkips table states with
  | case1 => simp at h
  | case2 states i is hb next ih =>
    rcases List.mem_append.1 h with h | h
    · exact (mem_blockedTasks_iff.1 (hb ▸ h)).1
    · exact (pending_markSkipped_iff.1 (ih h)).1

theorem nodup_spreadSkips (table : List (List Nat)) (states : List Standing) :
    (spreadSkips table states).1.Nodup := by
  fun_induction spreadSkips table states with
  | case1 => exact List.nodup_nil
  | case2 states i is hb next ih =>
    refine List.nodup_append.2 ⟨hb ▸ nodup_blockedTasks, ih, ?_⟩
    -- what was marked is not pending any more
    rintro a ha b hb rfl
    exact (pending_markSkipped_iff.1 (pending_of_mem_spreadSkips hb)).2 ha

/-- Every task that is answered depends on one that is down in the end. -/
theorem exists_down_of_mem_spreadSkips (h : j ∈ (spreadSkips table states).1) :
    ∃ d ∈ table.getD j [], DownAt (spreadSkips table states).2 d := by
  fun_induction spreadSkips table states with
  | case1 => simp at h
  | case2 states i is hb next ih =>
    rcases List.mem_append.1 h with h | h
    · obtain ⟨d, hd, hdown⟩ := (mem_blockedTasks_iff.1 (hb ▸ h)).2
      refine ⟨d, hd, ?_⟩
      have := (hdown.markSkipped (i :: is)).markSkipped next.1
      rwa [← spreadSkips_snd] at this
    · exact ih h

end Mockup.Schedule
