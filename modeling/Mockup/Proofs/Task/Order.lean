import Mathlib.Data.List.Nodup
import Mathlib.Data.List.Perm.Subperm
import Mockup.Task.Graph

/-!
# Graphs that pass the check have an order

A list of tasks that `checkGraph` accepts has names that differ and can be put into an order in
which every task comes after all that it depends on.

* `InOrder`: every task of a list comes after all that it depends on;
* `openCount`: the number of dependencies of a task that have not been taken yet;
* `Countdown.Tracks`: a countdown once some tasks were taken and others wait, with
  `Countdown.Tracks.start` and `Countdown.Tracks.take`;
* `Countdown.Tracks.exists_run`: the end of a countdown;
* `Runnable.of_checkGraph`: an accepted list of tasks can be run.
-/

namespace Mockup

/-- Every task of the list comes after all that it depends on. -/
def InOrder (order : List Task) : Prop :=
  ∀ pre t post, order = pre ++ t :: post → ∀ d ∈ t.dependencies, d ∈ pre.map (·.id)

theorem inOrder_nil : InOrder [] := by
  intro pre t post h
  simp at h

theorem InOrder.concat {order : List Task} (h : InOrder order) {t : Task}
    (ht : ∀ d ∈ t.dependencies, d ∈ order.map (·.id)) : InOrder (order ++ [t]) := by
  intro pre u post heq
  rcases List.eq_nil_or_concat post with rfl | ⟨post, v, rfl⟩
  · obtain ⟨rfl, hu⟩ := List.append_inj' heq rfl
    obtain rfl : t = u := by simpa using hu
    exact ht
  · rw [List.concat_eq_append, ← List.cons_append, ← List.append_assoc] at heq
    exact h pre u post (List.append_inj' heq rfl).1

/-- The number of dependencies of a task that have not been taken yet. -/
def openCount (done : List Task) (t : Task) : Nat :=
  t.dependencies.length - done.countP fun u => decide (u.id ∈ t.dependencies)

theorem openCount_nil (t : Task) : openCount [] t = t.dependencies.length := rfl

theorem openCount_concat (done : List Task) (u t : Task) :
    openCount (done ++ [u]) t = openCount done t - (decide (u.id ∈ t.dependencies)).toNat := by
  unfold openCount
  rw [List.countP_append, List.countP_singleton]
  cases decide (u.id ∈ t.dependencies) <;> simp [Nat.sub_sub]

section Taken

variable {done : List Task} (hnodup : (done.map (·.id)).Nodup) (t : Task)
include hnodup

/-- The tasks that were taken and that a task depends on are dependencies of it, each once. -/
theorem taken_subperm :
    ((done.filter fun u => decide (u.id ∈ t.dependencies)).map (·.id)).Subperm t.dependencies := by
  refine List.Nodup.subperm (hnodup.sublist (List.filter_sublist.map _)) ?_
  intro d hd
  obtain ⟨u, hu, rfl⟩ := List.mem_map.1 hd
  simpa using (List.mem_filter.1 hu).2

theorem countP_taken_le :
    (done.countP fun u => decide (u.id ∈ t.dependencies)) ≤ t.dependencies.length := by
  simpa [List.countP_eq_length_filter] using (taken_subperm hnodup t).length_le

/-- A task without open dependencies has had all of them taken. -/
theorem mem_of_openCount_eq_zero (h : openCount done t = 0) :
    ∀ d ∈ t.dependencies, d ∈ done.map (·.id) := by
  intro d hd
  have hlen : t.dependencies.length
      ≤ ((done.filter fun u => decide (u.id ∈ t.dependencies)).map (·.id)).length := by
    rw [List.length_map, ← List.countP_eq_length_filter]
    exact Nat.le_of_sub_eq_zero h
  have hperm := (taken_subperm hnodup t).perm_of_length_le hlen
  exact (List.filter_sublist.map _).subset (hperm.mem_iff.2 hd)

end Taken

namespace Countdown

theorem lower_append {front : List (String × Nat)} {id : String} {n : Nat}
    {rest : List (String × Nat)} (h : id ∉ front.map (·.1)) :
    lower id (front ++ (id, n + 1) :: rest) = some (n, front ++ (id, n) :: rest) := by
  induction front with
  | nil => simp [lower]
  | cons p front ih =>
    obtain ⟨key, m⟩ := p
    simp only [List.map_cons, List.mem_cons, not_or] at h
    simp only [List.cons_append, lower, if_neg (Ne.symm h.1), ih h.2, Option.map_some]

/-- One dependency less for every task with a property: the counts fall by one, and those that are
used up join the queue. -/
theorem foldl_release {p : Task → Bool} {f : Task → Nat} (rest : List Task)
    (front : List (String × Nat)) (c : Countdown)
    (hcounts : c.counts = front ++ rest.map fun t => (t.id, f t))
    (hfront : ∀ t ∈ rest, t.id ∉ front.map (·.1)) (hrest : (rest.map (·.id)).Nodup)
    (hpos : ∀ t ∈ rest, p t = true → 0 < f t) :
    ((rest.filter p).map (·.id)).foldl release c =
      { counts := front ++ rest.map fun t => (t.id, f t - (p t).toNat)
        queue := c.queue ++ (rest.filter fun t => p t && f t == 1).map (·.id)
        taken := c.taken } := by
  induction rest generalizing front c with
  | nil =>
    obtain ⟨counts, queue, taken⟩ := c
    obtain rfl : counts = front := by simpa using hcounts
    simp
  | cons t rest ih =>
    obtain ⟨counts, queue, taken⟩ := c
    have hid : t.id ∉ front.map (·.1) := hfront t List.mem_cons_self
    rw [List.map_cons, List.nodup_cons] at hrest
    have hnext : ∀ n : Nat, ∀ u ∈ rest, u.id ∉ (front ++ [(t.id, n)]).map (·.1) := by
      intro n u hu hmem
      rw [List.map_append, List.mem_append] at hmem
      rcases hmem with hmem | hmem
      · exact hfront u (List.mem_cons_of_mem _ hu) hmem
      · exact hrest.1 (List.mem_map.2 ⟨u, hu, by simpa using hmem⟩)
    have hpos' : ∀ u ∈ rest, p u = true → 0 < f u := fun u hu =>
      hpos u (List.mem_cons_of_mem _ hu)
    simp only at hcounts
    subst hcounts
    cases hp : p t with
    | false =>
      have key := ih (front ++ [(t.id, f t)])
        ⟨front ++ (t.id, f t) :: rest.map (fun t => (t.id, f t)), queue, taken⟩ (by simp)
        (hnext _) hrest.2 hpos'
      simpa [List.filter_cons, hp] using key
    | true =>
      obtain ⟨n, hn⟩ := Nat.exists_eq_succ_of_ne_zero (Nat.ne_of_gt (hpos t List.mem_cons_self hp))
      have hrelease :
          release ⟨front ++ (t.id, f t) :: rest.map (fun t => (t.id, f t)), queue, taken⟩ t.id
            = ⟨front ++ (t.id, n) :: rest.map (fun t => (t.id, f t)),
                if n = 0 then queue ++ [t.id] else queue, taken⟩ := by
        simp only [release, hn, lower_append hid]
      have key := ih (front ++ [(t.id, n)])
        ⟨front ++ (t.id, n) :: rest.map (fun t => (t.id, f t)),
          if n = 0 then queue ++ [t.id] else queue, taken⟩ (by simp) (hnext _) hrest.2 hpos'
      simp only [List.filter_cons, hp, if_true, List.map_cons, List.foldl_cons, hrelease]
      rw [key]
      by_cases hz : n = 0 <;> simp [hn, hz]

/-- The countdown once the tasks `done` were taken and the tasks `waiting` are ready. -/
structure Tracks (tasks done waiting : List Task) (c : Countdown) : Prop where
  counts : c.counts = tasks.map fun t => (t.id, openCount done t)
  queue : c.queue = waiting.map (·.id)
  taken : c.taken = done.length
  nodup : ((done ++ waiting).map (·.id)).Nodup
  mem_iff : ∀ t, t ∈ done ++ waiting ↔ t ∈ tasks ∧ openCount done t = 0
  inOrder : InOrder done

namespace Tracks

variable {tasks done waiting : List Task} {t : Task} {c : Countdown}

theorem start (hnodup : (tasks.map (·.id)).Nodup) :
    Tracks tasks [] (tasks.filter (·.dependencies.isEmpty)) (Countdown.start tasks) where
  counts := by simp only [Countdown.start, openCount_nil]
  queue := rfl
  taken := rfl
  nodup := hnodup.sublist (List.filter_sublist.map _)
  mem_iff := by
    intro t
    simp [openCount_nil]
  inOrder := inOrder_nil

theorem take (hnodup : (tasks.map (·.id)).Nodup) (h : Tracks tasks done (t :: waiting) c) :
    Tracks tasks (done ++ [t])
      (waiting ++ tasks.filter fun u => decide (t.id ∈ u.dependencies) && openCount done u == 1)
      (Countdown.take tasks { c with queue := waiting.map (·.id) } t.id) := by
  have htaken : ((done ++ [t]).map (·.id)).Nodup :=
    h.nodup.sublist ((List.Sublist.append_left (by simp) done).map _)
  have hpos : ∀ u ∈ tasks, decide (t.id ∈ u.dependencies) = true → 0 < openCount done u := by
    intro u _ hu
    have hle := countP_taken_le htaken u
    rw [List.countP_append, List.countP_singleton, if_pos hu] at hle
    exact Nat.sub_pos_of_lt hle
  have hrun := foldl_release (p := fun u => decide (t.id ∈ u.dependencies)) (f := openCount done)
    tasks [] ⟨c.counts, waiting.map (·.id), c.taken + 1⟩ h.counts (by simp) hnodup hpos
  have hmem : ∀ u ∈ tasks, u ∉ done ++ t :: waiting → openCount done u ≠ 0 :=
    fun u hu hnot hz => hnot ((h.mem_iff u).2 ⟨hu, hz⟩)
  unfold Countdown.take
  rw [hrun]
  refine ⟨?_, ?_, ?_, ?_, ?_, ?_⟩
  · simp only [List.nil_append, openCount_concat]
  · simp
  · simp [h.taken]
  · rw [← List.append_assoc, List.append_assoc done, List.singleton_append, List.map_append,
      List.nodup_append]
    refine ⟨h.nodup, hnodup.sublist (List.filter_sublist.map _), ?_⟩
    intro a ha b hb hab
    obtain ⟨u, hu, rfl⟩ := List.mem_map.1 ha
    obtain ⟨v, hv, rfl⟩ := List.mem_map.1 hb
    obtain ⟨hv, hone⟩ := List.mem_filter.1 hv
    obtain ⟨hu, hzero⟩ := (h.mem_iff u).1 hu
    obtain rfl := List.inj_on_of_nodup_map hnodup hu hv hab
    simp [hzero] at hone
  · intro u
    have hiff := h.mem_iff u
    simp only [List.mem_append, List.mem_cons, List.not_mem_nil, or_false, List.mem_filter,
      openCount_concat, Bool.and_eq_true, beq_iff_eq] at hiff ⊢
    constructor
    · rintro ((hu | hu) | hu | ⟨hu, hd, hone⟩)
      · have := hiff.1 (.inl hu); exact ⟨this.1, by omega⟩
      · have := hiff.1 (.inr (.inl hu)); exact ⟨this.1, by omega⟩
      · have := hiff.1 (.inr (.inr hu)); exact ⟨this.1, by omega⟩
      · exact ⟨hu, by simp [hone, hd]⟩
    · rintro ⟨hu, hz⟩
      by_cases hold : openCount done u = 0
      · rcases hiff.2 ⟨hu, hold⟩ with hu | hu | hu
        · exact .inl (.inl hu)
        · exact .inl (.inr hu)
        · exact .inr (.inl hu)
      · refine .inr (.inr ⟨hu, ?_⟩)
        by_cases hd : t.id ∈ u.dependencies
        · simp only [hd, decide_true, Bool.toNat_true] at hz
          exact ⟨by simp [hd], by omega⟩
        · simp [hd] at hz
          exact absurd hz hold
  · refine h.inOrder.concat ?_
    have ht := ((h.mem_iff t).1 (by simp)).2
    exact mem_of_openCount_eq_zero (h.nodup.sublist ((List.sublist_append_left _ _).map _)) t ht

/-- A countdown ends when no task can be taken any more, and answers how many were taken. -/
theorem exists_run (hnodup : (tasks.map (·.id)).Nodup) (h : Tracks tasks done waiting c) :
    ∃ done' c', Tracks tasks done' [] c' ∧ c.run tasks = done'.length := by
  fun_induction Countdown.run tasks c generalizing done waiting with
  | case1 c hq =>
    obtain rfl : waiting = [] := List.map_eq_nil_iff.1 (h.queue.symm.trans hq)
    exact ⟨done, c, h, h.taken⟩
  | case2 c id queue hq ih =>
    obtain ⟨t, waiting', rfl, rfl, rfl⟩ := List.map_eq_cons_iff.1 (h.queue.symm.trans hq)
    exact ih (h.take hnodup)

end Tracks

end Countdown

theorem nodup_of_firstDuplicate {seen ids : List String} (h : firstDuplicate seen ids = none) :
    ids.Nodup ∧ ∀ id ∈ ids, id ∉ seen := by
  induction ids generalizing seen with
  | nil => simp
  | cons id ids ih =>
    unfold firstDuplicate at h
    split at h
    · cases h
    · next hid =>
      obtain ⟨hnodup, hseen⟩ := ih h
      refine ⟨List.nodup_cons.2 ⟨fun hmem => hseen id hmem List.mem_cons_self, hnodup⟩, ?_⟩
      intro id' hmem
      rcases List.mem_cons.1 hmem with rfl | hmem
      · exact hid
      · exact fun hs => hseen id' hmem (List.mem_cons_of_mem _ hs)

theorem mem_of_dependencyFault? {ids : List String} {t : Task}
    (h : dependencyFault? ids t = none) : ∀ d ∈ t.dependencies, d ∈ ids := by
  intro d hd
  have hnone := List.findSome?_eq_none_iff.1 h d hd
  by_contra hnot
  split at hnone
  · cases hnone
  · simp at hnone

/-- The names differ, every dependency is the name of a task, and the tasks can be put into an order
in which each comes after its dependencies. -/
structure Runnable (tasks : List Task) : Prop where
  nodup : (tasks.map (·.id)).Nodup
  known : ∀ t ∈ tasks, ∀ d ∈ t.dependencies, d ∈ tasks.map (·.id)
  ordered : ∃ order : List Task, order.Perm tasks ∧ InOrder order

/-- A list of tasks that passes the check can be run to its end. -/
theorem Runnable.of_checkGraph {tasks : List Task} (h : checkGraph tasks = .ok ()) :
    Runnable tasks := by
  unfold checkGraph at h
  simp only at h
  split at h
  · cases h
  · next hdup =>
    have hnodup := (nodup_of_firstDuplicate hdup).1
    split at h
    · cases h
    · next hfault =>
      split at h
      · next hrun =>
        have hknown := List.findSome?_eq_none_iff.1 hfault
        refine ⟨hnodup, fun t ht => mem_of_dependencyFault? (hknown t ht), ?_⟩
        obtain ⟨order, c, htracks, hlen⟩ := (Countdown.Tracks.start hnodup).exists_run hnodup
        have hsub : order.Subperm tasks := by
          refine List.Nodup.subperm (List.Nodup.of_map _ (by simpa using htracks.nodup)) ?_
          intro t ht
          exact ((htracks.mem_iff t).1 (by simpa using ht)).1
        exact ⟨order, hsub.perm_of_length_le (by omega), htracks.inOrder⟩
      · cases h

end Mockup
