import Mathlib.Data.List.Induction
import Mathlib.Data.List.Perm.Basic
import Mockup.Proofs.Task.Order

/-!
# The verdict on a graph of tasks

`checkGraph` accepts exactly the lists of tasks that can be run to their end.

* `InOrder.subset_taken`: a countdown takes all tasks that stand in an order;
* `checkGraph_of_runnable`: a list of tasks that can be run to its end passes the check;
* `Countdown.Moment`: the moments of a countdown, whatever the order in which its queue was
  seeded, with `Countdown.Moment.exists_end` (where it ends) and `Countdown.Moment.lookup_counts`
  (a count that is to be lowered is not zero);
* `checkGraph_verdict`: the verdict, which depends on no order.

The dependencies of a task are a set: that no name stands twice among them is a hypothesis wherever
it matters.
-/

namespace Mockup

/-- Nothing is open of a task all of whose dependencies were taken. -/
theorem openCount_eq_zero {done : List Task} {t : Task} (hset : t.dependencies.Nodup)
    (h : ∀ d ∈ t.dependencies, d ∈ done.map (·.id)) : openCount done t = 0 := by
  have hsub : t.dependencies.Subperm
      ((done.filter fun u => decide (u.id ∈ t.dependencies)).map (·.id)) := by
    refine hset.subperm fun d hd => ?_
    obtain ⟨u, hu, rfl⟩ := List.mem_map.1 (h d hd)
    exact List.mem_map.2 ⟨u, List.mem_filter.2 ⟨hu, by simpa using hd⟩, rfl⟩
  have hle := hsub.length_le
  rw [List.length_map, ← List.countP_eq_length_filter] at hle
  exact Nat.sub_eq_zero_of_le hle

section Final

variable {tasks done : List Task} {c : Countdown} (hsets : ∀ t ∈ tasks, t.dependencies.Nodup)
include hsets

/-- A countdown that has come to its end has taken all tasks that stand in an order. -/
theorem InOrder.subset_taken (htracks : Countdown.Tracks tasks done [] c) {order : List Task}
    (horder : InOrder order) (hsub : order ⊆ tasks) : order ⊆ done := by
  -- The first `n` tasks of the order were taken, for every `n`.
  have hprefix : ∀ pre post, order = pre ++ post → pre ⊆ done := by
    intro pre
    induction pre using List.reverseRecOn with
    | nil => simp
    | append_singleton pre t ih =>
      intro post heq
      rw [List.append_assoc, List.singleton_append] at heq
      have hpre : pre ⊆ done := ih _ heq
      have ht : t ∈ tasks := hsub (by simp [heq])
      have hopen : openCount done t = 0 :=
        openCount_eq_zero (hsets t ht) fun d hd =>
          List.map_subset _ hpre (horder pre t post heq d hd)
      have htaken : t ∈ done := by simpa using (htracks.mem_iff t).2 ⟨ht, hopen⟩
      simpa using ⟨hpre, htaken⟩
  exact hprefix order [] (by simp)

/-- However a countdown comes to its end, it takes the same number of tasks. -/
theorem Countdown.Tracks.length_eq {done' : List Task} {c' : Countdown}
    (h : Tracks tasks done [] c) (h' : Tracks tasks done' [] c') : done.length = done'.length := by
  have hle : ∀ {a b : List Task} {ca cb : Countdown}, Tracks tasks a [] ca → Tracks tasks b [] cb →
      a.length ≤ b.length := by
    intro a b ca cb ha hb
    have hsub : a ⊆ tasks := fun t ht => ((ha.mem_iff t).1 (by simpa using ht)).1
    have hnodup : a.Nodup := List.Nodup.of_map _ (by simpa using ha.nodup)
    exact (hnodup.subperm (ha.inOrder.subset_taken hsets hb hsub)).length_le
  exact Nat.le_antisymm (hle h h') (hle h' h)

end Final

/-! ### Lists of tasks that can be run -/

theorem firstDuplicate_eq_none {seen ids : List String} (hnodup : ids.Nodup)
    (hseen : ∀ id ∈ ids, id ∉ seen) : firstDuplicate seen ids = none := by
  induction ids generalizing seen with
  | nil => rfl
  | cons id ids ih =>
    obtain ⟨hid, hnodup⟩ := List.nodup_cons.1 hnodup
    rw [firstDuplicate, if_neg (hseen id List.mem_cons_self)]
    refine ih hnodup fun id' hid' hmem => ?_
    rcases List.mem_cons.1 hmem with rfl | hmem
    · exact hid hid'
    · exact hseen id' (List.mem_cons_of_mem _ hid') hmem

namespace Runnable

variable {tasks : List Task}

/-- No task depends on itself: that would be a circle. -/
theorem not_mem_dependencies (h : Runnable tasks) {t : Task} (ht : t ∈ tasks) :
    t.id ∉ t.dependencies := by
  intro hself
  obtain ⟨order, hperm, horder⟩ := h.ordered
  obtain ⟨pre, post, rfl⟩ := List.append_of_mem (hperm.mem_iff.2 ht)
  have hnodup : ((pre ++ t :: post).map (·.id)).Nodup := (hperm.map _).nodup_iff.2 h.nodup
  rw [List.map_append, List.nodup_append] at hnodup
  exact hnodup.2.2 t.id (horder pre t post rfl _ hself) t.id (by simp) rfl

theorem dependencyFault?_eq_none (h : Runnable tasks) {t : Task} (ht : t ∈ tasks) :
    dependencyFault? (tasks.map (·.id)) t = none := by
  refine List.findSome?_eq_none_iff.2 fun d hd => ?_
  have hne : d ≠ t.id := fun heq => h.not_mem_dependencies ht (heq ▸ hd)
  rw [if_neg hne, if_neg (not_not.2 (h.known t ht d hd))]

theorem of_perm {tasks' : List Task} (h : Runnable tasks) (hperm : tasks'.Perm tasks) :
    Runnable tasks' where
  nodup := (hperm.map _).nodup_iff.2 h.nodup
  known t ht d hd := (hperm.map _).mem_iff.2 (h.known t (hperm.mem_iff.1 ht) d hd)
  ordered := by
    obtain ⟨order, horder, hin⟩ := h.ordered
    exact ⟨order, horder.trans hperm.symm, hin⟩

end Runnable

/-- A list of tasks that can be run to its end passes the check. -/
theorem checkGraph_of_runnable {tasks : List Task} (hsets : ∀ t ∈ tasks, t.dependencies.Nodup)
    (h : Runnable tasks) : checkGraph tasks = .ok () := by
  have hdup : firstDuplicate [] (tasks.map (·.id)) = none :=
    firstDuplicate_eq_none h.nodup (by simp)
  have hfault : tasks.findSome? (dependencyFault? (tasks.map (·.id))) = none :=
    List.findSome?_eq_none_iff.2 fun t ht => h.dependencyFault?_eq_none ht
  obtain ⟨order, hperm, horder⟩ := h.ordered
  obtain ⟨done, c, htracks, hrun⟩ := (Countdown.Tracks.start h.nodup).exists_run h.nodup
  have hsub : done ⊆ tasks := fun t ht => ((htracks.mem_iff t).1 (by simpa using ht)).1
  have hdone : done.Nodup := List.Nodup.of_map _ (by simpa using htracks.nodup)
  have horder' : order ⊆ done := horder.subset_taken hsets htracks fun t ht => hperm.mem_iff.1 ht
  have hnodup : order.Nodup := List.Nodup.of_map _ ((hperm.map _).nodup_iff.2 h.nodup)
  have hlen : done.length = tasks.length :=
    Nat.le_antisymm (hdone.subperm hsub).length_le
      (hperm.length_eq ▸ (hnodup.subperm horder').length_le)
  simp only [checkGraph, hdup, hfault, hrun, hlen, if_true]

/-! ### What a countdown goes through -/

namespace Countdown

/-- The tasks that depend on a task, in the order in which their counts are lowered. -/
def dependents (tasks : List Task) (id : String) : List String :=
  (tasks.filter (id ∈ ·.dependencies)).map (·.id)

/-- A moment of a countdown whose queue was seeded in any order: how it stands, and which tasks
still have their counts to be lowered because of the task taken last. -/
inductive Moment (tasks : List Task) : Countdown → List String → Prop
  | start {seed : List String} (hseed : seed.Perm (start tasks).queue) :
    Moment tasks { start tasks with queue := seed } []
  | take {c : Countdown} {id : String} {queue : List String} (h : Moment tasks c [])
    (hqueue : c.queue = id :: queue) :
    Moment tasks { c with queue := queue, taken := c.taken + 1 } (dependents tasks id)
  | release {c : Countdown} {id : String} {ids : List String} (h : Moment tasks c (id :: ids)) :
    Moment tasks (c.release id) ids

variable {tasks : List Task} {c : Countdown}

theorem lookup_lower {id id' : String} (hne : id' ≠ id) {counts counts' : List (String × Nat)}
    {n : Nat} (h : lower id counts = some (n, counts')) :
    counts'.lookup id' = counts.lookup id' := by
  induction counts generalizing counts' n with
  | nil => simp [lower] at h
  | cons p rest ih =>
    obtain ⟨key, m⟩ := p
    unfold lower at h
    split at h
    · next hkey =>
      have hkey' : (id' == key) = false := by simpa [hkey] using hne
      cases m with
      | zero => cases h
      | succ m => cases h; simp only [List.lookup_cons, hkey']
    · obtain ⟨⟨m', rest'⟩, hl, he⟩ := Option.map_eq_some_iff.1 h
      cases he
      simp only [List.lookup_cons, ih hl]

/-- Lowering the counts of some tasks leaves the other counts alone. -/
theorem lookup_foldl_release {ids : List String} {id : String} (hid : id ∉ ids) :
    (ids.foldl release c).counts.lookup id = c.counts.lookup id := by
  induction ids generalizing c with
  | nil => rfl
  | cons next ids ih =>
    rw [List.mem_cons, not_or] at hid
    rw [List.foldl_cons, ih hid.2]
    unfold release
    split
    · rfl
    · next hlower => exact lookup_lower hid.1 hlower

theorem lookup_counts_of_mem {f : Task → Nat} (hnodup : (tasks.map (·.id)).Nodup) {t : Task}
    (ht : t ∈ tasks) : (tasks.map fun t => (t.id, f t)).lookup t.id = some (f t) := by
  induction tasks with
  | nil => cases ht
  | cons u tasks ih =>
    rw [List.map_cons, List.nodup_cons] at hnodup
    rcases List.mem_cons.1 ht with rfl | ht
    · simp
    · have hne : (t.id == u.id) = false := by
        simpa using fun heq => hnodup.1 (List.mem_map.2 ⟨t, ht, heq⟩)
      simp only [List.map_cons, List.lookup_cons, hne]
      exact ih hnodup.2 ht

namespace Tracks

variable {done waiting : List Task} {t : Task}

/-- A countdown may be seeded in any order. -/
theorem seeded (hnodup : (tasks.map (·.id)).Nodup) {seed : List String}
    (hseed : seed.Perm (Countdown.start tasks).queue) :
    ∃ waiting, Tracks tasks [] waiting { Countdown.start tasks with queue := seed } := by
  have h := Tracks.start hnodup
  rw [h.queue] at hseed
  obtain ⟨waiting, rfl, hperm⟩ :=
    Eq.mpr (congrFun₂ (List.eq_map_comp_perm fun t : Task => t.id) seed _) hseed
  refine ⟨waiting, h.counts, rfl, h.taken, ?_, ?_, h.inOrder⟩
  · exact (hperm.map _).nodup_iff.2 h.nodup
  · exact fun t => by simpa [hperm.mem_iff] using h.mem_iff t

/-- The tasks that depend on a task have open dependencies when it is taken. -/
theorem openCount_pos (h : Tracks tasks done (t :: waiting) c) {u : Task}
    (hu : t.id ∈ u.dependencies) : 0 < openCount done u := by
  have htaken : ((done ++ [t]).map (·.id)).Nodup :=
    h.nodup.sublist ((List.Sublist.append_left (by simp) done).map _)
  have hle := countP_taken_le htaken u
  rw [List.countP_append, List.countP_singleton, if_pos (by simpa using hu)] at hle
  exact Nat.sub_pos_of_lt hle

end Tracks

/-- A countdown stands between two tasks, or a task was just taken and the counts of some of its
dependents were lowered. -/
theorem Moment.tracks (hnodup : (tasks.map (·.id)).Nodup) {ids : List String}
    (h : Moment tasks c ids) :
    (ids = [] → ∃ done waiting, Tracks tasks done waiting c) ∧
    (ids ≠ [] → ∃ done t waiting c₀ released, Tracks tasks done (t :: waiting) c₀ ∧
      dependents tasks t.id = released ++ ids ∧
      c = released.foldl Countdown.release
        { c₀ with queue := waiting.map (·.id), taken := c₀.taken + 1 }) := by
  induction h with
  | start hseed => exact ⟨fun _ => ⟨[], Tracks.seeded hnodup hseed⟩, fun hne => absurd rfl hne⟩
  | @take c id queue _ hqueue ih =>
    obtain ⟨done, waiting, htracks⟩ := ih.1 rfl
    obtain ⟨t, waiting, rfl, rfl, rfl⟩ := List.map_eq_cons_iff.1 (htracks.queue.symm.trans hqueue)
    refine ⟨fun hids => ?_, fun _ => ⟨done, t, waiting, c, [], htracks, rfl, rfl⟩⟩
    have hnext := htracks.take hnodup
    rw [Countdown.take, show (tasks.filter (t.id ∈ ·.dependencies)).map (·.id) = [] from hids]
      at hnext
    exact ⟨_, _, hnext⟩
  | @release c id ids _ ih =>
    obtain ⟨done, t, waiting, c₀, released, htracks, hsplit, rfl⟩ := ih.2 (by simp)
    refine ⟨fun hids => ?_, fun _ => ⟨done, t, waiting, c₀, released ++ [id], htracks, ?_, ?_⟩⟩
    · subst hids
      have hnext := htracks.take hnodup
      rw [Countdown.take,
        show (tasks.filter (t.id ∈ ·.dependencies)).map (·.id) = released ++ [id] from hsplit,
        List.foldl_append] at hnext
      exact ⟨_, _, hnext⟩
    · simp [hsplit]
    · rw [List.foldl_append]; rfl

/-- A count that is to be lowered is not zero. -/
theorem Moment.lookup_counts (hnodup : (tasks.map (·.id)).Nodup) {id : String} {ids : List String}
    (h : Moment tasks c (id :: ids)) : ∃ n, c.counts.lookup id = some (n + 1) := by
  obtain ⟨done, t, waiting, c₀, released, htracks, hsplit, rfl⟩ := (h.tracks hnodup).2 (by simp)
  have hdependents : (released ++ id :: ids).Nodup :=
    hsplit ▸ hnodup.sublist (List.filter_sublist.map _)
  have hreleased : id ∉ released := fun hmem =>
    (List.nodup_append.1 hdependents).2.2 id hmem id (by simp) rfl
  have hid : id ∈ dependents tasks t.id := by simp [hsplit]
  obtain ⟨u, hu, rfl⟩ := List.mem_map.1 hid
  obtain ⟨hu, hdep⟩ := List.mem_filter.1 hu
  obtain ⟨n, hn⟩ := Nat.exists_eq_succ_of_ne_zero
    (Nat.ne_of_gt (htracks.openCount_pos (by simpa using hdep)))
  refine ⟨n, ?_⟩
  rw [lookup_foldl_release hreleased, htracks.counts, lookup_counts_of_mem hnodup hu, hn]

/-- A countdown that is run goes through such moments up to its end. -/
theorem Moment.exists_end (h : Moment tasks c []) :
    ∃ c', Moment tasks c' [] ∧ c'.queue = [] ∧ c.run tasks = c'.taken := by
  have hreleases : ∀ {ids : List String} {c : Countdown}, Moment tasks c ids →
      Moment tasks (ids.foldl Countdown.release c) [] := by
    intro ids
    induction ids with
    | nil => exact id
    | cons id ids ih => exact fun h => ih h.release
  fun_induction Countdown.run tasks c with
  | case1 c hq => exact ⟨c, h, hq, rfl⟩
  | case2 c id queue hq ih => exact ih (hreleases (h.take hq))

/-- The number of tasks that a countdown takes does not depend on the order in which its queue was
seeded. -/
theorem run_seeded (hsets : ∀ t ∈ tasks, t.dependencies.Nodup) (hnodup : (tasks.map (·.id)).Nodup)
    {seed : List String} (hseed : seed.Perm (start tasks).queue) :
    run tasks { start tasks with queue := seed } = (start tasks).run tasks := by
  obtain ⟨waiting, hstart⟩ := Tracks.seeded hnodup hseed
  obtain ⟨done, c, htracks, hrun⟩ := hstart.exists_run hnodup
  obtain ⟨done', c', htracks', hrun'⟩ := (Tracks.start hnodup).exists_run hnodup
  rw [hrun, hrun', htracks.length_eq hsets htracks']

end Countdown

/-! ### The verdict -/

/-- A list of tasks passes the check exactly if the names differ, every dependency is the name of a
task, and the tasks can be put into an order in which each comes after all that it depends on, which
a task that depends on itself rules out; otherwise the graph is refused.  The verdict depends
neither on the order of the tasks nor on the order in which the queue of the countdown is seeded,
and at none of the moments that the countdown goes through a count is lowered that is zero. -/
theorem checkGraph_verdict {tasks : List Task} (hsets : ∀ t ∈ tasks, t.dependencies.Nodup) :
    (checkGraph tasks = .ok () ↔ Runnable tasks) ∧
    ((∃ fault : GraphFault, checkGraph tasks = .error fault) ↔ ¬ Runnable tasks) ∧
    ((∃ t ∈ tasks, t.id ∈ t.dependencies) → ¬ Runnable tasks) ∧
    (∀ tasks' : List Task, tasks'.Perm tasks →
      (checkGraph tasks' = .ok () ↔ checkGraph tasks = .ok ())) ∧
    ((tasks.map (·.id)).Nodup → ∀ seed : List String, seed.Perm (Countdown.start tasks).queue →
      Countdown.run tasks { Countdown.start tasks with queue := seed }
        = (Countdown.start tasks).run tasks) ∧
    (∀ c, Countdown.Moment tasks c [] → ∃ c', Countdown.Moment tasks c' [] ∧ c'.queue = [] ∧
      c.run tasks = c'.taken) ∧
    ((tasks.map (·.id)).Nodup → ∀ c id ids, Countdown.Moment tasks c (id :: ids) →
      ∃ n, c.counts.lookup id = some (n + 1)) := by
  have hverdict : ∀ {ts : List Task}, (∀ t ∈ ts, t.dependencies.Nodup) →
      (checkGraph ts = .ok () ↔ Runnable ts) := fun h =>
    ⟨Runnable.of_checkGraph, checkGraph_of_runnable h⟩
  refine ⟨hverdict hsets, ?_, ?_, ?_, ?_, fun c hmoment => hmoment.exists_end, ?_⟩
  · rw [← hverdict hsets]
    cases checkGraph tasks <;> simp
  · rintro ⟨t, ht, hself⟩ h
    exact h.not_mem_dependencies ht hself
  · intro tasks' hperm
    have hsets' : ∀ t ∈ tasks', t.dependencies.Nodup := fun t ht => hsets t (hperm.mem_iff.1 ht)
    rw [hverdict hsets, hverdict hsets']
    exact ⟨fun h => h.of_perm hperm.symm, fun h => h.of_perm hperm⟩
  · exact fun hnodup seed hseed => Countdown.run_seeded hsets hnodup hseed
  · exact fun hnodup c id ids hmoment => hmoment.lookup_counts hnodup

/-- Two tasks that depend on each other, and one that depends on both. -/
def circle : List Task :=
  [("orders", ["users"]), ("users", ["orders"]), ("portal", ["orders", "users"])].map
    fun (id, dependencies) =>
      { id, kind := .component, prompt := "", context := .null, expectedOutput := ⟨"tsx", none, []⟩,
        priority := 0, dependencies }

theorem checkGraph_verdict_circle :
    (∀ t ∈ circle, t.dependencies.Nodup) ∧ checkGraph circle = .error .cycle ∧
      ¬ Runnable circle := by
  have hsets : ∀ t ∈ circle, t.dependencies.Nodup := by decide
  have hcycle : checkGraph circle = .error .cycle := by decide +kernel
  exact ⟨hsets, hcycle, (checkGraph_verdict hsets).2.1.1 ⟨_, hcycle⟩⟩

end Mockup
