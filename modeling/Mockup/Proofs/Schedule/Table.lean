import Mockup.Proofs.Task.Order
import Mockup.Schedule.Board

/-!
# Who depends on whom

The table of a run says by places what the tasks say by names.

* `DependsOn`: one task depends on another, both given by their places;
* `findIdx?_id_eq_some_iff`: the place of a name;
* `mem_dependencyTable`: the table holds the places of the dependencies;
* `Runnable.exists_position`: every dependency has a place;
* `Runnable.exists_rank`: dependencies do not run in circles.
-/

namespace Mockup.Schedule

/-- The task at place `i` depends on the task at place `d`. -/
def DependsOn (tasks : List Task) (i d : Nat) : Prop :=
  ∃ t u, tasks[i]? = some t ∧ tasks[d]? = some u ∧ u.id ∈ t.dependencies

variable {tasks : List Task}

/-- Names that differ are found where their tasks stand. -/
theorem findIdx?_id_eq_some_iff (hnodup : (tasks.map (·.id)).Nodup) {name : String} {d : Nat} :
    tasks.findIdx? (·.id == name) = some d ↔ ∃ u, tasks[d]? = some u ∧ u.id = name := by
  rw [List.findIdx?_eq_some_iff_getElem]
  constructor
  · rintro ⟨hd, hname, -⟩
    exact ⟨tasks[d], List.getElem?_eq_getElem hd, by simpa using hname⟩
  · rintro ⟨u, hu, rfl⟩
    obtain ⟨hd, rfl⟩ := List.getElem?_eq_some_iff.1 hu
    refine ⟨hd, by simp, fun j hj heq => ?_⟩
    have hlt : j < tasks.length := by omega
    have hids : (tasks.map (·.id))[j]? = (tasks.map (·.id))[d]? := by
      simpa [hlt, hd] using heq
    exact Nat.ne_of_lt hj ((List.getElem?_inj (by simpa using hlt) hnodup).1 hids)

theorem mem_dependencyTable (hnodup : (tasks.map (·.id)).Nodup) {i d : Nat} :
    d ∈ (dependencyTable tasks).getD i [] ↔ DependsOn tasks i d := by
  unfold dependencyTable DependsOn
  rw [List.getD_eq_getElem?_getD, List.getElem?_map]
  cases hi : tasks[i]? with
  | none => simp
  | some t =>
    simp only [Option.map_some, Option.getD_some, List.mem_filterMap,
      findIdx?_id_eq_some_iff hnodup]
    constructor
    · rintro ⟨name, hmem, u, hu, rfl⟩
      exact ⟨t, u, rfl, hu, hmem⟩
    · rintro ⟨_, u, ⟨⟩, hu, hmem⟩
      exact ⟨u.id, hmem, u, hu, rfl⟩

end Mockup.Schedule

namespace Mockup.Runnable

open Schedule

variable {tasks : List Task}

/-- Every dependency of a task has a place. -/
theorem exists_position (h : Runnable tasks) {t : Task} (ht : t ∈ tasks) {name : String}
    (hname : name ∈ t.dependencies) :
    ∃ (d : Nat) (u : Task), tasks[d]? = some u ∧ u.id = name := by
  obtain ⟨u, hu, rfl⟩ := List.mem_map.1 (h.known t ht name hname)
  obtain ⟨d, hd, rfl⟩ := List.mem_iff_getElem.1 hu
  exact ⟨d, tasks[d], List.getElem?_eq_getElem hd, rfl⟩

/-- The places can be ranked so that every task ranks above all that it depends on. -/
theorem exists_rank (h : Runnable tasks) :
    ∃ rank : Nat → Nat, ∀ i d, DependsOn tasks i d → rank d < rank i := by
  obtain ⟨order, hperm, horder⟩ := h.ordered
  refine ⟨fun i => ((tasks[i]?).map fun t : Task => (order.map (·.id)).idxOf t.id).getD 0, ?_⟩
  rintro i d ⟨t, u, ht, hu, hmem⟩
  obtain ⟨pre, post, heq⟩ := List.append_of_mem (hperm.mem_iff.2 (List.mem_of_getElem? ht))
  have hbefore : u.id ∈ pre.map (·.id) := horder pre t post heq u.id hmem
  have hnodup : (order.map (·.id)).Nodup := (hperm.map _).nodup_iff.2 h.nodup
  have hafter : t.id ∉ pre.map (·.id) := by
    rw [heq, List.map_append, List.map_cons, List.nodup_append] at hnodup
    exact fun hin => hnodup.2.2 t.id hin t.id List.mem_cons_self rfl
  simp only [ht, hu, Option.map_some, Option.getD_some]
  calc (order.map (·.id)).idxOf u.id
      = (pre.map (·.id)).idxOf u.id := by
        rw [heq, List.map_append, List.idxOf_append_of_mem hbefore]
    _ < (pre.map (·.id)).length := List.idxOf_lt_length_of_mem hbefore
    _ = (order.map (·.id)).idxOf t.id := by
        rw [heq, List.map_append, List.map_cons, List.idxOf_append_of_notMem hafter,
          List.idxOf_cons_self, Nat.add_zero]

end Mockup.Runnable
