import Mathlib.Data.List.Nodup
import Mathlib.Data.List.Flatten
import Mockup.Proofs.Text.PascalCase
import Mockup.View.Suggest

/-!
# Suggested views and their names

* `mem_suggest`: a suggested view is one of a table, and bears a name made from its table and its
  kind;
* `viewKinds_sublist`: the views of a table stand in the order of their kinds;
* `nodup_suggest`: tables with different names have no two views of one table and one kind;
* `underscore_notMem_name`: no suggested view has an underscore in its name.
-/

namespace Mockup

theorem mem_viewsOf {s : Schema} {t : Table} {v : Suggestion} (h : v ∈ viewsOf s t) :
    ∃ kind ∈ viewKinds s t, v = viewOf s t kind := by
  obtain ⟨kind, hkind, rfl⟩ := List.mem_map.1 h
  exact ⟨kind, hkind, rfl⟩

/-- A suggested view is one of a table. -/
theorem mem_suggest {s : Schema} {v : Suggestion} (h : v ∈ suggest s) :
    ∃ t ∈ s.tables, ∃ kind ∈ viewKinds s t, v = viewOf s t kind := by
  obtain ⟨t, ht, hv⟩ := List.mem_flatMap.1 h
  exact ⟨t, ht, mem_viewsOf hv⟩

/-- The views of a table stand in the order of their kinds. -/
theorem viewKinds_sublist (s : Schema) (t : Table) : (viewKinds s t).Sublist ViewKind.all := by
  unfold viewKinds
  split <;> split <;> decide

theorem nodup_viewKinds (s : Schema) (t : Table) : (viewKinds s t).Nodup :=
  (viewKinds_sublist s t).nodup (by decide)

/-- Tables with different names have no two views of one table and one kind. -/
theorem nodup_suggest {s : Schema} (h : (s.tables.map (·.name)).Nodup) :
    ((suggest s).map fun v => (v.table, v.kind)).Nodup := by
  have hviews : ∀ t, (viewsOf s t).map (fun v => (v.table, v.kind))
      = (viewKinds s t).map fun kind => (t.name, kind) := by
    intro t
    rw [viewsOf, List.map_map]
    rfl
  rw [suggest, List.map_flatMap, List.nodup_flatMap]
  constructor
  · intro t _
    rw [hviews]
    exact (nodup_viewKinds s t).map fun kind kind' heq => (Prod.mk.inj heq).2
  · refine (List.pairwise_map.1 h).imp ?_
    intro t u hne
    show List.Disjoint ((viewsOf s t).map _) ((viewsOf s u).map _)
    rw [hviews, hviews]
    intro pair ht hu
    obtain ⟨kind, -, rfl⟩ := List.mem_map.1 ht
    obtain ⟨kind', -, heq⟩ := List.mem_map.1 hu
    exact hne (Prod.mk.inj heq).1.symm

/-- No suggested view has an underscore in its name. -/
theorem underscore_notMem_name {s : Schema} {v : Suggestion} (h : v ∈ suggest s) :
    '_' ∉ v.name.toList := by
  obtain ⟨t, -, kind, -, rfl⟩ := mem_suggest h
  have hsuffix : '_' ∉ kind.suffix.toList := by cases kind <;> decide
  show '_' ∉ (Text.pascalCase t.name ++ kind.suffix).toList
  rw [String.toList_append, List.mem_append]
  exact not_or.2 ⟨Text.underscore_notMem_pascalCase t.name, hsuffix⟩

end Mockup
