import Mathlib.Data.List.Induction
import Mockup.Proofs.Json.Members
import Mockup.Proofs.View.Names

/-!
# Related tables

The list of a table, the view of one row and the view of rows beside others all show related tables.
The first two look at the relationships that touch the table, from either end; the third one looks
at those that lead away from it to one row or to many.

* `map_fst_firstPerKey`, `find?_of_mem_firstPerKey`: of entries with keys, the first of each key
  stays;
* `Relationship.Joins`, `Relationship.LeadsTo`: the relations of a relationship to a table;
* `FirstOf`: the first relationship with another table;
* `relatedTables`, `detailTables`: the other tables, each once;
* `firstOf_of_mem_linkedTables`, `firstOf_of_mem_detailLinks`: each of them is tied by the first
  relationship with it;
* `showsRelated_of_mem_viewsOf`: the related tables in the views of a table.
-/

namespace Mockup

/-! ### The first entry of each key -/

theorem firstPerKey_concat (entries : List (String × String)) (e : String × String) :
    firstPerKey (entries ++ [e]) = if e.1 ∈ (firstPerKey entries).map (·.1) then firstPerKey entries
      else firstPerKey entries ++ [e] := by
  have hany : (firstPerKey entries).any (·.1 == e.1) = true
      ↔ e.1 ∈ (firstPerKey entries).map (·.1) := by simp
  rw [firstPerKey, List.foldl_append, List.foldl_cons, List.foldl_nil]
  exact if_congr hany rfl rfl

/-- Each key stays where it is first. -/
theorem map_fst_firstPerKey (entries : List (String × String)) :
    (firstPerKey entries).map (·.1) = (entries.map (·.1)).eraseDups := by
  induction entries using List.reverseRecOn with
  | nil => rfl
  | append_singleton entries e ih =>
    have hmem : e.1 ∈ (firstPerKey entries).map (·.1) ↔ e.1 ∈ entries.map (·.1) := by
      rw [ih, List.mem_eraseDups]
    rw [firstPerKey_concat, List.map_append, List.eraseDups_append, ← ih, List.map_singleton,
      List.cons_removeAll, List.contains_eq_mem]
    by_cases he : e.1 ∈ entries.map (·.1)
    · rw [if_pos (hmem.2 he), if_neg (by simpa using he), List.nil_removeAll, List.eraseDups_nil,
        List.append_nil]
    · rw [if_neg (mt hmem.1 he), if_pos (by simpa using he), List.nil_removeAll, List.map_append]
      rfl

/-- An entry that stays is the first one of its key. -/
theorem find?_of_mem_firstPerKey {entries : List (String × String)} {e : String × String}
    (h : e ∈ firstPerKey entries) : entries.find? (·.1 == e.1) = some e := by
  induction entries using List.reverseRecOn with
  | nil => cases h
  | append_singleton entries e' ih =>
    rw [List.find?_append]
    rw [firstPerKey_concat] at h
    split at h
    · rw [ih h, Option.some_or]
    · next hnew =>
      rcases List.mem_append.1 h with h | h
      · rw [ih h, Option.some_or]
      · obtain rfl := List.mem_singleton.1 h
        -- no entry before it has its key
        have hnone : entries.find? (·.1 == e.1) = none := by
          rw [map_fst_firstPerKey, List.mem_eraseDups] at hnew
          rw [List.find?_eq_none]
          intro e₀ he₀ heq
          exact hnew (beq_iff_eq.1 heq ▸ List.mem_map_of_mem he₀)
        rw [hnone, Option.none_or, List.find?_singleton, if_pos (beq_self_eq_true e.1)]

/-! ### What relationships say of a table -/

/-- The relationship joins the table to another one, and the table has this column in it.  If it
joins the table to itself, the column is the one on the left. -/
inductive Relationship.Joins (r : Relationship) (table : String) : String → String → Prop where
  | outgoing : r.source.table = table → r.Joins table r.target.table r.source.column
  | incoming : r.source.table ≠ table → r.target.table = table →
      r.Joins table r.source.table r.target.column

/-- The relationship leads away from the table to one row or to many rows of another one, and this
column holds the key: the table's own if many rows belong to one, the other table's if one row has
many. -/
inductive Relationship.LeadsTo (r : Relationship) (table : String) : String → String → Prop where
  | manyToOne : r.source.table = table → r.kind = .manyToOne →
      r.LeadsTo table r.target.table r.source.column
  | oneToMany : r.source.table = table → r.kind = .oneToMany →
      r.LeadsTo table r.target.table r.target.column

/-- The first relationship that ties the other table, by whatever column, ties it by this one. -/
def FirstOf (ties : Relationship → String → String → Prop) (relationships : List Relationship)
    (other column : String) : Prop :=
  ∃ before r after, relationships = before ++ r :: after ∧ ties r other column ∧
    ∀ q ∈ before, ∀ column', ¬ ties q other column'

/-- The tables at the other ends of the relationships that touch a table, each once, in the order in
which they are first named. -/
def relatedTables (relationships : List Relationship) (table : String) : List String :=
  (relationships.filterMap (·.opposite? table)).eraseDups

/-- The tables that relationships lead to from a table, from many rows to one or from one row to
many, each once, in the order in which they are first named. -/
def detailTables (relationships : List Relationship) (table : String) : List String :=
  ((relationships.filter fun r =>
    r.source.table = table ∧ (r.kind = .manyToOne ∨ r.kind = .oneToMany)).map
      (·.target.table)).eraseDups

section Relationships

variable {relationships : List Relationship} {table other column : String} {r : Relationship}

theorem relatedEnd?_eq_some_iff :
    relatedEnd? table r = some (other, column) ↔ r.Joins table other column := by
  unfold relatedEnd? Relationship.opposite?
  constructor
  · intro h
    split at h
    · next hs =>
      cases h
      exact .outgoing hs
    · next hs =>
      split at h
      · next ht =>
        cases h
        exact .incoming hs ht
      · cases h
  · rintro (hs | ⟨hs, ht⟩)
    · simp [hs]
    · simp [hs, ht]

theorem detailEnd?_eq_some_iff :
    detailEnd? table r = some (other, column) ↔ r.LeadsTo table other column := by
  unfold detailEnd?
  constructor
  · intro h
    split at h
    · next hs =>
      split at h
      · next hkind => cases h; exact .manyToOne hs hkind
      · next hkind => cases h; exact .oneToMany hs hkind
      · cases h
      · cases h
    · cases h
  · rintro (⟨hs, hkind⟩ | ⟨hs, hkind⟩)
    · rw [if_pos hs, hkind]
    · rw [if_pos hs, hkind]

/-- An entry that stays is the one of the first relationship with an entry under its key. -/
theorem firstOf_of_mem_firstPerKey {entryOf : Relationship → Option (String × String)}
    {ties : Relationship → String → String → Prop}
    (hties : ∀ r other column, entryOf r = some (other, column) ↔ ties r other column)
    (h : (other, column) ∈ firstPerKey (relationships.filterMap entryOf)) :
    FirstOf ties relationships other column := by
  have hfind := find?_of_mem_firstPerKey h
  rw [List.find?_filterMap] at hfind
  obtain ⟨r, hr, hentry⟩ := Option.bind_eq_some_iff.1 hfind
  obtain ⟨-, before, after, hsplit, hbefore⟩ := List.find?_eq_some_iff_append.1 hr
  refine ⟨before, r, after, hsplit, (hties r other column).1 hentry, fun q hq column' hq' => ?_⟩
  have hnone := hbefore q hq
  rw [(hties q other column').2 hq'] at hnone
  simp at hnone

/-- A linked table is tied by the first relationship that joins the two. -/
theorem firstOf_of_mem_linkedTables (h : (other, column) ∈ linkedTables relationships table) :
    FirstOf (·.Joins table) relationships other column :=
  firstOf_of_mem_firstPerKey (fun _ _ _ => relatedEnd?_eq_some_iff) h

/-- A table beside the rows of another is tied by the first relationship that leads to it. -/
theorem firstOf_of_mem_detailLinks (h : (other, column) ∈ detailLinks relationships table) :
    FirstOf (·.LeadsTo table) relationships other column :=
  firstOf_of_mem_firstPerKey (fun _ _ _ => detailEnd?_eq_some_iff) h

theorem map_fst_linkedTables (relationships : List Relationship) (table : String) :
    (linkedTables relationships table).map (·.1) = relatedTables relationships table := by
  rw [linkedTables, map_fst_firstPerKey, relatedTables, List.map_filterMap]
  congr 2
  funext r
  simp [relatedEnd?, Function.comp_def]

theorem map_fst_detailLinks (relationships : List Relationship) (table : String) :
    (detailLinks relationships table).map (·.1) = detailTables relationships table := by
  rw [detailLinks, map_fst_firstPerKey, detailTables, List.map_filterMap, ← List.filterMap_eq_map,
    List.filterMap_filter]
  congr 2
  funext r
  unfold detailEnd?
  by_cases hs : r.source.table = table
  · cases hkind : r.kind <;> simp [hs]
  · simp [hs]

/-- The tables of detail links are at the other ends of relationships. -/
theorem detailTables_subset (relationships : List Relationship) (table : String) :
    detailTables relationships table ⊆ relatedTables relationships table := by
  intro other hother
  rw [detailTables, List.mem_eraseDups] at hother
  obtain ⟨r, hr, rfl⟩ := List.mem_map.1 hother
  obtain ⟨hmem, hleads⟩ := List.mem_filter.1 hr
  rw [relatedTables, List.mem_eraseDups, List.mem_filterMap]
  refine ⟨r, hmem, ?_⟩
  have hs : r.source.table = table := (of_decide_eq_true hleads).1
  rw [Relationship.opposite?, if_pos hs]

end Relationships

/-! ### The parts of a view -/

theorem mem_parts_viewOf {s : Schema} {t : Table} {kind : ViewKind} {p : Part}
    (h : p ∈ (viewOf s t kind).parts) :
    ∃ panel ∈ panels s t kind, p = panel.toPart t.name kind := by
  obtain ⟨panel, hpanel, rfl⟩ := List.mem_map.1 h
  exact ⟨panel, hpanel, rfl⟩

theorem partsOf_viewOf (s : Schema) (t : Table) (kind : ViewKind) (type : PartKind) :
    (viewOf s t kind).partsOf type
      = ((panels s t kind).filter (·.widget.type == type)).map (Panel.toPart t.name kind) := by
  rw [Suggestion.partsOf, viewOf, List.filter_map]
  rfl

/-- A list has one part with rows. -/
theorem dataTable_listPanels (s : Schema) (t : Table) :
    (listPanels s t).filter (·.widget.type == .dataTable)
      = [⟨"table", .dataTable (leadColumns t) (relatedTables s.relationships t.name),
          some (.ofFields t.name (leadColumns t))⟩] := by
  simp only [listPanels, map_fst_linkedTables, List.filter_append]
  split <;> split <;> rfl

theorem relatedSection_detailPanels (s : Schema) (t : Table) :
    (detailPanels s t).filter (·.widget.type == .relatedSection)
      = ((linkedTables s.relationships t.name).take 3).mapIdx relatedPanel := by
  have hall : ∀ p ∈ ((linkedTables s.relationships t.name).take 3).mapIdx relatedPanel,
      (p.widget.type == .relatedSection) = true := by
    intro p hp
    obtain ⟨i, hi, rfl⟩ := List.mem_mapIdx.1 hp
    rfl
  rw [detailPanels, List.filter_append, List.filter_eq_self.2 hall]
  rfl

theorem detailTabs_masterDetailPanels (s : Schema) (t : Table) :
    (masterDetailPanels s t).filter (·.widget.type == .detailTabs)
      = [⟨"tabs", .detailTabs ((detailLinks s.relationships t.name).map fun (table, key) =>
          ⟨table, Text.heading table, key⟩), none⟩] :=
  rfl

/-! ### What the views show -/

/-- The tables that are related to the table of a view are shown in the view. -/
def Suggestion.ShowsRelated (s : Schema) (t : Table) (v : Suggestion) : Prop :=
  match v.kind with
  | .list =>
    -- the rows have links to all of them
    ∃ p, v.partsOf .dataTable = [p] ∧
      p.props.member? "relatedColumns" = some (.texts (relatedTables s.relationships t.name))
  | .detail =>
    -- the first three have sections, and the first of these is open
    (v.partsOf .relatedSection).map
        (fun p => (p.binding.map (·.source), p.props.member? "expanded"))
      = ((relatedTables s.relationships t.name).take 3).mapIdx fun i other =>
          (some other, some (.bool (i == 0)))
  | .masterDetail =>
    -- those that relationships lead to have tabs, each with the key of the first relationship
    ∃ p tabs, v.partsOf .detailTabs = [p] ∧ p.props.member? "tabs" = some (.list tabs) ∧
      tabs.map (·.member? "table")
        = (detailTables s.relationships t.name).map (fun other => some (.text other)) ∧
      ∀ tab ∈ tabs, ∃ other key, tab.member? "table" = some (.text other) ∧
        tab.member? "foreignKey" = some (.text key) ∧
        FirstOf (·.LeadsTo t.name) s.relationships other key ∧
        other ∈ relatedTables s.relationships t.name
  | .form | .dashboard => True

theorem showsRelated_list (s : Schema) (t : Table) : (viewOf s t .list).ShowsRelated s t := by
  have hparts : (viewOf s t .list).partsOf .dataTable = _ := partsOf_viewOf s t .list .dataTable
  rw [panels, dataTable_listPanels] at hparts
  exact ⟨_, hparts, (Json.member?_object ..).trans rfl⟩

theorem showsRelated_detail (s : Schema) (t : Table) : (viewOf s t .detail).ShowsRelated s t := by
  show ((viewOf s t .detail).partsOf .relatedSection).map _ = _
  rw [partsOf_viewOf, panels, relatedSection_detailPanels, ← map_fst_linkedTables, ← List.map_take,
    eq_comm, List.mapIdx_eq_iff]
  intro i
  rw [List.getElem?_map, List.getElem?_map, List.getElem?_mapIdx, List.getElem?_map]
  cases ((linkedTables s.relationships t.name).take 3)[i]? with
  | none => rfl
  | some link => rfl

theorem showsRelated_masterDetail (s : Schema) (t : Table) :
    (viewOf s t .masterDetail).ShowsRelated s t := by
  have hparts : (viewOf s t .masterDetail).partsOf .detailTabs = _ :=
    partsOf_viewOf s t .masterDetail .detailTabs
  rw [panels, detailTabs_masterDetailPanels] at hparts
  refine ⟨_, _, hparts, (Json.member?_object ..).trans rfl, ?_, ?_⟩
  · simp only [List.map_map, ← map_fst_detailLinks]
    rfl
  · simp only [List.map_map, List.mem_map]
    rintro tab ⟨⟨other, key⟩, hlink, rfl⟩
    have hother : other ∈ detailTables s.relationships t.name := by
      rw [← map_fst_detailLinks]
      exact List.mem_map_of_mem hlink
    exact ⟨other, key, (Json.member?_object ..).trans rfl, (Json.member?_object ..).trans rfl,
      firstOf_of_mem_detailLinks hlink, detailTables_subset _ _ hother⟩

/-- The views of a table agree on the tables that are related to it. -/
theorem showsRelated_of_mem_viewsOf {s : Schema} {t : Table} {v : Suggestion}
    (h : v ∈ viewsOf s t) : v.ShowsRelated s t := by
  obtain ⟨kind, -, rfl⟩ := mem_viewsOf h
  cases kind with
  | list => exact showsRelated_list s t
  | detail => exact showsRelated_detail s t
  | form => trivial
  | dashboard => trivial
  | masterDetail => exact showsRelated_masterDetail s t

/-- A table of orders, each of which may repeat an earlier one. -/
def ordersTable : Table :=
  { name := "orders"
    columns := [
      { name := "id", dataType := "int", primaryKey := true },
      { name := "buyer", dataType := "int", references := some ⟨"users", "id"⟩ },
      { name := "repeats", dataType := "int", references := some ⟨"orders", "id"⟩ },
      { name := "placed", dataType := "Date" }] }

/-- Orders with the tables around them; users are joined to them twice. -/
def ordersSchema : Schema :=
  { tables := [ordersTable, { name := "users" }]
    relationships := [
      ⟨.oneToOne, ⟨"codes", "of"⟩, ⟨"orders", "id"⟩⟩,
      ⟨.manyToOne, ⟨"orders", "buyer"⟩, ⟨"users", "id"⟩⟩,
      ⟨.manyToOne, ⟨"orders", "repeats"⟩, ⟨"orders", "id"⟩⟩,
      ⟨.manyToMany, ⟨"users", "likes"⟩, ⟨"orders", "id"⟩⟩,
      ⟨.oneToMany, ⟨"orders", "id"⟩, ⟨"items", "order_id"⟩⟩] }

theorem showsRelated_of_mem_viewsOf_orders :
    viewOf ordersSchema ordersTable .masterDetail ∈ viewsOf ordersSchema ordersTable ∧
    (viewOf ordersSchema ordersTable .masterDetail).ShowsRelated ordersSchema ordersTable ∧
    relatedTables ordersSchema.relationships "orders" = ["codes", "users", "orders", "items"] ∧
    detailTables ordersSchema.relationships "orders" = ["users", "orders", "items"] := by
  have hmem : viewOf ordersSchema ordersTable .masterDetail ∈ viewsOf ordersSchema ordersTable :=
    List.mem_map_of_mem (by decide +kernel)
  exact ⟨hmem, showsRelated_of_mem_viewsOf hmem, by decide +kernel, by decide +kernel⟩

end Mockup
