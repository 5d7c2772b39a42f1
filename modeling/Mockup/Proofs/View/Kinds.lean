import Mockup.Proofs.View.Related

/-!
# Which views a table has

A table has a list, a view of one row and a form; the other two kinds of views depend on its columns
and on the relationships that touch it, and on nothing else.

* `Column.HoldsNumbers`, `Column.HoldsTimes`: columns with figures, by the names of their types;
* `Table.CallsFor`: the conditions on a table for a view of each kind, with `mem_viewKinds_iff`;
* `viewsOf_congr`: the relationships that do not touch a table do not matter to its views;
* `suggest_by_table`: the views of a schema, table by table.
-/

namespace Mockup

/-! ### Types of numbers and of times -/

/-- The names of the types of numbers, in small letters and without arguments. -/
def numberTypes : List String :=
  ["int", "integer", "int2", "int4", "int8", "bigint", "smallint", "tinyint", "mediumint", "serial",
   "bigserial", "smallserial", "decimal", "numeric", "float", "float4", "float8", "double", "real",
   "money"]

/-- The names of the types of days, moments and times of day. -/
def timeTypes : List String :=
  ["date", "datetime", "datetime2", "timestamp", "timestamptz", "time", "timetz"]

/-- The type of the column is one of numbers, whatever its arguments and however it is spelt. -/
def Column.HoldsNumbers (c : Column) : Prop := c.typeName ∈ numberTypes

/-- The type of the column is one of times. -/
def Column.HoldsTimes (c : Column) : Prop := c.typeName ∈ timeTypes

/-- No name is listed for two classes. -/
theorem TypeClass.ofName_of_mem :
    ∀ entry ∈ names, ∀ name ∈ entry.2, ofName name = entry.1 := by
  decide +kernel

/-- A type is of a family, other than that of texts, if its name is listed for a class of it. -/
theorem TypeClass.family_ofName_iff {family : DataFamily} (h : family ≠ .string) (name : String) :
    (ofName name).family = family ↔
      name ∈ (names.filter (·.1.family == family)).flatMap (·.2) := by
  simp only [List.mem_flatMap, List.mem_filter, beq_iff_eq]
  constructor
  · intro hfamily
    unfold ofName at hfamily
    split at hfamily
    · next c list hfind =>
      have hname : name ∈ list := by simpa using List.find?_some hfind
      exact ⟨(c, list), ⟨List.mem_of_find?_eq_some hfind, hfamily⟩, hname⟩
    · exact absurd hfamily.symm h
  · rintro ⟨entry, ⟨hentry, hfamily⟩, hname⟩
    rw [ofName_of_mem entry hentry name hname, hfamily]

theorem TypeClass.mem_numberTypes_iff (name : String) :
    name ∈ numberTypes ↔ (ofName name).family = .numeric := by
  have hlist : numberTypes = (names.filter (·.1.family == .numeric)).flatMap (·.2) := by decide
  rw [hlist]
  exact (family_ofName_iff (by decide) name).symm

theorem TypeClass.mem_timeTypes_iff (name : String) :
    name ∈ timeTypes ↔ (ofName name).family = .date := by
  have hlist : timeTypes = (names.filter (·.1.family == .date)).flatMap (·.2) := by decide
  rw [hlist]
  exact (family_ofName_iff (by decide) name).symm

theorem Column.isNumeric_iff {c : Column} : c.isNumeric = true ↔ c.HoldsNumbers :=
  beq_iff_eq.trans (TypeClass.mem_numberTypes_iff c.typeName).symm

theorem Column.isTemporal_iff {c : Column} : c.isTemporal = true ↔ c.HoldsTimes :=
  beq_iff_eq.trans (TypeClass.mem_timeTypes_iff c.typeName).symm

/-! ### What a table must have for a view -/

/-- The table has what calls for a view of the kind. -/
def Table.CallsFor (s : Schema) (t : Table) : ViewKind → Prop
  | .list | .detail | .form => True
  | .dashboard => (∃ c ∈ t.columns, c.HoldsNumbers ∨ c.HoldsTimes) ∨
      ∃ r ∈ s.relationships, r.source.table = t.name ∨ r.target.table = t.name
  | .masterDetail => ∃ r ∈ s.relationships, r.source.table = t.name ∧
      (r.kind = .manyToOne ∨ r.kind = .oneToMany)

section Kinds

variable {s : Schema} {t : Table}

theorem hasFigures_iff : hasFigures s t = true ↔ t.CallsFor s .dashboard := by
  simp only [hasFigures, Table.CallsFor, Relationship.involves, Bool.or_eq_true, List.any_eq_true,
    Column.isNumeric_iff, Column.isTemporal_iff, beq_iff_eq]

theorem detailLinks_ne_nil_iff :
    detailLinks s.relationships t.name ≠ [] ↔ t.CallsFor s .masterDetail := by
  have hmem (other : String) : other ∈ (detailLinks s.relationships t.name).map (·.1) ↔
      ∃ r ∈ s.relationships, (r.source.table = t.name ∧ (r.kind = .manyToOne ∨ r.kind = .oneToMany))
        ∧ r.target.table = other := by
    simp only [map_fst_detailLinks, detailTables, List.mem_eraseDups, List.mem_map, List.mem_filter,
      decide_eq_true_eq, and_assoc]
  constructor
  · intro h
    obtain ⟨link, hlink⟩ := List.exists_mem_of_ne_nil _ h
    obtain ⟨r, hr, hleads, -⟩ := (hmem link.1).1 (List.mem_map_of_mem hlink)
    exact ⟨r, hr, hleads⟩
  · rintro ⟨r, hr, hleads⟩ hnil
    have hlink := (hmem r.target.table).2 ⟨r, hr, hleads, rfl⟩
    rw [hnil] at hlink
    cases hlink

/-- A table has the views that it calls for. -/
theorem mem_viewKinds_iff (kind : ViewKind) : kind ∈ viewKinds s t ↔ t.CallsFor s kind := by
  have hlinks : (detailLinks s.relationships t.name).isEmpty = false
      ↔ t.CallsFor s .masterDetail := by
    rw [← detailLinks_ne_nil_iff, List.isEmpty_eq_false_iff]
  cases kind with
  | list => simp [viewKinds, Table.CallsFor]
  | detail => simp [viewKinds, Table.CallsFor]
  | form => simp [viewKinds, Table.CallsFor]
  | dashboard => rw [← hasFigures_iff]; simp [viewKinds]
  | masterDetail => rw [← hlinks]; simp [viewKinds]

theorem map_kind_viewsOf (s : Schema) (t : Table) :
    (viewsOf s t).map (·.kind) = viewKinds s t := by
  rw [viewsOf, List.map_map]
  exact List.map_id _

/-- A relationship that leads away from a table touches it. -/
theorem Table.CallsFor.dashboard (h : t.CallsFor s .masterDetail) : t.CallsFor s .dashboard := by
  obtain ⟨r, hr, hsource, -⟩ := h
  exact .inr ⟨r, hr, .inl hsource⟩

end Kinds

/-! ### What the views depend on -/

section Around

variable {s : Schema} {t : Table}

/-- A list with entries for relationships that touch the table depends on these alone. -/
theorem filterMap_relationshipsOf {entryOf : Relationship → Option (String × String)}
    (hentry : ∀ r, r.involves t.name = false → entryOf r = none) :
    (s.relationshipsOf t.name).filterMap entryOf = s.relationships.filterMap entryOf := by
  rw [Schema.relationshipsOf, List.filterMap_filter]
  congr 1
  funext r
  cases hr : r.involves t.name with
  | true => rfl
  | false => exact (hentry r hr).symm

theorem linkedTables_relationshipsOf :
    linkedTables (s.relationshipsOf t.name) t.name = linkedTables s.relationships t.name := by
  rw [linkedTables, linkedTables, filterMap_relationshipsOf]
  intro r hr
  simp_all [Relationship.involves, relatedEnd?, Relationship.opposite?]

theorem detailLinks_relationshipsOf :
    detailLinks (s.relationshipsOf t.name) t.name = detailLinks s.relationships t.name := by
  rw [detailLinks, detailLinks, filterMap_relationshipsOf]
  intro r hr
  simp_all [Relationship.involves, detailEnd?]

theorem viewsOf_relationshipsOf (s : Schema) (t : Table) :
    viewsOf { s with relationships := s.relationshipsOf t.name } t = viewsOf s t := by
  have hfigures : hasFigures { s with relationships := s.relationshipsOf t.name } t
      = hasFigures s t := by
    simp only [hasFigures, Schema.relationshipsOf, List.any_filter, Bool.and_self]
  have hkinds : viewKinds { s with relationships := s.relationshipsOf t.name } t
      = viewKinds s t := by
    rw [viewKinds, hfigures, detailLinks_relationshipsOf, viewKinds]
  have hpanels (kind : ViewKind) :
      panels { s with relationships := s.relationshipsOf t.name } t kind = panels s t kind := by
    cases kind with
    | list => rw [panels, listPanels, linkedTables_relationshipsOf, panels, listPanels]
    | detail => rw [panels, detailPanels, linkedTables_relationshipsOf, panels, detailPanels]
    | form => rfl
    | dashboard => rfl
    | masterDetail =>
      rw [panels, masterDetailPanels, detailLinks_relationshipsOf, panels, masterDetailPanels]
  rw [viewsOf, hkinds, viewsOf]
  refine List.map_congr_left fun kind _ => ?_
  rw [viewOf, hpanels, viewOf]

/-- Schemas that differ only in relationships that do not touch a table have the same views of
it. -/
theorem viewsOf_congr {rest : List Relationship}
    (h : rest.filter (·.involves t.name) = s.relationshipsOf t.name) :
    viewsOf { s with relationships := rest } t = viewsOf s t := by
  rw [← viewsOf_relationshipsOf s t, ← h]
  exact (viewsOf_relationshipsOf { s with relationships := rest } t).symm

end Around

/-- The views of a schema are those of its tables, in the order of the tables.  A table has the
views that it calls for, in the order of their kinds: the list, the view of one row and the form,
then the dashboard if it has figures or a relationship touches it, and then the view of rows beside
others if a relationship leads from it to one row or to many; so it has the last one only with a
dashboard.  When relationships that do not touch the table are taken away, its views are as they
were. -/
theorem suggest_by_table (s : Schema) :
    suggest s = s.tables.flatMap (viewsOf s) ∧ ∀ t ∈ s.tables,
      (∀ v ∈ viewsOf s t, v.table = t.name) ∧
      ((viewsOf s t).map (·.kind)).Sublist [.list, .detail, .form, .dashboard, .masterDetail] ∧
      (∀ kind, kind ∈ (viewsOf s t).map (·.kind) ↔ t.CallsFor s kind) ∧
      (.masterDetail ∈ (viewsOf s t).map (·.kind) → .dashboard ∈ (viewsOf s t).map (·.kind)) ∧
      ∀ rest : List Relationship, rest.filter (·.involves t.name) = s.relationshipsOf t.name →
        viewsOf { s with relationships := rest } t = viewsOf s t := by
  refine ⟨rfl, fun t _ => ?_⟩
  rw [map_kind_viewsOf]
  refine ⟨?_, viewKinds_sublist s t, mem_viewKinds_iff, ?_, fun rest => viewsOf_congr⟩
  · intro v hv
    obtain ⟨kind, -, rfl⟩ := mem_viewsOf hv
    rfl
  · rw [mem_viewKinds_iff, mem_viewKinds_iff]
    exact Table.CallsFor.dashboard

/-- Users have no columns, but relationships with orders, and the other relationships of orders do
not matter to them. -/
theorem suggest_by_table_orders :
    { name := "users" } ∈ ordersSchema.tables ∧
    (viewsOf ordersSchema { name := "users" }).map (·.kind) = [.list, .detail, .form, .dashboard] ∧
    viewsOf { ordersSchema with relationships := ordersSchema.relationshipsOf "users" }
      { name := "users" } = viewsOf ordersSchema { name := "users" } := by
  have hmem : { name := "users" } ∈ ordersSchema.tables := by decide
  obtain ⟨-, -, -, -, hrest⟩ := (suggest_by_table ordersSchema).2 _ hmem
  exact ⟨hmem, by decide +kernel, hrest _ (by decide)⟩

end Mockup
