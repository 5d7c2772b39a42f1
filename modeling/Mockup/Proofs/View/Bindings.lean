import Mockup.Proofs.View.Kinds

/-!
# The bindings of the parts of views

A part of a view takes its data from columns of the view's own table, unless it shows the rows of a
related table.

* `Table.HasColumn`, `Column.IsMeasure`: columns, and those that a dashboard adds up;
* `Panel.Of`: the panels that views are made of, one rule for each, with `Panel.of_mem`;
* `Part.Bound`: the data of a part;
* `bound_of_mem_viewsOf`: all parts of all views of a table are bound.
-/

namespace Mockup

/-- The table has a column of that name. -/
def Table.HasColumn (t : Table) (name : String) : Prop := ∃ c ∈ t.columns, c.name = name

/-- The column holds figures to add up: it is neither a primary key nor refers to another one. -/
def Column.IsMeasure (c : Column) : Prop :=
  c.HoldsNumbers ∧ c.primaryKey = false ∧ c.references = none

section Columns

variable {t : Table} {name : String}

theorem hasColumn_of_mem_leadColumns (h : name ∈ leadColumns t) : t.HasColumn name := by
  have hname : name ∈ t.columns.map (·.name) :=
    (List.mergeSort_perm _ _).mem_iff.1 (List.mem_of_mem_take h)
  exact List.mem_map.1 hname

theorem isPrefix_searchColumns (t : Table) : searchColumns t <+: leadColumns t :=
  List.take_prefix 3 _

theorem hasColumn_of_mem_listFilters (h : name ∈ (listFilters t).map (·.1)) :
    t.HasColumn name := by
  obtain ⟨filter, hfilter, rfl⟩ := List.mem_map.1 h
  obtain ⟨c, hc, hof⟩ := List.mem_filterMap.1 (List.mem_of_mem_take hfilter)
  refine ⟨c, hc, ?_⟩
  unfold filterOf? at hof
  split at hof <;> cases hof <;> rfl

theorem mem_metricColumns_iff {c : Column} :
    c ∈ metricColumns t ↔ c ∈ t.columns ∧ c.IsMeasure := by
  simp only [metricColumns, List.mem_filter, Bool.and_eq_true, Bool.not_eq_true',
    Option.isNone_iff_eq_none, Column.isNumeric_iff, Column.IsMeasure, and_assoc]

end Columns

/-! ### The panels of views -/

/-- The column of the curve of a dashboard: the first one that is added up, or the count. -/
def trendField (t : Table) : String :=
  ((metricColumns t).head?.map (·.name)).getD "count"

/-- The panels that views of a table are made of. -/
inductive Panel.Of (s : Schema) (t : Table) : ViewKind → Panel → Prop where
  | search : Panel.Of s t .list
      ⟨"search", .searchBar (searchColumns t), some (.ofFields t.name (searchColumns t))⟩
  | filters : Panel.Of s t .list
      ⟨"filters", .filterPanel (listFilters t),
        some (.ofFields t.name ((listFilters t).map (·.1)))⟩
  | rows (related : List String) : Panel.Of s t .list
      ⟨"table", .dataTable (leadColumns t) related, some (.ofFields t.name (leadColumns t))⟩
  | header (title : String) (field : Option String) : Panel.Of s t .detail
      ⟨"header", .header title field, none⟩
  | info (fields : List CardField) (note : Option String) : Panel.Of s t .detail
      ⟨"info", .infoCard fields note, some (.ofFields t.name (t.columns.map (·.name)))⟩
  | related (index : Nat) (other column : String)
      (linked : (other, column) ∈ linkedTables s.relationships t.name) :
      Panel.Of s t .detail (relatedPanel index (other, column))
  | field (c : Column) (f : FormField) (asked : c ∈ t.columns) : Panel.Of s t .form
      ⟨"field-" ++ c.name, .formField f, some (.ofFields t.name [c.name])⟩
  | actions : Panel.Of s t .form ⟨"actions", .formActions, none⟩
  | stats (sums : List Sum) : Panel.Of s t .dashboard
      ⟨"stats", .statsGrid sums, some (.ofFields t.name ((metricColumns t).map (·.name)))⟩
  | trend (date : Option String) : Panel.Of s t .dashboard
      ⟨"trend", .trendChart (trendField t) date, some (.ofFields t.name [trendField t])⟩
  | master : Panel.Of s t .masterDetail
      ⟨"master", .masterList (leadColumns t), some (.ofFields t.name (leadColumns t))⟩
  | tabs (tabs : List Tab) : Panel.Of s t .masterDetail ⟨"tabs", .detailTabs tabs, none⟩

section Panels

variable {s : Schema} {t : Table} {kind : ViewKind} {panel : Panel}

theorem Panel.of_mem (h : panel ∈ panels s t kind) : Panel.Of s t kind panel := by
  cases kind with
  | list =>
    simp only [panels, listPanels, List.mem_append, List.mem_singleton] at h
    rcases h with (h | h) | rfl
    · split at h
      · cases h
      · obtain rfl := List.mem_singleton.1 h
        exact .search
    · split at h
      · cases h
      · obtain rfl := List.mem_singleton.1 h
        exact .filters
    · exact .rows _
  | detail =>
    simp only [panels, detailPanels, List.mem_append, List.mem_cons, List.not_mem_nil,
      or_false] at h
    rcases h with (rfl | rfl) | h
    · exact .header _ _
    · exact .info _ _
    · obtain ⟨i, hi, rfl⟩ := List.mem_mapIdx.1 h
      exact .related i _ _ (List.mem_of_mem_take (List.getElem_mem hi))
  | form =>
    simp only [panels, formPanels, List.mem_append, List.mem_map, List.mem_singleton] at h
    rcases h with ⟨c, hc, rfl⟩ | rfl
    · exact .field c _ (List.mem_filter.1 hc).1
    · exact .actions
  | dashboard =>
    simp only [panels, dashboardPanels, List.mem_cons, List.not_mem_nil, or_false] at h
    rcases h with rfl | rfl
    · exact .stats _
    · exact .trend _
  | masterDetail =>
    simp only [panels, masterDetailPanels, List.mem_cons, List.not_mem_nil, or_false] at h
    rcases h with rfl | rfl
    · exact .master
    · exact .tabs _

end Panels

/-! ### What parts are bound to -/

/-- A part takes its data from columns of the table, or, as a section, from the table at the other
end of a relationship, tied by the own column in the first relationship with it.  A curve goes by
the count just if there is nothing to add up.  A search box has at most three columns, and there are
at most four filters. -/
structure Part.Bound (s : Schema) (t : Table) (v : Suggestion) (p : Part) : Prop where
  own : p.type ≠ .relatedSection → ∀ b, p.binding = some b → b.source = t.name
  columns : p.type ≠ .relatedSection → ∀ b, p.binding = some b → ∀ field ∈ b.fields,
    t.HasColumn field ∨
      p.type = .trendChart ∧ field = "count" ∧ ∀ c ∈ t.columns, ¬ c.IsMeasure
  trend : p.type = .trendChart → ∃ field, p.binding = some (.ofFields t.name [field]) ∧
    ((∀ c ∈ t.columns, ¬ c.IsMeasure) → field = "count") ∧
    ((∃ c ∈ t.columns, c.IsMeasure) → ∃ c ∈ t.columns, c.IsMeasure ∧ c.name = field)
  related : p.type = .relatedSection → ∃ b column, p.binding = some b ∧
    b.relation = some column ∧ FirstOf (·.Joins t.name) s.relationships b.source column
  search : p.type = .searchBar → ∃ b q columns, p.binding = some b ∧ b.fields.length ≤ 3 ∧
    v.partsOf .dataTable = [q] ∧ q.props.member? "columns" = some (.texts columns) ∧
    b.fields <+: columns
  filters : p.type = .filterPanel → ∃ b, p.binding = some b ∧ b.fields.length ≤ 4

section Bound

variable {s : Schema} {t : Table} {kind : ViewKind} {panel : Panel}

/-- The column of the curve is one that is added up, if there is any. -/
theorem trendField_cases (t : Table) :
    (trendField t = "count" ∧ ∀ c ∈ t.columns, ¬ c.IsMeasure) ∨
      ∃ c ∈ t.columns, c.IsMeasure ∧ c.name = trendField t := by
  unfold trendField
  cases hmetrics : metricColumns t with
  | nil =>
    refine .inl ⟨rfl, fun c hc hmeasure => ?_⟩
    have hmem := mem_metricColumns_iff.2 ⟨hc, hmeasure⟩
    rw [hmetrics] at hmem
    cases hmem
  | cons c cs =>
    have hmem : c ∈ metricColumns t := hmetrics ▸ List.mem_cons_self
    obtain ⟨hc, hmeasure⟩ := mem_metricColumns_iff.1 hmem
    exact .inr ⟨c, hc, hmeasure, rfl⟩

namespace Panel.Of

theorem source_eq (h : Panel.Of s t kind panel) (htype : panel.widget.type ≠ .relatedSection)
    {b : Binding} (hb : panel.binding = some b) : b.source = t.name := by
  cases h with
  | related => exact absurd rfl htype
  | _ => cases hb <;> rfl

theorem hasColumn (h : Panel.Of s t kind panel) (htype : panel.widget.type ≠ .relatedSection)
    {b : Binding} (hb : panel.binding = some b) {field : String} (hfield : field ∈ b.fields) :
    t.HasColumn field ∨ panel.widget.type = .trendChart ∧ field = "count" ∧
      ∀ c ∈ t.columns, ¬ c.IsMeasure := by
  cases h with
  | search =>
    cases hb
    exact .inl (hasColumn_of_mem_leadColumns ((isPrefix_searchColumns t).subset hfield))
  | filters =>
    cases hb
    exact .inl (hasColumn_of_mem_listFilters hfield)
  | rows =>
    cases hb
    exact .inl (hasColumn_of_mem_leadColumns hfield)
  | header => cases hb
  | info =>
    cases hb
    exact .inl (List.mem_map.1 hfield)
  | related => exact absurd rfl htype
  | field c f hc =>
    cases hb
    obtain rfl := List.mem_singleton.1 hfield
    exact .inl ⟨c, hc, rfl⟩
  | actions => cases hb
  | stats =>
    cases hb
    obtain ⟨c, hc, hname⟩ := List.mem_map.1 hfield
    exact .inl ⟨c, (mem_metricColumns_iff.1 hc).1, hname⟩
  | trend =>
    cases hb
    obtain rfl := List.mem_singleton.1 hfield
    rcases trendField_cases t with ⟨hcount, hnone⟩ | ⟨c, hc, -, hname⟩
    · exact .inr ⟨rfl, hcount, hnone⟩
    · exact .inl ⟨c, hc, hname⟩
  | master =>
    cases hb
    exact .inl (hasColumn_of_mem_leadColumns hfield)
  | tabs => cases hb

theorem bound (h : Panel.Of s t kind panel) :
    (panel.toPart t.name kind).Bound s t (viewOf s t kind) where
  own htype b hb := h.source_eq htype hb
  columns htype b hb field hfield := h.hasColumn htype hb hfield
  trend htype := by
    cases h with
    | trend =>
      refine ⟨_, rfl, fun hnone => ?_, ?_⟩
      · rcases trendField_cases t with ⟨hcount, -⟩ | ⟨c, hc, hmeasure, -⟩
        · exact hcount
        · exact absurd hmeasure (hnone c hc)
      · rintro ⟨c, hc, hmeasure⟩
        rcases trendField_cases t with ⟨-, hnone⟩ | hsome
        · exact absurd hmeasure (hnone c hc)
        · exact hsome
    | _ => cases htype
  related htype := by
    cases h with
    | related index other column linked =>
      exact ⟨_, column, rfl, rfl, firstOf_of_mem_linkedTables linked⟩
    | _ => cases htype
  search htype := by
    cases h with
    | search =>
      have hparts : (viewOf s t .list).partsOf .dataTable = _ := partsOf_viewOf s t .list .dataTable
      rw [panels, dataTable_listPanels] at hparts
      exact ⟨_, _, leadColumns t, rfl, List.length_take_le 3 _, hparts,
        (Json.member?_object ..).trans rfl, isPrefix_searchColumns t⟩
    | _ => cases htype
  filters htype := by
    cases h with
    | filters =>
      refine ⟨_, rfl, ?_⟩
      rw [Binding.ofFields, List.length_map]
      exact List.length_take_le 4 _
    | _ => cases htype

end Panel.Of

end Bound

/-- The parts of the views of a table are bound to columns of the table, and its related sections to
the tables around it. -/
theorem bound_of_mem_viewsOf {s : Schema} {t : Table} {v : Suggestion} {p : Part}
    (hv : v ∈ viewsOf s t) (hp : p ∈ v.parts) : p.Bound s t v := by
  obtain ⟨kind, -, rfl⟩ := mem_viewsOf hv
  obtain ⟨panel, hpanel, rfl⟩ := mem_parts_viewOf hp
  exact (Panel.of_mem hpanel).bound

/-- Users are tied to orders by the first of two relationships, and orders have nothing to add
up. -/
theorem bound_of_mem_viewsOf_orders :
    (∃ v ∈ viewsOf ordersSchema ordersTable, ∃ p ∈ v.parts, v.kind = .detail ∧
      p.binding = some (.related "users" "buyer") ∧ p.Bound ordersSchema ordersTable v) ∧
    ∃ v ∈ viewsOf ordersSchema ordersTable, ∃ p ∈ v.parts, v.kind = .dashboard ∧
      p.binding = some (.ofFields "orders" ["count"]) ∧ p.Bound ordersSchema ordersTable v := by
  have hdetail : viewOf ordersSchema ordersTable .detail ∈ viewsOf ordersSchema ordersTable :=
    List.mem_map_of_mem (by decide +kernel)
  have hdashboard : viewOf ordersSchema ordersTable .dashboard ∈ viewsOf ordersSchema ordersTable :=
    List.mem_map_of_mem (by decide +kernel)
  have husers : (relatedPanel 1 ("users", "buyer")).toPart "orders" .detail
      ∈ (viewOf ordersSchema ordersTable .detail).parts :=
    List.mem_map_of_mem (by decide +kernel)
  have htrend : Panel.toPart "orders" .dashboard
      ⟨"trend", .trendChart "count" (some "placed"), some (.ofFields "orders" ["count"])⟩
      ∈ (viewOf ordersSchema ordersTable .dashboard).parts :=
    List.mem_map_of_mem (by decide +kernel)
  exact ⟨⟨_, hdetail, _, husers, rfl, rfl, bound_of_mem_viewsOf hdetail husers⟩,
    _, hdashboard, _, htrend, rfl, rfl, bound_of_mem_viewsOf hdashboard htrend⟩

end Mockup
