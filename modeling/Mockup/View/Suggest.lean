import Mockup.View.Widget

/-!
# Suggesting views

The views of a table follow from its columns and from the relationships that touch it.

* `leadColumns`: the columns that stand for a row;
* `linkedTables`, `detailLinks`: the tables that belong to a table;
* `listPanels`, `detailPanels`, `formPanels`, `dashboardPanels`, `masterDetailPanels`: the panels of
  each kind of view;
* `viewKinds`: the kinds of views of a table, in order;
* `suggest`: the views of all tables of a schema.
-/

namespace Mockup

/-! ### Columns that stand for a row -/

/-- The names of columns that people look for first, in order. -/
def preferredNames : List String :=
  ["name", "title", "description", "email", "status", "created_at"]

/-- The place of a name among the preferred ones; all other names share the place after them. -/
def nameRank (name : String) : Nat :=
  preferredNames.idxOf name

/-- The order of names: by rank, then alphabetical. -/
def comesFirst (a b : String) : Bool :=
  nameRank a < nameRank b || (nameRank a == nameRank b && !(b < a : Bool))

/-- The names with the preferred ones first, in the order of preference, and then in alphabetical
order. -/
def arrange (names : List String) : List String :=
  names.mergeSort comesFirst

/-- The columns that stand for a row: at most six. -/
def leadColumns (t : Table) : List String :=
  (arrange (t.columns.map (·.name))).take 6

/-! ### Related tables -/

/-- Keeps the first entry for each key. -/
def firstPerKey (entries : List (String × String)) : List (String × String) :=
  entries.foldl (fun kept e => if kept.any (·.1 == e.1) then kept else kept ++ [e]) []

/-- The other end of a relationship and the table's own column in it, if the relationship touches
the table. -/
def relatedEnd? (table : String) (r : Relationship) : Option (String × String) :=
  (r.opposite? table).map fun other =>
    (other, if r.source.table = table then r.source.column else r.target.column)

/-- The tables at the other ends of the relationships that touch a table, each with the table's own
column in the first of them. -/
def linkedTables (relationships : List Relationship) (table : String) : List (String × String) :=
  firstPerKey (relationships.filterMap (relatedEnd? table))

/-- The target of a relationship that leads away from the table to one or many rows, and the column
that holds the key. -/
def detailEnd? (table : String) (r : Relationship) : Option (String × String) :=
  if r.source.table = table then
    match r.kind with
    | .manyToOne => some (r.target.table, r.source.column)
    | .oneToMany => some (r.target.table, r.target.column)
    | .oneToOne | .manyToMany => none
  else none

/-- The tables whose rows are shown beside a row of the table, with the columns that tie them. -/
def detailLinks (relationships : List Relationship) (table : String) : List (String × String) :=
  firstPerKey (relationships.filterMap (detailEnd? table))

/-! ### The parts of the views -/

/-- The filter for a column, if there is one for its family. -/
def filterOf? (c : Column) : Option (String × FilterKind) :=
  match c.family with
  | .string => some (c.name, .text)
  | .boolean => some (c.name, .boolean)
  | .date => some (c.name, .dateRange)
  | .numeric | .other => none

/-- The columns that the search box of a list looks into. -/
def searchColumns (t : Table) : List String :=
  (leadColumns t).take 3

def listFilters (t : Table) : List (String × FilterKind) :=
  (t.columns.filterMap filterOf?).take 4

/-- The parts of a list. -/
def listPanels (s : Schema) (t : Table) : List Panel :=
  let search := searchColumns t
  let filters := listFilters t
  let display := leadColumns t
  (if search.isEmpty then []
    else [⟨"search", .searchBar search, some (.ofFields t.name search)⟩])
  ++ (if filters.isEmpty then []
    else [⟨"filters", .filterPanel filters, some (.ofFields t.name (filters.map (·.1)))⟩])
  ++ [⟨"table", .dataTable display ((linkedTables s.relationships t.name).map (·.1)),
      some (.ofFields t.name display)⟩]

/-- The section of a detail view for a related table; only the first one is open. -/
def relatedPanel (index : Nat) (related : String × String) : Panel :=
  ⟨"related-" ++ related.1, .relatedSection (Text.heading related.1) (index == 0),
    some (.related related.1 related.2)⟩

/-- The parts of a detail view. -/
def detailPanels (s : Schema) (t : Table) : List Panel :=
  [⟨"header", .header (Text.heading t.name ++ " details") (leadColumns t).head?, none⟩,
   ⟨"info", .infoCard (t.columns.map fun c => ⟨c.name, Text.heading c.name, c.dataType⟩) t.note,
    some (.ofFields t.name (t.columns.map (·.name)))⟩]
  ++ ((linkedTables s.relationships t.name).take 3).mapIdx relatedPanel

/-- The enumeration that the type of a column names, up to the case of the letters A to Z. -/
def enumOf? (s : Schema) (c : Column) : Option Enumeration :=
  s.enums.find? fun e => Text.sameIgnoringCase e.name c.typeName

/-- The options for a column: the rows that it refers to come before the values of its type. -/
def optionsOf? (s : Schema) (c : Column) : Option Options :=
  match c.references with
  | some target =>
    let label := (s.table? target.table).bind fun t => (leadColumns t).head?
    some (.rows target.table target.column (label.getD target.column))
  | none => (enumOf? s c).map fun e => .values e.values

/-- The field of a form for a column. -/
def formFieldOf (s : Schema) (c : Column) : FormField :=
  { label := Text.heading c.name
    inputKind := if (enumOf? s c).isSome then .select else c.inputKind
    required := c.needsValue
    step := c.step
    maxLength := c.maxLength
    defaultValue := c.defaultValue
    options := optionsOf? s c }

/-- The columns that a form asks for. -/
def formColumns (t : Table) : List Column :=
  t.columns.filter (!·.primaryKey)

/-- The parts of a form. -/
def formPanels (s : Schema) (t : Table) : List Panel :=
  (formColumns t).map (fun c =>
    ⟨"field-" ++ c.name, .formField (formFieldOf s c), some (.ofFields t.name [c.name])⟩)
  ++ [⟨"actions", .formActions, none⟩]

/-- The columns that a dashboard adds up. -/
def metricColumns (t : Table) : List Column :=
  t.columns.filter fun c => c.isNumeric && !c.primaryKey && c.references.isNone

/-- The parts of a dashboard. -/
def dashboardPanels (t : Table) : List Panel :=
  let metrics := metricColumns t
  let value := (metrics.head?.map (·.name)).getD "count"
  let sums := (metrics.take 3).map fun c =>
    ⟨"Total " ++ Text.lower (Text.heading c.name), c.name⟩
  [⟨"stats", .statsGrid sums, some (.ofFields t.name (metrics.map (·.name)))⟩,
   ⟨"trend", .trendChart value ((t.columns.find? (·.isTemporal)).map (·.name)),
    some (.ofFields t.name [value])⟩]

/-- The parts of a master-detail view. -/
def masterDetailPanels (s : Schema) (t : Table) : List Panel :=
  let display := leadColumns t
  let tabs := (detailLinks s.relationships t.name).map fun (table, key) =>
    ⟨table, Text.heading table, key⟩
  [⟨"master", .masterList display, some (.ofFields t.name display)⟩,
   ⟨"tabs", .detailTabs tabs, none⟩]

def panels (s : Schema) (t : Table) : ViewKind → List Panel
  | .list => listPanels s t
  | .detail => detailPanels s t
  | .form => formPanels s t
  | .dashboard => dashboardPanels t
  | .masterDetail => masterDetailPanels s t

/-! ### The views -/

def layoutOf (t : Table) : ViewKind → Layout
  | .list => ⟨.stack, 1⟩
  | .detail => ⟨.grid, 2⟩
  | .form => ⟨.grid, if 6 < (formColumns t).length then 2 else 1⟩
  | .dashboard => ⟨.grid, 2⟩
  | .masterDetail => ⟨.split, 2⟩

/-- The description of a view, in a sentence. -/
def describeView (t : Table) : ViewKind → String
  | .list => "Browse, search and filter " ++ t.name ++ " records"
  | .detail => "Show a single " ++ t.name ++ " record with its related data"
  | .form => "Create or edit a " ++ t.name ++ " record"
  | .dashboard => "Key metrics and trends for " ++ t.name
  | .masterDetail => Text.heading t.name ++ " alongside their related records"

/-- The name of a component within all views. -/
def partId (table : String) (kind : ViewKind) (part : String) : String :=
  Text.slug table ++ "-" ++ kind.name ++ "-" ++ Text.slug part

def viewName (table : String) (kind : ViewKind) : String :=
  Text.pascalCase table ++ kind.suffix

/-- The component that a panel becomes in a view of a table. -/
def Panel.toPart (table : String) (kind : ViewKind) (p : Panel) : Part :=
  { id := partId table kind p.part, type := p.widget.type, props := p.widget.props,
    binding := p.binding }

/-- A view of a table. -/
def viewOf (s : Schema) (t : Table) (kind : ViewKind) : Suggestion :=
  { table := t.name, kind, name := viewName t.name kind, description := describeView t kind,
    parts := (panels s t kind).map (Panel.toPart t.name kind)
    layout := layoutOf t kind }

/-- A dashboard of the table has something to show. -/
def hasFigures (s : Schema) (t : Table) : Bool :=
  t.columns.any (fun c => c.isNumeric || c.isTemporal) || s.relationships.any (·.involves t.name)

/-- The kinds of views that a table has, in order. -/
def viewKinds (s : Schema) (t : Table) : List ViewKind :=
  [.list, .detail, .form]
  ++ (if hasFigures s t then [.dashboard] else [])
  ++ (if (detailLinks s.relationships t.name).isEmpty then [] else [.masterDetail])

def viewsOf (s : Schema) (t : Table) : List Suggestion :=
  (viewKinds s t).map (viewOf s t)

/-- The views of all tables of a schema, in the order of the tables. -/
def suggest (s : Schema) : List Suggestion :=
  s.tables.flatMap (viewsOf s)

end Mockup
