import Mockup.Json.Basic
import Mockup.Text.Case
import Mockup.Text.Blank

/-!
# Suggested views

* `ViewKind`: list, detail, form, dashboard and master-detail, with their names;
* `Part`: a part of a view, with its properties as data;
* `Suggestion`: a view of a table.
-/

namespace Mockup

/-- The kinds of views: all rows of a table, one row, the form for a row, figures, and rows beside
those that belong to them. -/
inductive ViewKind where
  | list
  | detail
  | form
  | dashboard
  | masterDetail
  deriving DecidableEq, Repr

namespace ViewKind

def all : List ViewKind :=
  [.list, .detail, .form, .dashboard, .masterDetail]

def name : ViewKind → String
  | .list => "list"
  | .detail => "detail"
  | .form => "form"
  | .dashboard => "dashboard"
  | .masterDetail => "master-detail"

/-- The end of the names of components that show such a view. -/
def suffix : ViewKind → String
  | .list => "List"
  | .detail => "Detail"
  | .form => "Form"
  | .dashboard => "Dashboard"
  | .masterDetail => "MasterDetail"

def names : List (String × ViewKind) :=
  all.map fun k => (k.name, k)

/-- The kinds by what a user may write for them. -/
def spellings : List (String × ViewKind) :=
  names ++ [("master_detail", .masterDetail), ("masterdetail", .masterDetail)]

/-- The kind that a user means, whatever the case and the blanks around it. -/
def ofText? (s : String) : Option ViewKind :=
  spellings.lookup (Text.lower (Text.trim s))

/-- The text of the error for something that is no kind of view. -/
def unknownMessage (s : String) : String :=
  "Invalid view kind: " ++ s

theorem ofText?_name (k : ViewKind) : ofText? k.name = some k := by
  cases k <;> decide +kernel

end ViewKind

/-- The kinds of parts of a view. -/
inductive PartKind where
  | header
  | infoCard
  | relatedSection
  | searchBar
  | filterPanel
  | dataTable
  | formField
  | formActions
  | statsGrid
  | trendChart
  | masterList
  | detailTabs
  deriving DecidableEq, Repr

namespace PartKind

def all : List PartKind :=
  [.header, .infoCard, .relatedSection, .searchBar, .filterPanel, .dataTable, .formField,
   .formActions, .statsGrid, .trendChart, .masterList, .detailTabs]

def name : PartKind → String
  | .header => "header"
  | .infoCard => "info-card"
  | .relatedSection => "related-section"
  | .searchBar => "search-bar"
  | .filterPanel => "filter-panel"
  | .dataTable => "data-table"
  | .formField => "form-field"
  | .formActions => "form-actions"
  | .statsGrid => "stats-grid"
  | .trendChart => "trend-chart"
  | .masterList => "master-list"
  | .detailTabs => "detail-tabs"

def names : List (String × PartKind) :=
  all.map fun t => (t.name, t)

end PartKind

/-- The data of a part: a table with columns, or with the column that ties it to the view's own
table. -/
structure Binding where
  source : String
  fields : List String
  relation : Option String
  deriving DecidableEq, Repr

namespace Binding

/-- Columns of a table. -/
def ofFields (source : String) (fields : List String) : Binding :=
  ⟨source, fields, none⟩

/-- Another table, tied by a column. -/
def related (source relation : String) : Binding :=
  ⟨source, [], some relation⟩

end Binding

/-- A part of a view, with a name of its own within all views. -/
structure Part where
  id : String
  type : PartKind
  props : Json
  binding : Option Binding
  deriving BEq, Repr

/-- The layouts: one part below the other, in columns, or side by side. -/
inductive Arrangement where
  | stack
  | grid
  | split
  deriving DecidableEq, Repr

namespace Arrangement

def name : Arrangement → String
  | .stack => "stack"
  | .grid => "grid"
  | .split => "split"

/-- The name of the kind with a capital, as prompts give it. -/
def title : Arrangement → String
  | .stack => "Stack"
  | .grid => "Grid"
  | .split => "Split"

def names : List (String × Arrangement) :=
  [("stack", .stack), ("grid", .grid), ("split", .split)]

end Arrangement

structure Layout where
  kind : Arrangement
  columns : Nat
  deriving DecidableEq, Repr

/-- A view that is suggested for a table, its parts in order. -/
structure Suggestion where
  table : String
  kind : ViewKind
  name : String
  description : String
  parts : List Part
  layout : Layout
  deriving BEq, Repr

namespace Suggestion

/-- The parts of a type, in order. -/
def partsOf (s : Suggestion) (type : PartKind) : List Part :=
  s.parts.filter (·.type == type)

/-- The first part of a type. -/
def part? (s : Suggestion) (type : PartKind) : Option Part :=
  s.parts.find? (·.type == type)

end Suggestion

end Mockup
