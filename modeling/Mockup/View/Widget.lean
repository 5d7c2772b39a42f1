import Mockup.View.Basic
import Mockup.View.Field

/-!
# Widgets

What the suggested views are made of, before it becomes data.

* `Widget`: the parts of a view with their properties, each property of its own type;
* `Widget.type`, `Widget.props`: a widget as the type and the properties of a component;
* `Panel`: a widget with its place in the view and its data.
-/

namespace Mockup

/-- The filters: by a part of the text, by a truth value, or by a stretch of time. -/
inductive FilterKind where
  | text
  | boolean
  | dateRange
  deriving DecidableEq, Repr

def FilterKind.name : FilterKind → String
  | .text => "text"
  | .boolean => "boolean"
  | .dateRange => "date-range"

/-- The options of a select widget: fixed values, or the rows of another table, with the column
whose value is kept and the one that is shown. -/
inductive Options where
  | rows (source valueField labelField : String)
  | values (values : List String)
  deriving DecidableEq, Repr

def Options.toJson : Options → Json
  | .rows source valueField labelField =>
    .object [("source", .text source), ("valueField", .text valueField),
      ("labelField", .text labelField)]
  | .values vs => .object [("values", .texts vs)]

/-- A field of a form, with the value before anything is filled in. -/
structure FormField where
  label : String
  inputKind : InputKind
  required : Bool
  step : Option Float
  maxLength : Option Nat
  defaultValue : Option String
  options : Option Options
  deriving DecidableEq, Repr

/-- The member under a key, if there is a value for it. -/
def memberOf {α : Type} (key : String) (f : α → Json) : Option α → List (String × Json)
  | some a => [(key, f a)]
  | none => []

/-- The field as properties. -/
def FormField.props (f : FormField) : Json :=
  .object ([("label", .text f.label), ("fieldType", .text f.inputKind.name),
      ("required", .bool f.required)]
    ++ memberOf "step" .real f.step
    ++ memberOf "validation" (fun n => .object [("maxLength", .nat n)]) f.maxLength
    ++ memberOf "defaultValue" .text f.defaultValue
    ++ memberOf "options" Options.toJson f.options)

/-- A column on the card of a row, with its label and its declared type. -/
structure CardField where
  field : String
  label : String
  type : String
  deriving DecidableEq, Repr

/-- A tab beside the chosen row: a table, its label, and the column that ties its rows to the chosen
one. -/
structure Tab where
  table : String
  label : String
  foreignKey : String
  deriving DecidableEq, Repr

/-- The sum of a column, with its label. -/
structure Sum where
  label : String
  field : String
  deriving DecidableEq, Repr

/-- The parts of a view, each with its own properties. -/
inductive Widget where
  | searchBar (fields : List String)
  | filterPanel (filters : List (String × FilterKind))
  | dataTable (columns related : List String)
  | header (title : String) (titleField : Option String)
  | infoCard (fields : List CardField) (note : Option String)
  | relatedSection (title : String) (expanded : Bool)
  | formField (f : FormField)
  | formActions
  | statsGrid (sums : List Sum)
  | trendChart (valueField : String) (dateField : Option String)
  | masterList (columns : List String)
  | detailTabs (tabs : List Tab)
  deriving DecidableEq, Repr

namespace Widget

def type : Widget → PartKind
  | .searchBar _ => .searchBar
  | .filterPanel _ => .filterPanel
  | .dataTable _ _ => .dataTable
  | .header _ _ => .header
  | .infoCard _ _ => .infoCard
  | .relatedSection _ _ => .relatedSection
  | .formField _ => .formField
  | .formActions => .formActions
  | .statsGrid _ => .statsGrid
  | .trendChart _ _ => .trendChart
  | .masterList _ => .masterList
  | .detailTabs _ => .detailTabs

def props : Widget → Json
  | .searchBar fields =>
    .object [("placeholder", .text ("Search by " ++ ", ".intercalate fields)),
      ("fields", .texts fields)]
  | .filterPanel filters =>
    .object [("filters", .list (filters.map fun (field, kind) =>
      .object [("field", .text field), ("filterType", .text kind.name)]))]
  | .dataTable columns related =>
    .object [("columns", .texts columns), ("relatedColumns", .texts related),
      ("sortable", .bool true), ("pagination", .object [("pageSize", .nat 25)]),
      ("rowActions", .texts ["view", "edit", "delete"])]
  | .header title titleField =>
    .object [("title", .text title), ("titleField", .ofOption .text titleField),
      ("actions", .texts ["edit", "delete"])]
  | .infoCard fields note =>
    .object [("fields", .list (fields.map fun f =>
        .object [("field", .text f.field), ("label", .text f.label), ("type", .text f.type)])),
      ("note", .ofOption .text note)]
  | .relatedSection title expanded =>
    .object [("title", .text title), ("expanded", .bool expanded)]
  | .formField f => f.props
  | .formActions => .object [("submitLabel", .text "Save"), ("cancelLabel", .text "Cancel")]
  | .statsGrid sums =>
    .object [("stats", .list (
      .object [("label", .text "Total records"), ("aggregate", .text "count")]
        :: sums.map fun s => .object [("label", .text s.label), ("aggregate", .text "sum"),
          ("field", .text s.field)]))]
  | .trendChart valueField dateField =>
    .object [("chartType", .text "line"), ("valueField", .text valueField),
      ("dateField", .ofOption .text dateField)]
  | .masterList columns => .object [("columns", .texts columns)]
  | .detailTabs tabs =>
    .object [("tabs", .list (tabs.map fun t =>
      .object [("table", .text t.table), ("label", .text t.label),
        ("foreignKey", .text t.foreignKey)]))]

end Widget

/-- A widget, the name of its place within the view, and its data. -/
structure Panel where
  part : String
  widget : Widget
  binding : Option Binding
  deriving DecidableEq, Repr

end Mockup
