import Mockup.Decimal.Reading
import Mockup.Schema.Basic
import Mockup.Text.Words

/-!
# Form fields for declared types

The name of a declared type falls into one of a few classes; a class decides the family of the type
and, together with the column's name, the widget that edits it.

* `TypeClass`, `TypeClass.ofName`: the classes;
* `DataFamily`: the coarse families, with `Column.family`;
* `InputKind`: the widgets;
* `FieldChoice`, `Column.fieldChoice`: widget, step and greatest length for a column.
-/

namespace Mockup

/-- The classes of declared types, by the values that they hold. -/
inductive TypeClass where
  | integer
  | decimal
  | boolean
  | date
  | dateTime
  | time
  | json
  | image
  | binary
  | email
  | url
  | phone
  | longText
  | plain
  deriving DecidableEq, Repr

namespace TypeClass

/-- The names of the types of each class; every other name is plain. -/
def names : List (TypeClass × List String) :=
  [(.integer, ["int", "integer", "int2", "int4", "int8", "bigint", "smallint", "tinyint",
     "mediumint", "serial", "bigserial", "smallserial"]),
   (.decimal, ["decimal", "numeric", "float", "float4", "float8", "double", "real", "money"]),
   (.boolean, ["bool", "boolean", "bit"]),
   (.date, ["date"]),
   (.dateTime, ["datetime", "datetime2", "timestamp", "timestamptz"]),
   (.time, ["time", "timetz"]),
   (.json, ["json", "jsonb"]),
   (.image, ["image"]),
   (.binary, ["blob", "binary", "varbinary", "bytea", "file"]),
   (.email, ["email"]),
   (.url, ["url", "uri"]),
   (.phone, ["phone", "tel"]),
   (.longText, ["text", "longtext", "mediumtext", "tinytext", "clob"])]

/-- The class of the type of that name. -/
def ofName (name : String) : TypeClass :=
  match names.find? (·.2.contains name) with
  | some (c, _) => c
  | none => .plain

end TypeClass

/-- The coarse families of declared types; `other` has structured data, images and files. -/
inductive DataFamily where
  | string
  | numeric
  | boolean
  | date
  | other
  deriving DecidableEq, Repr

namespace DataFamily

def name : DataFamily → String
  | .string => "string"
  | .numeric => "numeric"
  | .boolean => "boolean"
  | .date => "date"
  | .other => "other"

end DataFamily

/-- The family of a class. -/
def TypeClass.family : TypeClass → DataFamily
  | .integer | .decimal => .numeric
  | .boolean => .boolean
  | .date | .dateTime | .time => .date
  | .json | .image | .binary => .other
  | .email | .url | .phone | .longText | .plain => .string

/-- The widgets of a form. -/
inductive InputKind where
  | textInput
  | textArea
  | numberInput
  | switch
  | datePicker
  | dateTimePicker
  | timePicker
  | emailInput
  | urlInput
  | phoneInput
  | imageUpload
  | fileUpload
  | jsonEditor
  | select
  deriving DecidableEq, Repr

namespace InputKind

def name : InputKind → String
  | .textInput => "text-input"
  | .textArea => "text-area"
  | .numberInput => "number-input"
  | .switch => "switch"
  | .datePicker => "date-picker"
  | .dateTimePicker => "date-time-picker"
  | .timePicker => "time-picker"
  | .emailInput => "email-input"
  | .urlInput => "url-input"
  | .phoneInput => "phone-input"
  | .imageUpload => "image-upload"
  | .fileUpload => "file-upload"
  | .jsonEditor => "json-editor"
  | .select => "select"

/-- The widget that a column's name calls for, if its type leaves that open. -/
def ofColumnName? (name : String) : Option InputKind :=
  let name := Text.lower name
  if Text.containsAny name ["email"] then some .emailInput
  else if Text.hasEnding name "url" || Text.containsAny name ["website", "link"] then some .urlInput
  else if Text.containsAny name ["phone", "mobile"] then some .phoneInput
  else if Text.containsAny name ["image", "avatar", "photo", "logo", "thumbnail"] then
    some .imageUpload
  else if Text.containsAny name ["attachment", "document"] || Text.hasEnding name "file" then
    some .fileUpload
  else none

/-- The widget for a class of types and a column of that name. -/
def ofClass (c : TypeClass) (columnName : String) : InputKind :=
  match c with
  | .integer | .decimal => .numberInput
  | .boolean => .switch
  | .date => .datePicker
  | .dateTime => .dateTimePicker
  | .time => .timePicker
  | .json => .jsonEditor
  | .image => .imageUpload
  | .binary => .fileUpload
  | .email => .emailInput
  | .url => .urlInput
  | .phone => .phoneInput
  | .longText => (ofColumnName? columnName).getD .textArea
  | .plain => (ofColumnName? columnName).getD .textInput

end InputKind

/-- The widget for a column, the family of its type, the step between numbers, and the greatest
length of a text. -/
structure FieldChoice where
  inputKind : InputKind
  family : DataFamily
  step : Option Float
  maxLength : Option Nat
  deriving DecidableEq, Repr

namespace Column

def typeClass (c : Column) : TypeClass :=
  .ofName c.typeName

def family (c : Column) : DataFamily :=
  c.typeClass.family

def isNumeric (c : Column) : Bool :=
  c.family == .numeric

/-- The column holds days or times. -/
def isTemporal (c : Column) : Bool :=
  c.family == .date

/-- The widget of the column: a column that refers to another one is chosen from a list. -/
def inputKind (c : Column) : InputKind :=
  if c.references.isSome then .select else .ofClass c.typeClass c.name

/-- The step between the numbers of a number widget. -/
def step (c : Column) : Option Float :=
  if c.inputKind = .numberInput then
    some (if c.typeClass = .decimal then 0.01 else 1.0)
  else none

/-- The greatest length of a text, which the only argument of its type gives. -/
def maxLength (c : Column) : Option Nat :=
  if c.family = .string ∧ c.typeClass ≠ .longText then
    match c.typeParameters with
    | [n] => Decimal.natural? UInt32.size n
    | _ => none
  else none

def fieldChoice (c : Column) : FieldChoice :=
  { inputKind := c.inputKind, family := c.family, step := c.step, maxLength := c.maxLength }

end Column

end Mockup
