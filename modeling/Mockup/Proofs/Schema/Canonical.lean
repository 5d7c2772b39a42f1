import Mockup.Schema.Parser

/-!
# Schema texts in canonical form

A document is a list of tables that are written in one way only, one column on each line, with
settings in brackets.  Keywords are names like all others.

* `Name`, `Digits`, `PlainText`: the words of a document, with what they may be made of;
* `Setting`, `Column`, `Table`, `Document`: a document and its `text`;
* `Document.schema`: the schema of a document.
-/

namespace Mockup.Schema.Canonical

/-! ### Words -/

/-- The text is a bare name. -/
def isName (s : String) : Bool :=
  match s.toList with
  | [] => false
  | c :: cs => isNameStart c && cs.all isNameChar

/-- A bare name. -/
structure Name where
  text : String
  isName_text : isName text = true
  deriving DecidableEq

/-- A row of digits. -/
structure Digits where
  text : String
  text_ne_empty : text ≠ ""
  isDigit_of_mem : ∀ c ∈ text.toList, c.isDigit = true
  deriving DecidableEq

/-- A text that may stand between single quotes as it is. -/
structure PlainText where
  text : String
  plain : ∀ c ∈ text.toList, c ≠ '\'' ∧ c ≠ '\\'
  deriving DecidableEq

/-! ### Documents -/

/-- An argument of a type. -/
inductive Argument where
  | digits (d : Digits)
  | name (n : Name)
  deriving DecidableEq

/-- The argument as written. -/
def Argument.text : Argument → String
  | .digits d => d.text
  | .name n => n.text

/-- A setting of a column. -/
inductive Setting where
  | primaryKey
  | notNull
  | unique
  | default (value : PlainText)
  | note (content : PlainText)
  | ref (kind : Cardinality) (table column : Name)
  deriving DecidableEq

namespace Setting

/-- The setting as written. -/
def text : Setting → String
  | .primaryKey => "pk"
  | .notNull => "not null"
  | .unique => "unique"
  | .default value => "default: '" ++ value.text ++ "'"
  | .note content => "note: '" ++ content.text ++ "'"
  | .ref kind table column => "ref: " ++ kind.symbol ++ " " ++ table.text ++ "." ++ column.text

/-- The default value that the setting gives. -/
def default? : Setting → Option String
  | .default value => some value.text
  | _ => none

/-- The note that the setting gives. -/
def note? : Setting → Option String
  | .note content => some content.text
  | _ => none

/-- The reference of the column. -/
def reference? : Setting → Option (Cardinality × ColumnRef)
  | .ref kind table column => some (kind, ⟨table.text, column.text⟩)
  | _ => none

end Setting

/-- A column: its name, its type with any arguments, and any settings. -/
structure Column where
  name : Name
  typeName : Name
  arguments : Option (List Argument) := none
  settings : Option (List Setting) := none

namespace Column

/-- The arguments as written. -/
def argumentsText (c : Column) : String :=
  match c.arguments with
  | none => ""
  | some args => "(" ++ ",".intercalate (args.map Argument.text) ++ ")"

/-- The settings as written. -/
def settingsText (c : Column) : String :=
  match c.settings with
  | none => ""
  | some settings => " [" ++ ", ".intercalate (settings.map Setting.text) ++ "]"

/-- The line of the column. -/
def text (c : Column) : String :=
  "  " ++ c.name.text ++ " " ++ c.typeName.text ++ c.argumentsText ++ c.settingsText ++ "\n"

/-- The settings, none if there are no brackets. -/
def allSettings (c : Column) : List Setting :=
  c.settings.getD []

/-- The references in the settings. -/
def references (c : Column) : List (Cardinality × ColumnRef) :=
  c.allSettings.filterMap Setting.reference?

/-- The column that is declared: of default values, notes and references the last one counts. -/
def declared (c : Column) : Mockup.Column where
  name := c.name.text
  dataType := c.typeName.text ++ c.argumentsText
  primaryKey := .primaryKey ∈ c.allSettings
  notNull := .notNull ∈ c.allSettings
  unique := .unique ∈ c.allSettings
  defaultValue := (c.allSettings.filterMap Setting.default?).getLast?
  note := (c.allSettings.filterMap Setting.note?).getLast?
  references := (c.references.map Prod.snd).getLast?
  constraints := c.allSettings.map Setting.text

end Column

/-- A table. -/
structure Table where
  name : Name
  columns : List Column

namespace Table

/-- The lines of the table. -/
def text (t : Table) : String :=
  "Table " ++ t.name.text ++ " \x7b\n" ++ String.join (t.columns.map Column.text) ++ "\x7d\n"

/-- The table that is declared, without a second name, an index or a note. -/
def declared (t : Table) : Mockup.Table where
  name := t.name.text
  columns := t.columns.map Column.declared

/-- The relationships between the columns and those they refer to. -/
def relationships (t : Table) : List Relationship :=
  t.columns.flatMap fun c =>
    c.references.map fun (kind, target) => ⟨kind, ⟨t.name.text, c.name.text⟩, target⟩

end Table

/-- A document. -/
structure Document where
  tables : List Table

namespace Document

/-- The text of the document. -/
def text (d : Document) : String :=
  String.join (d.tables.map Table.text)

/-- The schema of the document: its tables in order, and each relationship once. -/
def schema (d : Document) : Schema where
  tables := d.tables.map Table.declared
  relationships := (d.tables.flatMap Table.relationships).eraseDups

end Document

end Mockup.Schema.Canonical
