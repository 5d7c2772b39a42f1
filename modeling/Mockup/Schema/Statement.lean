import Mockup.Schema.Token

/-!
# Statements of a schema text

The statements that the parser reads, and the schema that they make.

* `Reference`: two columns and the cardinality between them;
* `TableItem`: the items of a table, with `Table.ofItems`;
* `Statement`: the statements at the top level, with `Schema.ofStatements`.
-/

namespace Mockup.Schema

/-- The items of a table: notes, which may lack a text, indexes, and columns with the references in
their settings. -/
inductive TableItem where
  | note (text : Option String)
  | indexes (entries : List Index)
  | column (c : Column) (refs : List (Cardinality × ColumnRef))
  deriving DecidableEq, Repr

/-- The table with one more item: a later note or list of indexes takes the place of an earlier
one. -/
def addItem (t : Table) : TableItem → Table
  | .note text => { t with note := text }
  | .indexes entries => { t with indexes := entries }
  | .column c _ => { t with columns := t.columns ++ [c] }

/-- The relationships that an item of a table declares. -/
def itemRelationships (table : String) : TableItem → List Relationship
  | .column c refs => refs.map fun (kind, target) => ⟨kind, ⟨table, c.name⟩, target⟩
  | _ => []

/-- The statements at the top level. -/
inductive Statement where
  | table (name : String) (shortName : Option String) (items : List TableItem)
  | refs (rs : List Relationship)
  | enum (e : Enumeration)
  | other
  deriving DecidableEq, Repr

/-- The table that a table statement declares. -/
def tableOf (name : String) (shortName : Option String) (items : List TableItem) : Table :=
  items.foldl addItem { name, shortName }

/-- Adds what a statement declares to a schema. -/
def declare (s : Schema) : Statement → Schema
  | .table name shortName items =>
    let s := s.addRelationships (items.flatMap (itemRelationships name))
    { s with tables := s.tables ++ [tableOf name shortName items] }
  | .refs rs => s.addRelationships rs
  | .enum e => { s with enums := s.enums ++ [e] }
  | .other => s

/-- The schema that statements declare. -/
def ofStatements (statements : List Statement) : Schema :=
  statements.foldl declare {}

end Mockup.Schema
