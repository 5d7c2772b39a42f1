import Mockup.Text.Blank
import Mockup.Text.Case
import Mockup.Text.Lines

/-!
# Database schemas

* `Schema`: tables, relationships and enumerations, in the order of their declaration;
* `Column.typeName`, `Column.typeParameters`: the two parts of a declared type such as
  `decimal(10,2)`;
* `Cardinality`: the number of rows that a relationship joins, with its `symbol`;
* `Schema.table?`, `Schema.enum?`, `Schema.relationshipsOf`: look-ups, in which the first
  declaration of a name counts.
-/

namespace Mockup

/-- A column of a table, by names. -/
structure ColumnRef where
  table : String
  column : String
  deriving DecidableEq, Repr

/-- A column as declared.  The type is as written, with its arguments; the default value has no
quotes; the constraints and settings are as written, in order. -/
structure Column where
  name : String
  dataType : String
  primaryKey : Bool := false
  notNull : Bool := false
  unique : Bool := false
  defaultValue : Option String := none
  references : Option ColumnRef := none
  note : Option String := none
  constraints : List String := []
  deriving DecidableEq, Repr

namespace Column

/-- The type's name without arguments, in small letters. -/
def typeName (c : Column) : String :=
  Text.lower (String.ofList (Text.trimmed (c.dataType.toList.takeWhile (· ≠ '('))))

/-- The text of the arguments of a type: from the first opening parenthesis to the last closing one,
or to the end of a text without any closing one. -/
def argumentText (cs : List Char) : List Char :=
  let inner := (cs.dropWhile (· ≠ '(')).tail
  if ')' ∈ inner then (inner.reverse.dropWhile (· ≠ ')')).tail.reverse
  else if ')' ∈ cs then []
  else inner

/-- The arguments of the type, in order; empty ones are left out. -/
def typeParameters (c : Column) : List String :=
  (((Text.pieces ',' (argumentText c.dataType.toList)).map Text.trimmed).filter (!·.isEmpty)).map
    String.ofList

/-- A form has to ask for a value. -/
def needsValue (c : Column) : Bool :=
  c.notNull || c.primaryKey

end Column

/-- An index of a table: its columns or expressions, and its settings as written. -/
structure Index where
  columns : List String
  settings : List String
  deriving DecidableEq, Repr

/-- A table as declared, its columns and indexes in order. -/
structure Table where
  name : String
  shortName : Option String := none
  columns : List Column := []
  indexes : List Index := []
  note : Option String := none
  deriving DecidableEq, Repr

namespace Table

def column? (t : Table) (name : String) : Option Column :=
  t.columns.find? (·.name == name)

def primaryKey? (t : Table) : Option Column :=
  t.columns.find? (·.primaryKey)

end Table

/-- The number of rows on each side of a relationship, read from the left. -/
inductive Cardinality where
  | oneToOne
  | oneToMany
  | manyToOne
  | manyToMany
  deriving DecidableEq, Repr

namespace Cardinality

def all : List Cardinality :=
  [.oneToOne, .oneToMany, .manyToOne, .manyToMany]

def name : Cardinality → String
  | .oneToOne => "one-to-one"
  | .oneToMany => "one-to-many"
  | .manyToOne => "many-to-one"
  | .manyToMany => "many-to-many"

/-- The sign that stands between the two ends of a reference. -/
def symbol : Cardinality → String
  | .oneToOne => "-"
  | .oneToMany => "<"
  | .manyToOne => ">"
  | .manyToMany => "<>"

/-- The cardinality that a sign stands for. -/
def ofSymbol? (sign : String) : Option Cardinality :=
  all.find? (·.symbol == sign)

theorem ofSymbol?_symbol (c : Cardinality) : ofSymbol? c.symbol = some c := by
  cases c <;> decide

end Cardinality

/-- A relationship between two columns; the cardinality is read from the source to the target. -/
structure Relationship where
  kind : Cardinality
  source : ColumnRef
  target : ColumnRef
  deriving DecidableEq, Repr

namespace Relationship

/-- The table is at one of the ends. -/
def involves (r : Relationship) (table : String) : Bool :=
  r.source.table == table || r.target.table == table

/-- The table at the other end, seen from `table`. -/
def opposite? (r : Relationship) (table : String) : Option String :=
  if r.source.table = table then some r.target.table
  else if r.target.table = table then some r.source.table
  else none

end Relationship

/-- A type whose values are listed, in order and with repeats. -/
structure Enumeration where
  name : String
  values : List String
  deriving DecidableEq, Repr

/-- The declarations of a schema text, each kind in order, and each relationship once. -/
structure Schema where
  tables : List Table := []
  relationships : List Relationship := []
  enums : List Enumeration := []
  deriving DecidableEq, Repr

namespace Schema

def table? (s : Schema) (name : String) : Option Table :=
  s.tables.find? (·.name == name)

def enum? (s : Schema) (name : String) : Option Enumeration :=
  s.enums.find? (·.name == name)

/-- The relationships with the table at one of their ends. -/
def relationshipsOf (s : Schema) (table : String) : List Relationship :=
  s.relationships.filter (·.involves table)

/-- Adds a relationship, unless it is there. -/
def addRelationship (s : Schema) (r : Relationship) : Schema :=
  if r ∈ s.relationships then s else { s with relationships := s.relationships ++ [r] }

def addRelationships (s : Schema) (rs : List Relationship) : Schema :=
  rs.foldl addRelationship s

end Schema

end Mockup
