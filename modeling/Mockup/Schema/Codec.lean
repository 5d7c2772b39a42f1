import Mockup.Json.Record
import Mockup.Schema.Basic

/-!
# Schemas as data

* `Schema.toJson`, `Schema.reader`: a schema as a data value, and back; likewise for its parts.
-/

namespace Mockup

open Json (Reader record)

def Cardinality.names : List (String × Cardinality) :=
  Cardinality.all.map fun k => (k.name, k)

namespace ColumnRef

def toJson (r : ColumnRef) : Json :=
  .object [("table", .text r.table), ("column", .text r.column)]

def reader : Reader ColumnRef :=
  record "ColumnRef" ["table", "column"] fun src =>
    ColumnRef.mk <$> src.required "table" .text <*> src.required "column" .text

end ColumnRef

namespace Column

def toJson (c : Column) : Json :=
  .object [("name", .text c.name), ("data_type", .text c.dataType),
    ("primary_key", .bool c.primaryKey), ("not_null", .bool c.notNull), ("unique", .bool c.unique),
    ("default_value", .ofOption .text c.defaultValue),
    ("references", .ofOption ColumnRef.toJson c.references),
    ("note", .ofOption .text c.note), ("constraints", .texts c.constraints)]

def reader : Reader Column :=
  record "Column" ["name", "data_type", "primary_key", "not_null", "unique", "default_value",
      "references", "note", "constraints"] fun src =>
    Column.mk <$> src.required "name" .text <*> src.required "data_type" .text
      <*> src.required "primary_key" .bool <*> src.required "not_null" .bool
      <*> src.required "unique" .bool <*> src.optional "default_value" .text
      <*> src.optional "references" ColumnRef.reader <*> src.optional "note" .text
      <*> src.required "constraints" (.list .text)

end Column

namespace Index

def toJson (i : Index) : Json :=
  .object [("columns", .texts i.columns), ("settings", .texts i.settings)]

def reader : Reader Index :=
  record "Index" ["columns", "settings"] fun src =>
    Index.mk <$> src.required "columns" (.list .text) <*> src.required "settings" (.list .text)

end Index

namespace Table

def toJson (t : Table) : Json :=
  .object [("name", .text t.name), ("alias", .ofOption .text t.shortName),
    ("columns", .list (t.columns.map Column.toJson)),
    ("indexes", .list (t.indexes.map Index.toJson)), ("note", .ofOption .text t.note)]

def reader : Reader Table :=
  record "Table" ["name", "alias", "columns", "indexes", "note"] fun src =>
    Table.mk <$> src.required "name" .text <*> src.optional "alias" .text
      <*> src.required "columns" (.list Column.reader)
      <*> src.required "indexes" (.list Index.reader) <*> src.optional "note" .text

end Table

namespace Relationship

def toJson (r : Relationship) : Json :=
  .object [("kind", .text r.kind.name),
    ("from_table", .text r.source.table), ("from_column", .text r.source.column),
    ("to_table", .text r.target.table), ("to_column", .text r.target.column)]

def reader : Reader Relationship :=
  record "Relationship" ["kind", "from_table", "from_column", "to_table", "to_column"] fun src =>
    (fun kind fromTable fromColumn toTable toColumn =>
        ⟨kind, ⟨fromTable, fromColumn⟩, ⟨toTable, toColumn⟩⟩)
      <$> src.required "kind" (.variant Cardinality.names)
      <*> src.required "from_table" .text <*> src.required "from_column" .text
      <*> src.required "to_table" .text <*> src.required "to_column" .text

end Relationship

namespace Enumeration

def toJson (e : Enumeration) : Json :=
  .object [("name", .text e.name), ("values", .texts e.values)]

def reader : Reader Enumeration :=
  record "Enumeration" ["name", "values"] fun src =>
    Enumeration.mk <$> src.required "name" .text <*> src.required "values" (.list .text)

end Enumeration

namespace Schema

def toJson (s : Schema) : Json :=
  .object [("tables", .list (s.tables.map Table.toJson)),
    ("relationships", .list (s.relationships.map Relationship.toJson)),
    ("enums", .list (s.enums.map Enumeration.toJson))]

def reader : Reader Schema :=
  record "Schema" ["tables", "relationships", "enums"] fun src =>
    Schema.mk <$> src.required "tables" (.list Table.reader)
      <*> src.required "relationships" (.list Relationship.reader)
      <*> src.required "enums" (.list Enumeration.reader)

end Schema

end Mockup
