import Mockup.Json.Record
import Mockup.View.Basic

/-!
# Suggested views as data

* `Suggestion.toJson`, `Suggestion.reader`: a suggested view as a data value, and back; likewise for
  its parts.
-/

namespace Mockup

open Json (Reader record)

namespace Binding

def toJson (b : Binding) : Json :=
  .object [("source", .text b.source), ("fields", .texts b.fields),
    ("relation", .ofOption .text b.relation)]

def reader : Reader Binding :=
  record "Binding" ["source", "fields", "relation"] fun src =>
    Binding.mk <$> src.required "source" .text <*> src.required "fields" (.list .text)
      <*> src.optional "relation" .text

end Binding

namespace Part

def toJson (c : Part) : Json :=
  .object [("id", .text c.id), ("type", .text c.type.name), ("props", c.props),
    ("data_binding", .ofOption Binding.toJson c.binding)]

def reader : Reader Part :=
  record "Part" ["id", "type", "props", "data_binding"] fun src =>
    Part.mk <$> src.required "id" .text
      <*> src.required "type" (.variant PartKind.names) <*> src.required "props" .any
      <*> src.optional "data_binding" Binding.reader

end Part

namespace Layout

def toJson (l : Layout) : Json :=
  .object [("kind", .text l.kind.name), ("columns", .nat l.columns)]

def reader : Reader Layout :=
  record "Layout" ["kind", "columns"] fun src =>
    Layout.mk <$> src.required "kind" (.variant Arrangement.names)
      <*> src.required "columns" (.word 8 "u8")

end Layout

namespace Suggestion

def toJson (s : Suggestion) : Json :=
  .object [("table", .text s.table), ("view_kind", .text s.kind.name), ("name", .text s.name),
    ("description", .text s.description),
    ("components", .list (s.parts.map Part.toJson)), ("layout", s.layout.toJson)]

def reader : Reader Suggestion :=
  record "Suggestion" ["table", "view_kind", "name", "description", "components",
      "layout"] fun src =>
    Suggestion.mk <$> src.required "table" .text
      <*> src.required "view_kind" (.variant ViewKind.names) <*> src.required "name" .text
      <*> src.required "description" .text
      <*> src.required "components" (.list Part.reader)
      <*> src.required "layout" Layout.reader

end Suggestion

end Mockup
