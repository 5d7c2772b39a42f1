import Mockup.Artifact.Codec
import Mockup.Store.Query
import Mockup.Text.Instant

/-!
# Items, patches and queries as data

* `Patch.reader`, `Query.reader`: a patch and a query out of data, where an absent field
  changes nothing or has its default;
* `StoredMockup.toJson`: an item as data.
-/

namespace Mockup

open Json (Reader record)

namespace Status

def name : Status → String
  | .draft => "draft"
  | .published => "published"
  | .archived => "archived"

def names : List (String × Status) :=
  [("draft", .draft), ("published", .published), ("archived", .archived)]

end Status

def Patch.reader : Reader Patch :=
  record "Patch" ["name", "description", "status", "tags"] fun src =>
    Patch.mk <$> src.defaulted "name" (.optional .text) none
      <*> src.defaulted "description" (.optional .text) none
      <*> src.defaulted "status" (.optional (.variant Status.names)) none
      <*> src.defaulted "tags" (.optional (.list .text)) none

def Filters.reader : Reader Filters :=
  record "Filters" ["name_contains", "status", "tag", "table"] fun src =>
    Filters.mk <$> src.defaulted "name_contains" (.optional .text) none
      <*> src.defaulted "status" (.optional (.variant Status.names)) none
      <*> src.defaulted "tag" (.optional .text) none
      <*> src.defaulted "table" (.optional .text) none

def SortKey.names : List (String × SortKey) :=
  [("created_at", .createdAt), ("updated_at", .updatedAt), ("name", .name)]

def Order.names : List (String × Order) :=
  [("asc", .rising), ("desc", .falling)]

def Query.reader : Reader Query :=
  let d : Query := {}
  record "Query" ["filters", "sort", "order", "limit", "offset"] fun src =>
    Query.mk <$> src.defaulted "filters" Filters.reader d.filters
      <*> src.defaulted "sort" (.variant SortKey.names) d.sort
      <*> src.defaulted "order" (.variant Order.names) d.order
      <*> src.defaulted "limit" .size d.limit
      <*> src.defaulted "offset" .size d.offset

namespace StoredMockup

/-- The members of a stored mockup as data, its name in the store and its times apart. -/
def members (m : StoredMockup) : List (String × Json) :=
  [("name", .text m.name), ("description", .text m.description), ("status", .text m.status.name),
   ("tags", .texts m.tags), ("version", .nat m.version), ("artifact", m.artifact.toJson)]

/-- The data with one more member, if it is an object. -/
def withText (key text : String) : Json → Json
  | .obj ms => .object ((key, .text text) :: ms)
  | v => v

/-- The stored mockup as data; times count nanoseconds since the start of 1970. -/
def toJson (m : StoredMockup) : Json :=
  let created := Text.instantText m.createdAt
  .object (m.members ++ [("id", .text m.id.text), ("created_at", .text created),
    ("updated_at", .text (Text.instantText m.updatedAt)),
    ("artifact", withText "generated_at" created m.artifact.toJson)])

end StoredMockup

end Mockup
