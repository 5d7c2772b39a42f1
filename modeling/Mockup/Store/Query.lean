import Mockup.Store.Basic
import Mockup.Text.Words

/-!
# Queries

* `Filters`: which items are wanted, with `Filters.holds`;
* `SortKey`, `Order`: in which order, with `Query.compare`;
* `Query`, `Page`: which part of them, and that part;
* `Store.query`: the answer.
-/

namespace Mockup

/-- Conditions on items: a part of the name up to case, a status, a tag, and a table of the schema.
-/
structure Filters where
  nameContains : Option String := none
  status : Option Status := none
  tag : Option String := none
  table : Option String := none
  deriving DecidableEq, Repr

/-- The item meets all conditions. -/
def Filters.holds (f : Filters) (item : StoredMockup) : Bool :=
  f.nameContains.all (fun part =>
    Text.occursIn (Text.lower part).toList (Text.lower item.name).toList)
  && f.status.all (item.status == ·)
  && f.tag.all (item.tags.contains ·)
  && f.table.all (item.artifact.tableNames.contains ·)

/-- The fields by which items are sorted. -/
inductive SortKey where
  | createdAt
  | updatedAt
  | name
  deriving DecidableEq, Repr

inductive Order where
  | rising
  | falling
  deriving DecidableEq, Repr

/-- Compares by the field, and by the names in the store if the fields are equal. -/
def SortKey.compare (field : SortKey) (a b : StoredMockup) : Ordering :=
  let first := match field with
    | .createdAt => Ord.compare a.createdAt b.createdAt
    | .updatedAt => Ord.compare a.updatedAt b.updatedAt
    | .name => Ord.compare a.name b.name
  first.then (Ord.compare a.id.value b.id.value)

/-- A query: conditions, order, and at most `limit` items after the first `offset` ones. -/
structure Query where
  filters : Filters := {}
  sort : SortKey := .createdAt
  order : Order := .falling
  limit : Nat := 20
  offset : Nat := 0
  deriving DecidableEq, Repr

/-- The first item may stand before the second one. -/
def Query.precedes (q : Query) (a b : StoredMockup) : Bool :=
  match q.order with
  | .rising => (q.sort.compare a b).isLE
  | .falling => (q.sort.compare b a).isLE

/-- A slice of the selected items, their number in all, and the offset of the next slice if there is
one. -/
structure Page where
  items : List StoredMockup
  total : Nat
  nextOffset : Option Nat
  deriving DecidableEq, Repr

def Page.hasMore (p : Page) : Bool :=
  p.nextOffset.isSome

namespace Store

/-- All items that meet the conditions, in order. -/
def select (s : Store) (q : Query) : List StoredMockup :=
  (s.items.filter q.filters.holds).mergeSort q.precedes

/-- The slice that is asked for. -/
def query (s : Store) (q : Query) : Page :=
  let found := s.select q
  let items := (found.drop q.offset).take q.limit
  let stop := q.offset + items.length
  { items, total := found.length, nextOffset := if stop < found.length then some stop else none }

end Store

end Mockup
