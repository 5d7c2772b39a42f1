import Mockup.Artifact.Assemble

/-!
# The store

Finished mockups are kept under names that nobody chooses and can be changed piece by piece.

* `StoreId`: the name of an item, with `StoreId.text`;
* `StoredMockup`: an item;
* `Patch`: changes to an item, with `Patch.apply`;
* `Store`: all items, with `Store.get?`, `Store.create` and `Store.update`.
-/

namespace Mockup

/-- The name of an item, a number of 128 bits. -/
structure StoreId where
  value : Nat
  deriving DecidableEq, Repr

/-- The hexadecimal digits of a number, least one last. -/
def hexDigits : Nat → Nat → List Char
  | 0, _ => []
  | count + 1, n => hexDigits count (n / 16) ++ [Nat.digitChar (n % 16)]

/-- The number in hexadecimal digits, in groups of 8, 4, 4, 4 and 12. -/
def StoreId.text (id : StoreId) : String :=
  let digits := hexDigits 32 id.value
  let group (start count : Nat) := String.ofList ((digits.drop start).take count)
  "-".intercalate [group 0 8, group 8 4, group 12 4, group 16 4, group 20 12]

/-- The publication states of a mockup. -/
inductive Status where
  | draft
  | published
  | archived
  deriving DecidableEq, Repr

/-- An item of the store.  Its version starts at one; times are nanoseconds since the start of 1970.
-/
structure StoredMockup where
  id : StoreId
  name : String
  description : String
  status : Status
  tags : List String
  artifact : Artifact
  version : Nat
  createdAt : Nat
  updatedAt : Nat
  deriving DecidableEq, Repr

/-- Changes to an item. -/
structure Patch where
  name : Option String := none
  description : Option String := none
  status : Option Status := none
  tags : Option (List String) := none
  deriving DecidableEq, Repr

namespace Patch

/-- The patch changes nothing. -/
def isEmpty (p : Patch) : Bool :=
  p.name.isNone && p.description.isNone && p.status.isNone && p.tags.isNone

/-- The item with the changes made, as its next version. -/
def apply (p : Patch) (now : Nat) (item : StoredMockup) : StoredMockup :=
  { item with
    name := p.name.getD item.name
    description := p.description.getD item.description
    status := p.status.getD item.status
    tags := p.tags.getD item.tags
    artifact := { item.artifact with
      name := p.name.getD item.artifact.name
      description := p.description.getD item.artifact.description }
    version := item.version + 1
    updatedAt := now }

end Patch

/-- The refusals of the store. -/
inductive StoreFault where
  | notFound (id : StoreId)
  | emptyPatch
  | blankName
  deriving DecidableEq, Repr

def StoreFault.message : StoreFault → String
  | .notFound id => "item " ++ id.text ++ " not found"
  | .emptyPatch => "invalid patch: patch changes nothing"
  | .blankName => "invalid patch: name must not be empty"

/-- The items of a store, in the order in which they were put in. -/
structure Store where
  items : List StoredMockup := []
  deriving DecidableEq, Repr

namespace Store

def size (s : Store) : Nat :=
  s.items.length

def get? (s : Store) (id : StoreId) : Option StoredMockup :=
  s.items.find? (·.id == id)

/-- Puts an item in, in place of one of the same name. -/
def insert (s : Store) (item : StoredMockup) : Store :=
  ⟨s.items.filter (·.id ≠ item.id) ++ [item]⟩

/-- Puts a mockup in under a name. -/
def create (s : Store) (id : StoreId) (now : Nat) (artifact : Artifact) (tags : List String) :
    Store × StoredMockup :=
  let item :=
    { id, name := artifact.name, description := artifact.description, status := .draft, tags,
      artifact, version := 1, createdAt := now, updatedAt := now }
  (s.insert item, item)

/-- Refuses a patch that changes nothing, or to a blank name. -/
def checkPatch (p : Patch) : Except StoreFault Unit :=
  if p.isEmpty then .error .emptyPatch
  else if p.name.any isBlankText then .error .blankName
  else .ok ()

/-- Changes an item. -/
def update (s : Store) (id : StoreId) (now : Nat) (p : Patch) :
    Except StoreFault (Store × StoredMockup) := do
  checkPatch p
  match s.get? id with
  | none => .error (.notFound id)
  | some item =>
    return (⟨s.items.map fun i => if i.id = id then p.apply now i else i⟩, p.apply now item)

end Store

end Mockup
