/-!
# Data values

The dynamic values that tasks carry and that workers hand back.

* `Json`: null, truth values, whole numbers, reals, texts, lists and objects;
* `Json.object`: an object with its members in key order, each key once;
* `Json.member?`: look-up of a member.
-/

namespace Mockup

/-- Data values.  Whole numbers and reals are different values: `1` is not `1.0`. -/
inductive Json where
  | null
  | bool (b : Bool)
  | int (n : Int)
  | real (x : Float)
  | text (s : String)
  | list (items : List Json)
  | obj (members : List (String × Json))
  deriving Repr, Inhabited, BEq

namespace Json

/-- Puts a member into members in key order; a key that is there gets the new value. -/
def insertMember (key : String) (value : Json) : List (String × Json) → List (String × Json)
  | [] => [(key, value)]
  | (k, v) :: rest =>
    if key < k then (key, value) :: (k, v) :: rest
    else if key = k then (key, value) :: rest
    else (k, v) :: insertMember key value rest

/-- The members in key order; of two with one key the later stays. -/
def sortMembers (members : List (String × Json)) : List (String × Json) :=
  members.foldl (fun sorted (key, value) => insertMember key value sorted) []

/-- The object with these members, in key order. -/
def object (members : List (String × Json)) : Json :=
  .obj (sortMembers members)

/-- The value under a key of an object. -/
def member? (key : String) : Json → Option Json
  | .obj members => members.lookup key
  | _ => none

def asText? : Json → Option String
  | .text s => some s
  | _ => none

def asList? : Json → Option (List Json)
  | .list items => some items
  | _ => none

/-- The absent value, or the value of what is there. -/
def ofOption {α : Type} (f : α → Json) : Option α → Json
  | none => .null
  | some a => f a

def texts (items : List String) : Json :=
  .list (items.map .text)

def nat (n : Nat) : Json :=
  .int n

end Json

end Mockup
