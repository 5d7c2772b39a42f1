import Mockup.Text.Case
import Mockup.Text.Digits

/-!
# Settings

What a configuration says before it is clear what it means.  Keys do not tell small letters from
capital ones.

* `Setting`: a value of a configuration;
* `Setting.put`: sets a key of a table; tables are merged, all else is replaced;
* `Place`: the way to a setting, such as `a.b`, with `Place.ofText?`;
* `Setting.putAt`: sets what is at a place;
* `Setting.overlay`: lays the keys of one configuration over another.
-/

namespace Mockup

/-- A value of a configuration. -/
inductive Setting where
  | absent
  | bool (b : Bool)
  | int (n : Int)
  | real (x : Float)
  | text (s : String)
  | list (items : List Setting)
  | table (members : List (String × Setting))
  deriving Repr, Inhabited, BEq

namespace Setting

/-- The keys of a table with their values; nothing else has any. -/
def members : Setting → List (String × Setting)
  | .table ms => ms
  | _ => []

/-- The items of a list; nothing else has any. -/
def items : Setting → List Setting
  | .list vs => vs
  | _ => []

/-- The members with a new value for a key. -/
def withMember (key : String) (value : Setting) :
    List (String × Setting) → List (String × Setting)
  | [] => [(key, value)]
  | (k, v) :: rest =>
    if k = key then (key, value) :: rest else (k, v) :: withMember key value rest

mutual

/-- The table with a key set, whatever the case of its letters.  The keys of a table that is set are
set one by one. -/
def put (key : String) (value : Setting) (root : Setting) : Setting :=
  let key := Text.lower key
  match value with
  | .table incoming =>
    let target := (root.members.lookup key).getD (.table [])
    .table (withMember key (putAll incoming target) root.members)
  | v => .table (withMember key v root.members)

/-- The table with keys set one after the other. -/
def putAll (incoming : List (String × Setting)) (root : Setting) : Setting :=
  match incoming with
  | [] => root
  | (key, value) :: rest => putAll rest (put key value root)

end

end Setting

/-- One step on the way to a setting: a key, or an index, where negative numbers count from the end.
-/
inductive PlaceStep where
  | member (key : String)
  | item (index : Int)
  deriving DecidableEq, Repr

/-- The way to a setting. -/
abbrev Place := List PlaceStep

namespace Place

/-- The characters of keys, the space included. -/
def isKeyChar (c : Char) : Bool :=
  c.isAlphanum || c == '_' || c == '-' || c == ' '

/-- The number of an item, after its opening bracket: a number of 64 bits with sign, with spaces
around it. -/
def index? (cs : List Char) : Option (Int × List Char) :=
  let (negative, cs) := match Text.dropBlanks cs with
    | '-' :: rest => (true, rest)
    | rest => (false, rest)
  let digits := cs.takeWhile Char.isDigit
  let size : Int := Text.naturalOf digits
  let n := if negative then -size else size
  match Text.dropBlanks (cs.dropWhile Char.isDigit) with
  | ']' :: rest =>
    if digits.isEmpty || n < Int64.minValue.toInt || Int64.maxValue.toInt < n then none
    else some (n, rest)
  | _ => none

/-- The steps after the first, of which there are at most `fuel`. -/
def steps? : Nat → List Char → Option Place
  | _, [] => some []
  | 0, _ => none
  | fuel + 1, '.' :: cs =>
    let key := cs.takeWhile isKeyChar
    if key.isEmpty then none
    else (steps? fuel (cs.dropWhile isKeyChar)).map (.member (String.ofList key) :: ·)
  | fuel + 1, '[' :: cs => do
    let (i, rest) ← index? cs
    return .item i :: (← steps? fuel rest)
  | _ + 1, _ => none

/-- The place that a text names: keys with points between them, and numbers in brackets. -/
def ofText? (s : String) : Option Place :=
  let cs := s.toList
  let key := cs.takeWhile isKeyChar
  if key.isEmpty then none
  else (steps? cs.length (cs.dropWhile isKeyChar)).map (.member (String.ofList key) :: ·)

end Place

namespace Setting

/-- The place in a list of this length that an index means. -/
def itemPlace (index : Int) (length : Nat) : Nat :=
  if 0 ≤ index then index.toNat else length - index.natAbs

/-- The list with a new item at a place, and nothing at the places before it that are new. -/
def withItem (items : List Setting) (i : Nat) (value : Setting) : List Setting :=
  (items ++ List.replicate (i + 1 - items.length) Setting.absent).set i value

/-- Sets what is at a place, whatever the case of the letters of its keys.  What is on the way
becomes a table or a list. -/
def putAt : Place → Setting → Setting → Setting
  | [], _, root => root
  | [.member key], value, root => put key value root
  | [.item index], value, root =>
    .list (withItem root.items (itemPlace index root.items.length) value)
  | .member key :: step :: rest, value, root =>
    let key := Text.lower key
    let inner := (root.members.lookup key).getD .absent
    .table (withMember key (putAt (step :: rest) value inner) root.members)
  | .item index :: step :: rest, value, root =>
    let i := itemPlace index root.items.length
    let inner := root.items.getD i .absent
    .list (withItem root.items i (putAt (step :: rest) value inner))

/-- Sets what a text names: a place, or a key as it stands. -/
def putNamed (name : String) (value : Setting) (root : Setting) : Setting :=
  match Place.ofText? name with
  | some place => putAt place value root
  | none => put name value root

/-- The configuration with the keys of another one laid over it. -/
def overlay (root : Setting) (top : List (String × Setting)) : Setting :=
  top.foldl (fun root (name, value) => putNamed name value root) root

end Setting

end Mockup
