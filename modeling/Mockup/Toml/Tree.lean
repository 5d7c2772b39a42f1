import Mockup.Toml.Scalar

/-!
# Tables of a TOML text

Tables are declared piece by piece: by headers, by dotted keys and by being on the way to another
table.  No key is set twice and no table is declared twice.  The members of a table stand in the
order in which they were declared, and a table that begins with the key `momentKey` is no table but
a date or a time.

* `Node`: a value, a table with the way in which it was declared, or a list of tables;
* `Node.assign`: sets a key below a table, on the way of a dotted key;
* `Node.openTable`, `Node.openListItem`: the effect of a header;
* `Node.toSetting?`, `Node.tableSetting?`: the settings that a value and that a table hold.
-/

namespace Mockup.Toml

/-- The ways to declare a table: by a header, by a header for a table within it, by a dotted key, or
by its members between braces, after which nothing is added. -/
inductive Origin where
  | header
  | passed
  | dotted
  | inline
  deriving DecidableEq, Repr

/-- The values of keys: truth values, numbers and texts, dates and times, lists, tables, and lists
of tables, the last one first. -/
inductive Node where
  | leaf (value : Setting)
  | moment (text : String)
  | list (items : List Node)
  | table (origin : Origin) (members : List (String × Node))
  | tables (last : List (String × Node)) (earlier : List (List (String × Node)))
  deriving Repr, Inhabited

namespace Node

/-- The value under a key. -/
def find? (key : String) (members : List (String × Node)) : Option Node :=
  members.lookup key

/-- The members with a new value for a key. -/
def withMember (key : String) (node : Node) : List (String × Node) → List (String × Node)
  | [] => [(key, node)]
  | (k, n) :: rest => if k = key then (key, node) :: rest else (k, n) :: withMember key node rest

/-- Sets a key below the members of a table.  The keys on the way have to be free or to stand for
tables that dotted keys declared. -/
def assign : List String → String → Node → List (String × Node) →
    Option (List (String × Node))
  | [], key, value, members =>
    match find? key members with
    | some _ => none
    | none => some (members ++ [(key, value)])
  | step :: way, key, value, members =>
    match find? step members with
    | none => (assign way key value []).map fun inner =>
        members ++ [(step, .table .dotted inner)]
    | some (.table .dotted inner) => (assign way key value inner).map fun inner =>
        withMember step (.table .dotted inner) members
    | some (.table .passed inner) =>
      -- A table on the way may be passed through but no key may be set in it.
      if way.isEmpty then none
      else (assign way key value inner).map fun inner =>
        withMember step (.table .passed inner) members
    | some (.tables last earlier) =>
      if way.isEmpty then none
      else (assign way key value last).map fun last =>
        withMember step (.tables last earlier) members
    | some (.table .header _) | some (.table .inline _) | some (.leaf _) | some (.moment _)
    | some (.list _) => none

/-- Changes the members of the table that a header names.  Tables on the way are declared by being
passed; of a list of tables the last one counts. -/
def alter (change : List (String × Node) → Option (List (String × Node))) :
    List String → List (String × Node) → Option (List (String × Node))
  | [], members => change members
  | step :: way, members =>
    match find? step members with
    | none => (alter change way []).map fun inner => members ++ [(step, .table .passed inner)]
    | some (.table .inline _) => none
    | some (.table origin inner) => (alter change way inner).map fun inner =>
        withMember step (.table origin inner) members
    | some (.tables last earlier) => (alter change way last).map fun last =>
        withMember step (.tables last earlier) members
    | some (.leaf _) | some (.moment _) | some (.list _) => none

/-- Declares a table by its header, which puts it behind the other members. -/
def openTable (key : String) (members : List (String × Node)) : Option (List (String × Node)) :=
  match find? key members with
  | none => some (members ++ [(key, .table .header [])])
  | some (.table .passed inner) =>
    some (members.filter (·.1 ≠ key) ++ [(key, .table .header inner)])
  | some _ => none

/-- Declares one more table of a list by its header. -/
def openListItem (key : String) (members : List (String × Node)) :
    Option (List (String × Node)) :=
  match find? key members with
  | none => some (members ++ [(key, .tables [] [])])
  | some (.tables last earlier) => some (withMember key (.tables [] (last :: earlier)) members)
  | some _ => none

/-! ### Settings -/

/-- The key that, where a table begins with it, makes the table stand for a date or a time. -/
def momentKey : String := "$__toml_private_datetime"

/-- The date or the time that a text under `momentKey` gives. -/
def longMoment? : Node → Option String
  | .leaf (.text s) => moment? s.toList
  | _ => none

mutual

/-- The setting that a node holds. -/
def toSetting? : Node → Option Setting
  | .leaf value => some value
  | .moment text => some (.text text)
  | .list items => (settingList? items).map .list
  | .table _ members => tableSetting? members
  | .tables last earlier => do
    let last ← tableSetting? last
    return .list (← tableList? earlier [last])

/-- The setting that the members of a table come to.  What follows a date or a time among them does
not count. -/
def tableSetting? : List (String × Node) → Option Setting
  | [] => some (.table [])
  | (key, node) :: rest =>
    if key = momentKey then (longMoment? node).map .text
    else do
      let value ← toSetting? node
      return .table ((key, value) :: (← settingsOf? rest))

/-- The settings that members hold. -/
def settingsOf? : List (String × Node) → Option (List (String × Setting))
  | [] => some []
  | (key, node) :: rest => do
    let value ← toSetting? node
    return (key, value) :: (← settingsOf? rest)

/-- The settings that the items of a list hold. -/
def settingList? : List Node → Option (List Setting)
  | [] => some []
  | node :: rest => do
    let value ← toSetting? node
    return value :: (← settingList? rest)

/-- The settings that tables hold, in reverse, before those of `later`. -/
def tableList? : List (List (String × Node)) → List Setting → Option (List Setting)
  | [], later => some later
  | members :: rest, later => do
    let value ← tableSetting? members
    tableList? rest (value :: later)

end

end Node

end Mockup.Toml
