import Mockup.Json.Basic
import Mockup.Decimal.Layout
import Mockup.Text.Quoted

/-!
# Reading typed values out of data

A reader takes a data value to a typed one or says why it cannot.

* `Mismatch`: the causes for which a value is not of the wanted type, with `Mismatch.message`;
* `Reader`: readers, with one for each basic type, for lists and for the names of an enumeration;
* `Reading`: the outcome of reading several members side by side, which keeps every fault;
* `record`: a reader for a structure, given as an object or as the list of its fields.  In an object
  the faulty member with the least key is reported, then the first absent member; in a list the
  first fault.
-/

namespace Mockup.Json

/-- The causes for which a data value is not of the wanted type. -/
inductive Mismatch where
  | wrongType (found : Json) (expected : String)
  | badValue (found : Json) (expected : String)
  | unknownVariant (found : String) (known : List String)
  | missingField (name : String)
  | wrongLength (found : Nat) (expected : String)
  deriving Repr, BEq

/-- The name of a value in the message of a mismatch. -/
def describe : Json → String
  | .null => "null"
  | .bool b => "boolean `" ++ toString b ++ "`"
  | .int n => "integer `" ++ toString n ++ "`"
  | .real x => "floating point `" ++ Decimal.scientific x ++ "`"
  | .text s => "string " ++ Text.quoted s
  | .list _ => "sequence"
  | .obj _ => "map"

/-- The names of an enumeration, as a message lists them. -/
def listNames (names : List String) : String :=
  match names.map fun n => "`" ++ n ++ "`" with
  | [] => "there are no variants"
  | [a] => "expected " ++ a
  | [a, b] => "expected " ++ a ++ " or " ++ b
  | many => "expected one of " ++ ", ".intercalate many

def Mismatch.message : Mismatch → String
  | .wrongType found expected => "invalid type: " ++ describe found ++ ", expected " ++ expected
  | .badValue found expected => "invalid value: " ++ describe found ++ ", expected " ++ expected
  | .unknownVariant found known => "unknown variant `" ++ found ++ "`, " ++ listNames known
  | .missingField name => "missing field `" ++ name ++ "`"
  | .wrongLength found expected => "invalid length " ++ toString found ++ ", expected " ++ expected

/-- A way to read a data value as a value of type `α`. -/
abbrev Reader (α : Type) := Json → Except Mismatch α

namespace Reader

def any : Reader Json := .ok

def text : Reader String
  | .text s => .ok s
  | v => .error (.wrongType v "a string")

def bool : Reader Bool
  | .bool b => .ok b
  | v => .error (.wrongType v "a boolean")

/-- A whole number between two bounds; `name` is the name of their range. -/
def bounded (low high : Int) (name : String) : Reader Int
  | .int n => if low ≤ n ∧ n ≤ high then .ok n else .error (.badValue (.int n) name)
  | v => .error (.wrongType v name)

/-- A natural number of at most this many bits. -/
def word (bits : Nat) (name : String) : Reader Nat :=
  fun v => (bounded 0 (1 <<< bits - 1 : Nat) name v).map Int.toNat

def word64 : Reader Nat := word 64 "u64"

def word32 : Reader Nat := word 32 "u32"

/-- A natural number below `2 ^ 64` that counts things in memory. -/
def size : Reader Nat := word 64 "usize"

/-- A whole number of 32 bits with sign. -/
def int32 : Reader Int := bounded Int32.minValue.toInt Int32.maxValue.toInt "i32"

/-- A real number; a whole number is taken too. -/
def real : Reader Float
  | .real x => .ok x
  | .int n => .ok (Float.ofInt n)
  | v => .error (.wrongType v "f64")

/-- A list whose items are read by `r`, up to the first that is at fault. -/
def list {α : Type} (r : Reader α) : Reader (List α)
  | .list items => items.mapM r
  | v => .error (.wrongType v "a sequence")

/-- The absent value as `none`, any other by `r`. -/
def optional {α : Type} (r : Reader α) : Reader (Option α)
  | .null => .ok none
  | v => some <$> r v

/-- An object, whatever its members. -/
def members : Reader (List (String × Json))
  | .obj ms => .ok ms
  | v => .error (.wrongType v "a map")

/-- The value that goes by a name. -/
def named {α : Type} (names : List (String × α)) (name : String) : Except Mismatch α :=
  match names.lookup name with
  | some a => .ok a
  | none => .error (.unknownVariant name (names.map (·.1)))

/-- A value of an enumeration by its name: a text, or the only key of an object with the absent
value. -/
def variant {α : Type} (names : List (String × α)) : Reader α
  | .text s => named names s
  | .obj [(key, value)] => do
    let a ← named names key
    match value with
    | .null => .ok a
    | v => .error (.wrongType v "unit")
  | .obj ms => .error (.badValue (.obj ms) "map with a single key")
  | v => .error (.wrongType v "string or map")

end Reader

/-- A member that is of the wrong type, or absent. -/
inductive Fault where
  | bad (key : String) (cause : Mismatch)
  | absent (key : String)

/-- The outcome of reading members: a value, or all faults in the order in which members were asked
for. -/
inductive Reading (α : Type) where
  | good (a : α)
  | bad (faults : List Fault)

/-- Two readings side by side: the faults of both count. -/
def Reading.seq {α β : Type} : Reading (α → β) → Reading α → Reading β
  | .good f, .good a => .good (f a)
  | .good _, .bad faults => .bad faults
  | .bad faults, .good _ => .bad faults
  | .bad faults, .bad more => .bad (faults ++ more)

instance : Applicative Reading where
  pure := .good
  seq f x := f.seq (x ())

/-- The members of a record; `byPlace` if they were given as a bare list of fields. -/
structure Source where
  members : List (String × Json)
  byPlace : Bool

namespace Source

variable {α : Type}

/-- Reads a member that is there, or answers what its absence means. -/
def field (src : Source) (key : String) (r : Reader α) (absent : Reading α) : Reading α :=
  match src.members.lookup key with
  | none => absent
  | some v => match r v with
    | .ok a => .good a
    | .error cause => .bad [.bad key cause]

/-- A member that has to be there. -/
def required (src : Source) (key : String) (r : Reader α) : Reading α :=
  src.field key r (.bad [.absent key])

/-- A member that may be absent from an object, or the absent value. -/
def optional (src : Source) (key : String) (r : Reader α) : Reading (Option α) :=
  src.field key r.optional (if src.byPlace then .bad [.absent key] else .good none)

/-- A member that has a value even if it is absent. -/
def defaulted (src : Source) (key : String) (r : Reader α) (value : α) : Reading α :=
  src.field key r (.good value)

end Source

/-- The fault that is reported for an object: the bad member with the least key, else the first
absent one. -/
def faultOfObject (faults : List Fault) : Option Mismatch :=
  let bads := faults.filterMap fun
    | .bad key cause => some (key, cause)
    | .absent _ => none
  let least := bads.foldl (fun best (key, cause) =>
    match best with
    | some (k, _) => if key < k then some (key, cause) else best
    | none => some (key, cause)) none
  match least with
  | some (_, cause) => some cause
  | none => faults.findSome? fun
    | .absent key => some (.missingField key)
    | .bad _ _ => none

/-- Reads a structure with these field names by `read`. -/
def record {α : Type} (name : String) (fields : List String) (read : Source → Reading α) : Reader α
  | .obj ms => match read ⟨ms, false⟩ with
    | .good a => .ok a
    | .bad faults =>
      .error ((faultOfObject faults).getD (.wrongType (.obj ms) ("struct " ++ name)))
  | .list items => match read ⟨fields.zip items, true⟩ with
    | .good a =>
      if fields.length < items.length then
        .error (.wrongLength items.length "fewer elements in array")
      else .ok a
    | .bad (.bad _ cause :: _) => .error cause
    | .bad _ => .error (.wrongLength items.length
        ("struct " ++ name ++ " with " ++ toString fields.length
          ++ (if fields.length = 1 then " element" else " elements")))
  | v => .error (.wrongType v ("struct " ++ name))

end Mockup.Json
