import Mockup.Artifact.Merge
import Mockup.Request.Basic
import Mockup.Schema.Basic
import Mockup.Text.Blank

/-!
# Assembling the mockup

* `freshKey`: a key that is not taken, made from a name;
* `keyed`: the components, each under a key of its own;
* `Artifact`: the finished mockup;
* `assemble`: the mockup for a request, or the refusal of a name that is blank.
-/

namespace Mockup

/-- The name with a number behind it, as in `AList_2`. -/
def numbered (name : String) (n : Nat) : String :=
  name ++ "_" ++ toString n

/-- The first of the keys `name_n`, `name_(n+1)`, … that is not taken, tried at most `fuel`
times. -/
def freshNumber (taken : List String) (name : String) : Nat → Nat → String
  | 0, n => numbered name n
  | fuel + 1, n =>
    if numbered name n ∈ taken then freshNumber taken name fuel (n + 1) else numbered name n

/-- The name itself if it is not taken, else with the least number from two on that makes it new.
One try more than there are taken keys is enough. -/
def freshKey (taken : List String) (name : String) : String :=
  if name ∈ taken then freshNumber taken name taken.length 2 else name

/-- The components under keys that differ from each other and from those that are taken. -/
def keyed (taken : List String) :
    List ComponentCode → List (String × ComponentCode)
  | [] => []
  | c :: cs =>
    let key := freshKey taken c.name
    (key, c) :: keyed (key :: taken) cs

/-- A finished mockup: what the user asked for, the schema as text and as read, and the merged
results. -/
structure Artifact where
  name : String
  description : String
  schemaText : String
  schema : Schema
  colorScheme : ColorScheme
  componentStyle : String
  merged : Merged
  deriving DecidableEq, Repr

namespace Artifact

/-- The components, each under a key of its own. -/
def components (a : Artifact) : List (String × ComponentCode) :=
  keyed [] a.merged.components

def tableNames (a : Artifact) : List String :=
  a.schema.tables.map (·.name)

end Artifact

/-- The refusals of `assemble`. -/
inductive AssemblyFault where
  | blankName
  deriving DecidableEq, Repr

def AssemblyFault.message : AssemblyFault → String
  | .blankName => "assembly failed: prototype name must not be empty"

/-- The text has no character but blanks. -/
def isBlankText (s : String) : Bool :=
  s.toList.all Text.isBlank

/-- The description of a mockup for which the user gives none. -/
def defaultDescription (s : Schema) (m : Merged) : String :=
  "Prototype generated from " ++ toString s.tables.length ++ " table(s) with "
    ++ toString m.components.length ++ " component(s)"

/-- The description of the user, unless it is absent or blank. -/
def descriptionOf (r : Request) (s : Schema) (m : Merged) : String :=
  match r.description with
  | some d => if isBlankText d then defaultDescription s m else d
  | none => defaultDescription s m

/-- The mockup for a request. -/
def assemble (r : Request) (s : Schema) (m : Merged) : Except AssemblyFault Artifact :=
  if isBlankText r.name then .error .blankName
  else .ok {
    name := Text.trim r.name
    description := descriptionOf r s m
    schemaText := r.schemaText
    schema := s
    colorScheme := r.preferences.colorScheme
    componentStyle := r.preferences.componentStyle
    merged := m }

end Mockup
