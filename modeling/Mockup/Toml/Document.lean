import Mockup.Toml.Value

/-!
# TOML texts

A text is a row of statements: headers, which say in which table what follows belongs, and keys with
their values.

* `Toml.Progress`: the tables so far and the one that is open;
* `Toml.header`, `Toml.statement`: the effect of one statement;
* `Toml.parse`: the settings of a text, if it is well-formed.
-/

namespace Mockup.Toml

/-- The members read so far, and the way to the open table. -/
structure Progress where
  members : List (String × Node) := []
  current : List String := []

/-- Declares a table and opens it; `declare` acts on the members of the table around it. -/
def Progress.enter (p : Progress) (way : List String) (key : String)
    (declare : String → List (String × Node) → Option (List (String × Node))) :
    Option Progress :=
  (Node.alter (declare key) way p.members).map fun members => ⟨members, way ++ [key]⟩

/-- Sets a key of the open table. -/
def Progress.set (p : Progress) (way : List String) (key : String) (value : Node) :
    Option Progress :=
  (Node.alter (Node.assign way key value) p.current p.members).map fun members =>
    { p with members }

/-- A header, after its first bracket. -/
def header (p : Progress) : Scan Progress
  | '[' :: cs => do
    let ((way, key), rest) ← key? cs
    match rest with
    | ']' :: ']' :: rest => return (← p.enter way key Node.openListItem, rest)
    | _ => none
  | cs => do
    let ((way, key), rest) ← key? cs
    match rest with
    | ']' :: rest => return (← p.enter way key Node.openTable, rest)
    | _ => none

/-- One statement. -/
def statement (p : Progress) : Scan Progress
  | '[' :: cs => header p cs
  | cs => do
    let (((way, key), v), rest) ← pair? (value? maxDepth) cs
    return (← p.set way key v, rest)

/-- The rest after the end of a line, before which there may be blanks and a comment. -/
def endOfLine? (cs : List Char) : Option (List Char) :=
  let rest := match Text.dropBlanks cs with
    | '#' :: cs => cs.dropWhile isPlain
    | cs => cs
  match rest with
  | [] => some []
  | '\n' :: rest => some rest
  | '\x0d' :: '\n' :: rest => some rest
  | _ => none

/-- The tables after all statements, of which there are at most `fuel`. -/
def statements : Nat → Progress → List Char → Option (List (String × Node))
  | 0, _, _ => none
  | fuel + 1, p, cs =>
    match dropGap false cs with
    | [] => some p.members
    | cs => do
      let (p, rest) ← statement p cs
      statements fuel p (← endOfLine? rest)

/-- The text without a byte order mark. -/
def dropMark : List Char → List Char
  | '\ufeff' :: cs => cs
  | cs => cs

/-- The settings of a text, if it is well-formed and stands for a table. -/
def parse (text : String) : Option (List (String × Setting)) := do
  let cs := dropMark text.toList
  match ← Node.tableSetting? (← statements (cs.length + 1) {} cs) with
  | .table settings => some settings
  | _ => none

end Mockup.Toml
