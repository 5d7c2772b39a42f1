import Mockup.Text.Blank
import Mockup.Text.Case
import Mockup.Text.Lines

/-!
# Reviewing a schema text

A look at the lines of a schema text that needs no parsing: it counts braces and looks for tables
without an opening brace and for references in the midst of a table.

* `Flaw`: the findings of a review, with `Flaw.severity` and `Flaw.message`;
* `Depth`: the balance of braces, and the level of the current table;
* `Depth.flaws`, `Depth.next`: the flaws of one line, and the state after it;
* `review`: the issues of a text; a text is `sound` when none of them is an error.
-/

namespace Mockup.Schema

/-- A text with an error must not be used. -/
inductive Severity where
  | error
  | warning
  deriving DecidableEq, Repr

def Severity.name : Severity → String
  | .error => "error"
  | .warning => "warning"

/-- The findings of a review.  `mismatch` counts the braces of a line, `unbalanced` those of the
text. -/
inductive Flaw where
  | blank
  | nestedReference
  | noBrace (line : String)
  | mismatch (opens closes : Nat)
  | unbalanced (net : Int)
  deriving DecidableEq, Repr

/-- A number with its sign, also if it is positive. -/
def signed (n : Int) : String :=
  if 0 ≤ n then "+" ++ toString n else toString n

namespace Flaw

def severity : Flaw → Severity
  | .nestedReference | .noBrace _ => .error
  | .blank | .mismatch _ _ | .unbalanced _ => .warning

def message : Flaw → String
  | .blank => "Schema is empty"
  | .nestedReference =>
    "Ref declaration inside a table block; declare it at the top level or use an inline [ref: ...] "
      ++ "setting"
  | .noBrace line =>
    "Table declaration '" ++ line ++ "' has no opening brace on this or the next line"
  | .mismatch opens closes =>
    "Mismatched braces on one line (" ++ toString opens ++ " '\x7b' vs " ++ toString closes
      ++ " '\x7d')"
  | .unbalanced net => "Unbalanced braces in document (net " ++ signed net ++ ")"

end Flaw

/-- A flaw, and the line that it was found on, counted from one. -/
structure Issue where
  line : Nat
  flaw : Flaw
  deriving DecidableEq, Repr

namespace Issue

def shown (i : Issue) : String :=
  "line " ++ toString i.line ++ " (" ++ i.flaw.severity.name ++ "): " ++ i.flaw.message

def isError (i : Issue) : Bool :=
  i.flaw.severity == .error

end Issue

/-! ### Single lines -/

/-- The line up to the first two slashes. -/
def beforeSlashes : List Char → List Char
  | [] => []
  | '/' :: '/' :: _ => []
  | c :: cs => c :: beforeSlashes cs

/-- The line without the comment at its end and the blanks around it. -/
def bareLine (line : List Char) : List Char :=
  Text.trimmed (beforeSlashes line)

/-- The line is passed over: it is blank, or looks like a part of a comment. -/
def isIdle (line : List Char) : Bool :=
  line.isEmpty || ['/', '*'].isPrefixOf line || ['*'].isPrefixOf line

/-- The line looks like a declaration of references.  A column of that name has no colon before its
settings. -/
def declaresReference (line : List Char) : Bool :=
  let head := line.takeWhile (· ≠ '[')
  let first := head.takeWhile fun c => !(Text.isBlank c || c == ':' || c == '{')
  Text.sameIgnoringCase (String.ofList first) "ref" && (head.contains ':' || head.contains '{')

/-- The line looks like the first one of a table. -/
def beginsTable (line : List Char) : Bool :=
  let word := line.takeWhile (!Text.isBlank ·)
  Text.sameIgnoringCase (String.ofList word) "table"
    && (line.dropWhile (!Text.isBlank ·)).any (!Text.isBlank ·)

/-- The line opens the body of the table on the line before it. -/
def opensBody (line : List Char) : Bool :=
  ['{'].isPrefixOf ((beforeSlashes line).dropWhile Text.isBlank)

/-! ### The depth of braces -/

/-- The state of a review between two lines: the opening braces so far less the closing ones, and
the balance within the body of the current table. -/
structure Depth where
  balance : Int := 0
  table : Option Int := none
  deriving DecidableEq, Repr

namespace Depth

/-- The body of a table is open. -/
def inBody (d : Depth) : Bool :=
  d.table.any (· ≤ d.balance)

/-- The flaws of a bare line, given the raw line after it. -/
def flaws (d : Depth) (line : List Char) (following : Option (List Char)) : List Flaw :=
  let opens := line.count '{'
  let closes := line.count '}'
  (if d.inBody && declaresReference line then [.nestedReference] else [])
  ++ (if beginsTable line && opens == 0 && !following.any opensBody
      then [.noBrace (String.ofList line)] else [])
  ++ (if 0 < opens ∧ 0 < closes ∧ opens ≠ closes then [.mismatch opens closes] else [])

/-- The state after a bare line.  A table that begins here has its body one brace deeper, and it is
over once that brace is closed. -/
def next (d : Depth) (line : List Char) : Depth :=
  let opens := line.count '{'
  let balance := d.balance + opens - line.count '}'
  let table := if beginsTable line && d.table.isNone then some (d.balance + 1) else d.table
  let waits := beginsTable line && opens == 0
  { balance, table := if !waits && table.any (balance < ·) then none else table }

end Depth

/-! ### The whole text -/

/-- The issues of the lines from number `line` on, and how many braces are left open at the end. -/
def reviewLines (line : Nat) (d : Depth) : List (List Char) → List Issue × Int
  | [] => ([], d.balance)
  | raw :: rest =>
    let bare := bareLine raw
    if isIdle bare then reviewLines (line + 1) d rest
    else
      let later := reviewLines (line + 1) (d.next bare) rest
      ((d.flaws bare rest.head?).map (⟨line, ·⟩) ++ later.1, later.2)

/-- The issues of a text. -/
def review (text : String) : List Issue :=
  let lines := Text.lines text.toList
  let (issues, balance) := reviewLines 1 {} lines
  (if text.toList.all Text.isBlank then [⟨1, .blank⟩] else [])
  ++ issues
  ++ (if balance = 0 then [] else [⟨max lines.length 1, .unbalanced balance⟩])

def errorsOf (issues : List Issue) : List Issue :=
  issues.filter (·.isError)

/-- No issue is an error. -/
def sound (issues : List Issue) : Bool :=
  !issues.any (·.isError)

theorem sound_eq_true_iff {issues : List Issue} : sound issues = true ↔ errorsOf issues = [] := by
  simp [sound, errorsOf, List.filter_eq_nil_iff]

end Mockup.Schema
