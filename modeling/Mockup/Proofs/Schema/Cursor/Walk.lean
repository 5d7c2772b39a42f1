import Mockup.Schema.Parser

/-!
# Reading at a cursor

The readers of `Mockup.Schema.Parser` take a list of tokens and hand on what is left of it.  Here is
the same reading with a cursor: all tokens of a text, a position that moves over them, and loops
that go round until they find their end.  Nothing here shows by itself that the position stays
within the tokens, that a counter is not lowered below zero or that a loop ends; a walk at a cursor
leaves a trail, of which that can be said.

* `Event`, `position`: the events of a walk, and its position after them;
* `Walk`: a walk, which may stop with an error or go on for ever;
* `peekAt`, `line`, `advance`, `stepBack`: the operations at a cursor;
* `Loop`, `Loop.rounds`: a loop, of which each round leaves its start on the trail;
* `table`, `refs`, `enum`, `skipStatement`: the statements;
* `parse`: the schema that a text declares, and the trail of the walk over its tokens;
* `Event.Fits`, `Sound`: the condition on the events of a trail.
-/

namespace Mockup.Schema.Cursor

/-- The events of a walk over the tokens of a text. -/
inductive Event where
  | advanced (p : Nat)
  | steppedBack (p : Nat)
  | enteredBlock
  | closedBrace (depth : Nat)
  | wentRound (start : Nat)
  deriving DecidableEq, Repr

/-- The position of a walk with this trail.  The latest event is the first one. -/
def position : List Event → Nat
  | [] => 0
  | .advanced p :: _ | .steppedBack p :: _ => p
  | _ :: earlier => position earlier

/-- A walk over tokens, which adds to its trail.  It may stop with an error, and without an answer
if a loop has no end. -/
abbrev Walk (α : Type) :=
  ReaderT (List PlacedToken) (ExceptT ReadError (StateT (List Event) Option)) α

/-- The answer of a walk over tokens after a trail, and the trail then, or nothing if it has no end.
-/
def run {α : Type} (tokens : List PlacedToken) (m : Walk α) (trail : List Event) :
    Option (Except ReadError α × List Event) :=
  ((ReaderT.run m tokens).run).run trail

/-! ### At the cursor -/

/-- The position of the cursor. -/
def here : Walk Nat := return position (← get)

/-- Puts an event on the trail. -/
def record (e : Event) : Walk Unit := modify (e :: ·)

/-- The token so many places after the cursor; behind the last token the text has ended. -/
def peekAt (k : Nat) : Walk Token := do
  let tokens ← read
  return (tokens[(← here) + k]?.map (·.token)).getD .eof

/-- The line at the cursor; behind the last token it is the line of that. -/
def line : Walk Nat := do
  let tokens ← read
  return ((tokens[← here]?.or tokens.getLast?).map (·.line)).getD 1

/-- Answers the token at the cursor and goes behind it, but not behind the end of the tokens. -/
def advance : Walk Token := do
  let tokens ← read
  let t ← peekAt 0
  let p ← here
  record (.advanced (if p < tokens.length then p + 1 else p))
  return t

/-- Goes back by one token. -/
def stepBack : Walk Unit := do
  record (.steppedBack ((← here) - 1))

/-- The token at the cursor is not what should stand there. -/
def fail {α : Type} (expected : Expectation) : Walk α := do
  throw ⟨← line, .unexpected (← peekAt 0) expected⟩

/-- A round of a loop gives the state for the next round, or the answer of the loop. -/
abbrev Loop (σ α : Type) := σ → Walk (σ ⊕ α)

/-- Goes round until a round gives the answer.  A round that does not is noted on the trail, with
the position at which it began. -/
def Loop.rounds {σ α : Type} (body : Loop σ α) (x : σ) : Walk α := do
  let start ← here
  match ← body x with
  | .inr a => return a
  | .inl y => do
    record (.wentRound start)
    body |>.rounds y
partial_fixpoint

open Loop (rounds)

/-! ### Names and settings -/

/-- One line end. -/
def newlineRound (_ : Unit) : Walk (Unit ⊕ Unit) := do
  if (← peekAt 0) = .newline then
    let _ ← advance
    return .inl ()
  else return .inr ()

/-- Skips the line ends at the cursor. -/
def skipNewlines : Walk Unit := rounds newlineRound ()

/-- Skips a mark that has to be there. -/
def expect (m : Mark) (expected : Expectation) : Walk Unit := do
  if (← peekAt 0) = .mark m then
    let _ ← advance
  else fail expected

/-- Skips line ends and then a mark that has to be there. -/
def expectNext (m : Mark) (expected : Expectation) : Walk Unit := do
  skipNewlines
  expect m expected

/-- A point and one more name. -/
def segmentRound (name : String) : Walk (String ⊕ String) := do
  let t ← peekAt 0
  let next ← peekAt 1
  if t = .mark .dot ∧ next.name?.isSome then
    let _ ← advance
    let t ← advance
    return .inl (t.name?.getD name)
  else return .inr name

/-- Reads a name: of names joined by points the last one counts. -/
def name : Walk (Option String) := do
  match (← peekAt 0).name? with
  | none => return none
  | some first =>
    let _ ← advance
    let last ← rounds segmentRound first
    return some last

/-- One token in brackets that are skipped. -/
def bracketRound (opened : Nat) (_ : Unit) : Walk (Unit ⊕ Unit) := do
  let t ← advance
  if t = .mark .closeBracket then return .inr ()
  else if t = .eof then throw ⟨opened, .unterminatedBlock .settings⟩
  else return .inl ()

/-- Skips the settings whose opening bracket stands at the cursor. -/
def skipSettings : Walk Unit := do
  let opened ← line
  let _ ← advance
  rounds (bracketRound opened) ()

/-- One token in settings: the groups before it, the group in which it stands, and how many
parentheses are open. -/
def groupRound (opened : Nat) :
    Loop (List (List Token) × List Token × Nat) (List (List Token))
  | (groups, current, depth) => do
    let t ← advance
    if t = .mark .closeBracket ∧ depth = 0 then return .inr (groups ++ pushGroup current [])
    else if t = .mark .comma ∧ depth = 0 then
      return .inl (groups ++ pushGroup current [], [], 0)
    else if t = .newline then return .inl (groups, current, depth)
    else if t = .eof then throw ⟨opened, .unterminatedBlock .settings⟩
    else
      let depth := match t with
        | .mark .openParen => depth + 1
        | .mark .closeParen => depth - 1
        | _ => depth
      return .inl (groups, current ++ [t], depth)

/-- Reads the settings whose opening bracket stands at the cursor. -/
def settings : Walk (List (List Token)) := do
  let opened ← line
  let _ ← advance
  rounds (groupRound opened) ([], [], 0)

/-! ### References -/

/-- One token on the line of a reference, or settings. -/
def refTokenRound (tokens : List Token) : Walk (List Token ⊕ List Token) := do
  let t ← peekAt 0
  if t = .newline ∨ t = .eof ∨ t = .mark .closeBrace then return .inr tokens
  else if t = .mark .openBracket then
    skipSettings
    return .inl tokens
  else
    let t ← advance
    return .inl (tokens ++ [t])

/-- Reads one reference up to the end of its line. -/
def refLine : Walk Relationship := do
  let start ← line
  let tokens ← rounds refTokenRound []
  MonadExcept.ofExcept (reference start tokens)

/-- One reference of a block. -/
def refRound (opened : Nat) (rs : List Relationship) :
    Walk (List Relationship ⊕ List Relationship) := do
  skipNewlines
  let t ← peekAt 0
  if t = .mark .closeBrace then
    let _ ← advance
    return .inr rs
  else if t = .eof then throw ⟨opened, .unterminatedBlock .ref⟩
  else
    let r ← refLine
    return .inl (rs ++ [r])

/-- Skips one name, if it stands at the cursor. -/
def skipName : Walk Unit := do
  if (← peekAt 0).name?.isSome then
    let _ ← advance
  else return ()

/-- Reads what follows the keyword of a reference. -/
def refs : Walk (List Relationship) := do
  skipName
  let t ← peekAt 0
  if t = .mark .colon then
    let _ ← advance
    let r ← refLine
    return [r]
  else if t = .mark .openBrace then
    let opened ← line
    let _ ← advance
    rounds (refRound opened) []
  else fail .refBody

/-! ### Columns -/

/-- One entry of a list in parentheses, which has to be closed on its line.  Commas are left out. -/
def entryRound (textOf : Token → String) (unclosed : Walk (List String ⊕ List String))
    (entries : List String) : Walk (List String ⊕ List String) := do
  let t ← advance
  if t = .mark .closeParen then return .inr entries
  else if t = .mark .comma then return .inl entries
  else if t = .newline ∨ t = .eof then unclosed
  else return .inl (entries ++ [textOf t])

/-- One argument of a type. -/
def argumentRound (start : Nat) : Loop (List String) (List String) :=
  entryRound Token.text (throw ⟨start, .unexpected .newline .typeParen⟩)

/-- Reads the type of a column, with its arguments. -/
def dataType (start : Nat) (column : String) : Walk String := do
  match ← name with
  | none => throw ⟨start, .missingColumnType column⟩
  | some type =>
    if (← peekAt 0) = .mark .openParen then
      let _ ← advance
      let args ← rounds (argumentRound start) []
      return type ++ "(" ++ ",".intercalate args ++ ")"
    else return type

/-- Applies a constraint word that was just consumed. -/
def constraint (c : Column) (word : String) : Walk Column := do
  let lower := Text.lower word
  let follower ← peekAt 0
  if lower = "primary" ∧ follower.isKeyword "key" then
    let _ ← advance
    return { c with primaryKey := true, constraints := c.constraints ++ ["primary key"] }
  else if lower = "not" ∧ follower.isKeyword "null" then
    let _ ← advance
    return { c with notNull := true, constraints := c.constraints ++ ["not null"] }
  else
    return { c with
      primaryKey := c.primaryKey || lower == "pk"
      unique := c.unique || lower == "unique"
      constraints := c.constraints ++ [lower] }

/-- One constraint of a column, or its settings. -/
def constraintRound (start : Nat) (d : ColumnDraft) : Walk (ColumnDraft ⊕ ColumnDraft) := do
  let t ← peekAt 0
  if t = .newline ∨ t = .eof ∨ t = .mark .closeBrace then return .inr d
  else match t with
    | .mark .openBracket =>
      let groups ← settings
      let d ← MonadExcept.ofExcept (applySettings start d groups)
      return .inl d
    | .ident word =>
      let _ ← advance
      let c ← constraint d.column word
      return .inl { d with column := c }
    | _ => fail .columnSetting

/-- Reads a column. -/
def column : Walk ColumnDraft := do
  let start ← line
  let t ← advance
  let name := t.name?.getD ""
  let dataType ← dataType start name
  rounds (constraintRound start) { column := { name, dataType } }

/-! ### Tables -/

/-- One column of an index. -/
def indexColumnRound : Loop (List String) (List String) :=
  entryRound Token.content (fail .indexParen)

/-- Reads the settings of an index, if there are any. -/
def indexSettings : Walk (List String) := do
  if (← peekAt 0) = .mark .openBracket then
    let groups ← settings
    return groups.map Token.join
  else return []

/-- Reads one index from the token at the cursor: many columns in parentheses, or a single token. -/
def index : Walk Index := do
  let t ← advance
  if t = .mark .openParen then
    let columns ← rounds indexColumnRound []
    let settings ← indexSettings
    return ⟨columns, settings⟩
  else
    let settings ← indexSettings
    return ⟨[t.content], settings⟩

/-- One index of a table. -/
def indexRound (opened : Nat) (indexes : List Index) : Walk (List Index ⊕ List Index) := do
  skipNewlines
  let t ← peekAt 0
  if t = .mark .closeBrace then
    let _ ← advance
    return .inr indexes
  else if t = .eof then throw ⟨opened, .unterminatedBlock .indexes⟩
  else
    let i ← index
    return .inl (indexes ++ [i])

/-- Reads the text of a note, if one stands at the cursor. -/
def noteText : Walk (Option String) := do
  match ← peekAt 0 with
  | .str s | .quoted s =>
    let _ ← advance
    return some s
  | _ => return none

/-- Reads a note between braces, from the token after the opening one. -/
def noteBlock : Walk (Option String) := do
  skipNewlines
  let note ← noteText
  expectNext .closeBrace .noteBrace
  return note

/-- The body of a reference follows the word at the cursor, which is `ref`. -/
def startsRef : Walk Bool := do
  let t ← peekAt 1
  let next ← peekAt 2
  return opensRef t || (t.name?.isSome && opensRef next)

/-- Reads the item of a table that starts with the token at the cursor. -/
def item (opened : Nat) : Walk TableItem := do
  let t ← peekAt 0
  let next ← peekAt 1
  let refFollows ← startsRef
  if t.isKeyword "note" ∧ next = .mark .colon then
    let _ ← advance
    let _ ← advance
    let note ← noteText
    return .note note
  else if t.isKeyword "note" ∧ next = .mark .openBrace then
    let _ ← advance
    let _ ← advance
    let note ← noteBlock
    return .note note
  else if t.isKeyword "indexes" ∧ next = .mark .openBrace then
    let _ ← advance
    let _ ← advance
    let indexes ← rounds (indexRound opened) []
    return .indexes indexes
  else if t.isKeyword "ref" ∧ refFollows then fail .columnNotRef
  else if t.name?.isSome then
    let d ← column
    return .column d.column d.refs
  else fail .column

/-- One item of a table. -/
def itemRound (opened : Nat) (items : List TableItem) :
    Walk (List TableItem ⊕ List TableItem) := do
  skipNewlines
  let t ← peekAt 0
  if t = .mark .closeBrace then
    let _ ← advance
    return .inr items
  else if t = .eof then throw ⟨opened, .unterminatedBlock .table⟩
  else
    let i ← item opened
    return .inl (items ++ [i])

/-- Reads a second name after the word `as`. -/
def shortName : Walk (Option String) := do
  if (← peekAt 0).isKeyword "as" then
    let _ ← advance
    name
  else return none

/-- Skips the settings of a table, if there are any. -/
def skipTableSettings : Walk Unit := do
  if (← peekAt 0) = .mark .openBracket then skipSettings else return ()

/-- Reads a table from the token after its keyword. -/
def table : Walk Statement := do
  let opened ← line
  match ← name with
  | none => throw ⟨opened, .missingTableName⟩
  | some name =>
    let short ← shortName
    skipTableSettings
    expectNext .openBrace .tableBrace
    let items ← rounds (itemRound opened) []
    return .table name short items

/-! ### Enumerations and other statements -/

/-- One token of an enumeration, or settings.  The bracket that opens settings is consumed before it
is known, so that the walk goes back to it. -/
def valueRound (opened : Nat) (values : List String) : Walk (List String ⊕ List String) := do
  let t ← advance
  if t = .mark .closeBrace then return .inr values
  else if t = .mark .comma ∨ t = .newline then return .inl values
  else if t = .mark .openBracket then
    stepBack
    skipSettings
    return .inl values
  else if t = .eof then throw ⟨opened, .unterminatedBlock .enum⟩
  else return .inl (values ++ [t.content])

/-- Reads an enumeration from the token after its keyword. -/
def enum : Walk Statement := do
  let opened ← line
  match ← name with
  | none => fail .enumName
  | some name =>
    expectNext .openBrace .enumBrace
    let values ← rounds (valueRound opened) []
    return .enum ⟨name, values⟩

/-- One token of a block that is skipped. -/
def blockRound (start depth : Nat) : Walk (Nat ⊕ Unit) := do
  let t ← advance
  if t = .mark .openBrace then return .inl (depth + 1)
  else if t = .mark .closeBrace then
    record (.closedBrace depth)
    if depth - 1 = 0 then return .inr () else return .inl (depth - 1)
  else if t = .eof then throw ⟨start, .unterminatedBlock .statement⟩
  else return .inl depth

/-- Skips the block whose opening brace stands at the cursor. -/
def skipBlock (start : Nat) : Walk Unit := do
  record .enteredBlock
  rounds (blockRound start) 0

/-- One token of a statement that is skipped, or the block that opens on its line. -/
def skipRound (start : Nat) (_ : Unit) : Walk (Unit ⊕ Unit) := do
  let t ← peekAt 0
  if t = .newline ∨ t = .eof then return .inr ()
  else if t = .mark .openBrace then
    skipBlock start
    return .inr ()
  else
    let _ ← advance
    return .inl ()

/-- Skips a statement of another kind. -/
def skipStatement : Walk Unit := do
  let start ← line
  rounds (skipRound start) ()

/-- Reads the statement that starts with the token at the cursor. -/
def statement : Walk Statement := do
  let t ← peekAt 0
  if t.isKeyword "table" then
    let _ ← advance
    table
  else if t.isKeyword "ref" then
    let _ ← advance
    let rs ← refs
    return .refs rs
  else if t.isKeyword "enum" then
    let _ ← advance
    enum
  else
    skipStatement
    return .other

/-- One statement of a text. -/
def statementRound (statements : List Statement) :
    Walk (List Statement ⊕ List Statement) := do
  skipNewlines
  if (← peekAt 0) = .eof then return .inr statements
  else
    let s ← statement
    return .inl (statements ++ [s])

/-- Reads all statements. -/
def schema : Walk Schema := do
  let statements ← rounds statementRound []
  return ofStatements statements

/-- The schema that a text declares, and the trail of the walk over its tokens. -/
def parse (text : String) : Option (Except ReadError Schema × List Event) :=
  match tokenize text with
  | .error e => some (.error e, [])
  | .ok tokens => run tokens schema []

/-! ### What a trail has to be -/

/-- The condition on an event after these earlier ones. -/
def Event.Fits (tokens : List PlacedToken) (earlier : List Event) : Event → Prop
  -- the walk does not leave the tokens
  | .advanced p => p ≤ tokens.length
  -- the latest event consumed a token, and it is this step that is taken back
  | .steppedBack p => ∃ older, earlier = .advanced (p + 1) :: older ∧ position older = p
  -- the token at the cursor opens a block
  | .enteredBlock => (tokens[position earlier]?).map (·.token) = some (.mark .openBrace)
  -- the counter is not lowered below zero
  | .closedBrace depth => 1 ≤ depth
  -- the round moved the cursor forward
  | .wentRound start => start < position earlier

/-- All events of the trail fit. -/
def Sound (tokens : List PlacedToken) : List Event → Prop
  | [] => True
  | e :: earlier => e.Fits tokens earlier ∧ Sound tokens earlier

end Mockup.Schema.Cursor
