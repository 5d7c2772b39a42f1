import Mockup.Schema.Lexer

/-!
# Reading from a list of tokens

A reader of some part of a schema text answers what it read and the tokens that remain.  The end of
the list is the end of the text, on the line `last`.  Each reader comes with the lemma that it
leaves fewer tokens than it was given, on which the loops over it rest.

* `peek`, `lineOf`, `unexpected`: the token at the head, its line, and the error that it is;
* `endsLine`: the tokens that end the line of a column or of a reference;
* `qualifiedName`: a name, possibly after the names of what it belongs to;
* `dropSettings`, `settingGroups`: settings in brackets, skipped or read.
-/

namespace Mockup.Schema

/-- The token at the head, or the end of the text. -/
def peek : List PlacedToken → Token
  | [] => .eof
  | t :: _ => t.token

/-- The line of the token at the head, or of the end of the text. -/
def lineOf (last : Nat) : List PlacedToken → Nat
  | [] => last
  | t :: _ => t.line

/-- The tokens that end the line of a column or of a reference. -/
def endsLine : Token → Bool
  | .newline | .mark .closeBrace => true
  | _ => false

theorem endsLine_iff {t : Token} : endsLine t = true ↔ t = .newline ∨ t = .mark .closeBrace := by
  cases t with
  | mark m => cases m <;> simp [endsLine]
  | _ => simp [endsLine]

/-- The token at the head is not what should stand there. -/
def unexpected {α : Type} (last : Nat) (expected : Expectation) (ts : List PlacedToken) :
    Except ReadError α :=
  .error ⟨lineOf last ts, .unexpected (peek ts) expected⟩

/-- A step with another one after it: if both together end well, each of them does. -/
theorem exists_ok_of_bind {α β : Type} {x : Except ReadError α} {f : α → Except ReadError β} {b : β}
    (h : x >>= f = .ok b) : ∃ a, x = .ok a ∧ f a = .ok b := by
  cases x with
  | error e => cases h
  | ok a => exact ⟨a, rfl, h⟩

/-- The tokens after the line ends at the head. -/
def dropNewlines (ts : List PlacedToken) : List PlacedToken :=
  ts.dropWhile (·.token == .newline)

theorem length_dropNewlines (ts : List PlacedToken) : (dropNewlines ts).length ≤ ts.length :=
  (List.dropWhile_sublist _).length_le

/-! ### Names -/

/-- Goes on with a name: of names joined by points the last one counts. -/
def lastSegment (name : String) : List PlacedToken → String × List PlacedToken
  | d :: t :: ts =>
    if d.token = .mark .dot then
      match t.token.name? with
      | some next => lastSegment next ts
      | none => (name, d :: t :: ts)
    else (name, d :: t :: ts)
  | ts => (name, ts)

/-- Reads a name, possibly after the names of what it belongs to. -/
def qualifiedName : List PlacedToken → Option (String × List PlacedToken)
  | [] => none
  | t :: ts => t.token.name?.map (lastSegment · ts)

theorem length_lastSegment (name : String) (ts : List PlacedToken) :
    (lastSegment name ts).2.length ≤ ts.length := by
  fun_induction lastSegment name ts <;> simp_all
  omega

theorem length_qualifiedName {ts rest : List PlacedToken} {name : String}
    (h : qualifiedName ts = some (name, rest)) : rest.length < ts.length := by
  cases ts with
  | nil => simp [qualifiedName] at h
  | cons t ts =>
    obtain ⟨n, _, hn⟩ := Option.map_eq_some_iff.1 h
    have := length_lastSegment n ts
    simp only [hn] at this
    simp only [List.length_cons]; omega

/-! ### Settings -/

/-- Skips up to the next closing bracket. -/
def dropSettings (opened : Nat) : List PlacedToken → Except ReadError (List PlacedToken)
  | [] => .error ⟨opened, .unterminatedBlock .settings⟩
  | t :: ts => if t.token = .mark .closeBracket then .ok ts else dropSettings opened ts

theorem length_dropSettings {opened : Nat} {ts rest : List PlacedToken}
    (h : dropSettings opened ts = .ok rest) : rest.length < ts.length := by
  fun_induction dropSettings opened ts <;> simp_all
  omega

/-- The groups with one more in front, unless it is empty. -/
def pushGroup (group : List Token) (groups : List (List Token)) : List (List Token) :=
  if group.isEmpty then groups else group :: groups

/-- Reads settings up to the closing bracket as groups of tokens between commas.  Commas and
brackets inside of parentheses belong to their group; line ends are left out. -/
def settingGroups (opened depth : Nat) (group : List Token) :
    List PlacedToken → Except ReadError (List (List Token) × List PlacedToken)
  | [] => .error ⟨opened, .unterminatedBlock .settings⟩
  | t :: ts =>
    if t.token = .mark .closeBracket ∧ depth = 0 then .ok (pushGroup group [], ts)
    else if t.token = .mark .comma ∧ depth = 0 then do
      let (groups, rest) ← settingGroups opened 0 [] ts
      return (pushGroup group groups, rest)
    else if t.token = .newline then settingGroups opened depth group ts
    else
      let depth := match t.token with
        | .mark .openParen => depth + 1
        | .mark .closeParen => depth - 1
        | _ => depth
      settingGroups opened depth (group ++ [t.token]) ts

theorem length_settingGroups {opened depth : Nat} {group : List Token}
    {ts rest : List PlacedToken} {groups : List (List Token)}
    (h : settingGroups opened depth group ts = .ok (groups, rest)) : rest.length < ts.length := by
  induction ts generalizing depth group groups rest with
  | nil => simp [settingGroups] at h
  | cons t ts ih =>
    simp only [List.length_cons]
    unfold settingGroups at h
    split at h
    · cases h; omega
    split at h
    · obtain ⟨_, hg, hp⟩ := exists_ok_of_bind h
      cases hp
      have := ih hg
      omega
    split at h
    · have := ih h; omega
    · have := ih h; omega

end Mockup.Schema
