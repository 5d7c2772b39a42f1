import Mockup.Schema.Fault
import Mockup.Text.Blank
import Mockup.Text.Numeric

/-!
# Cutting a schema text into tokens

Line ends are tokens; blanks and comments are skipped.

* `skipGap`: the blanks and comments between two tokens;
* `delimited`, `tripleQuoted`: the content of a literal;
* `readToken`: one token;
* `scan`, `tokenize`: all tokens of a text, the end of the text being the last.
-/

namespace Mockup.Schema

/-- The state of skipping: between comments, in a comment up to the end of its line, or in a comment
that was opened on this line and has to be closed. -/
inductive Gap where
  | plain
  | lineComment
  | blockComment (opened : Nat)

/-- Skips blanks other than line ends, and comments.  Answers the line and the text reached. -/
def skipGap : Gap → Nat → List Char → Except ReadError (Nat × List Char)
  | .plain, line, [] => .ok (line, [])
  | .plain, line, '/' :: '/' :: cs => skipGap .lineComment line cs
  | .plain, line, '/' :: '*' :: cs => skipGap (.blockComment line) line cs
  | .plain, line, c :: cs =>
    if c ≠ '\n' ∧ Text.isBlank c then skipGap .plain line cs else .ok (line, c :: cs)
  | .lineComment, line, [] => .ok (line, [])
  | .lineComment, line, c :: cs =>
    if c = '\n' then .ok (line, c :: cs) else skipGap .lineComment line cs
  | .blockComment opened, _, [] => .error ⟨opened, .unterminatedBlock .comment⟩
  | .blockComment _, line, '*' :: '/' :: cs => skipGap .plain line cs
  | .blockComment opened, line, c :: cs =>
    skipGap (.blockComment opened) (if c = '\n' then line + 1 else line) cs

/-- A literal: the characters that it stands for, the number of line ends in it, and the text after
it. -/
structure Literal where
  content : List Char
  lines : Nat
  rest : List Char

/-- The literal with one more character in front, which stands for itself. -/
def Literal.push (c : Char) (l : Literal) : Literal :=
  ⟨c :: l.content, if c = '\n' then l.lines + 1 else l.lines, l.rest⟩

/-- The literal with one more character in front, which was written after a backslash. -/
def Literal.pushEscaped (c : Char) (l : Literal) : Literal :=
  { l with content := c :: l.content }

/-- The character that a backslash and this one stand for. -/
def unescape : Char → Char
  | 'n' => '\n'
  | 't' => '\t'
  | c => c

/-- Reads up to a closing quote; a backslash makes the next character part of the content. -/
def delimited (close : Char) : List Char → Option Literal
  | [] => none
  | c :: cs =>
    if c = close then some ⟨[], 0, cs⟩
    else if c = '\\' then
      match cs with
      | [] => none
      | e :: cs => (delimited close cs).map (.pushEscaped (unescape e))
    else (delimited close cs).map (.push c)

/-- Reads up to three single quotes in a row; nothing is escaped. -/
def tripleQuoted : List Char → Option Literal
  | '\'' :: '\'' :: '\'' :: cs => some ⟨[], 0, cs⟩
  | c :: cs => (tripleQuoted cs).map (.push c)
  | [] => none

/-- Reads what follows a single quote.  Two more single quotes open a literal over many lines, which
loses the blanks at its ends. -/
def singleQuoted : List Char → Option Literal
  | '\'' :: '\'' :: cs =>
    (tripleQuoted cs).map fun l => { l with content := Text.trimmed l.content }
  | cs => delimited '\'' cs

/-- The characters of names. -/
def isNameChar (c : Char) : Bool :=
  Text.isAlphanumeric c || c = '_'

/-- The first characters of names. -/
def isNameStart (c : Char) : Bool :=
  Text.isAlphabetic c || c = '_'

/-- The digits after those at the head of a number, and the text after the number.  A point belongs
to the number only when a digit follows it. -/
def restOfNumber (cs : List Char) : List Char × List Char :=
  let whole := cs.takeWhile Char.isDigit
  match cs.dropWhile Char.isDigit with
  | '.' :: d :: rest =>
    if d.isDigit then
      (whole ++ '.' :: d :: rest.takeWhile Char.isDigit, rest.dropWhile Char.isDigit)
    else (whole, '.' :: d :: rest)
  | rest => (whole, rest)

/-- A token, the line after it and the text after it. -/
structure Reading where
  token : Token
  line : Nat
  rest : List Char

/-- The token of a literal that starts on this line. -/
def ofLiteral (line : Nat) (make : String → Token) : Option Literal → Except ReadError Reading
  | some l => .ok ⟨make (String.ofList l.content), line + l.lines, l.rest⟩
  | none => .error ⟨line, .unterminatedString⟩

/-- Reads the token that starts with the character `c`. -/
def readToken (line : Nat) (c : Char) (cs : List Char) : Except ReadError Reading :=
  if c = '\n' then .ok ⟨.newline, line + 1, cs⟩
  else if c = '<' ∧ cs.head? = some '>' then .ok ⟨.mark .lessGreater, line, cs.tail⟩
  else match Mark.ofChar? c with
    | some m => .ok ⟨.mark m, line, cs⟩
    | none =>
      if c = '"' then ofLiteral line .quoted (delimited '"' cs)
      else if c = '\'' then ofLiteral line .str (singleQuoted cs)
      else if c = '`' then ofLiteral line .expr (delimited '`' cs)
      else if c.isDigit then
        .ok ⟨.num (String.ofList (c :: (restOfNumber cs).1)), line, (restOfNumber cs).2⟩
      else if c = '#' || isNameStart c then
        .ok ⟨.ident (String.ofList (c :: cs.takeWhile isNameChar)), line, cs.dropWhile isNameChar⟩
      else .ok ⟨.symbol c, line, cs⟩

/-! ### Every step shortens the text -/

theorem length_dropWhile_le (p : Char → Bool) (cs : List Char) :
    (cs.dropWhile p).length ≤ cs.length :=
  (List.dropWhile_sublist p).length_le

theorem length_skipGap {g : Gap} {line line' : Nat} {cs rest : List Char}
    (h : skipGap g line cs = .ok (line', rest)) : rest.length ≤ cs.length := by
  fun_induction skipGap g line cs <;> simp_all <;> grind

theorem length_delimited {close : Char} {cs : List Char} {l : Literal}
    (h : delimited close cs = some l) : l.rest.length ≤ cs.length := by
  fun_induction delimited close cs generalizing l <;>
    simp_all [Literal.push, Literal.pushEscaped] <;> grind

theorem length_tripleQuoted {cs : List Char} {l : Literal}
    (h : tripleQuoted cs = some l) : l.rest.length ≤ cs.length := by
  fun_induction tripleQuoted cs generalizing l <;> simp_all [Literal.push] <;> grind

theorem length_singleQuoted {cs : List Char} {l : Literal}
    (h : singleQuoted cs = some l) : l.rest.length ≤ cs.length := by
  unfold singleQuoted at h
  split at h
  · obtain ⟨l', hl', rfl⟩ := Option.map_eq_some_iff.1 h
    have := length_tripleQuoted hl'
    simp only [List.length_cons]; omega
  · exact length_delimited h

theorem length_restOfNumber (cs : List Char) : (restOfNumber cs).2.length ≤ cs.length := by
  have h := length_dropWhile_le Char.isDigit cs
  simp only [restOfNumber]
  split
  · next d rest heq =>
    rw [heq] at h
    simp only [List.length_cons] at h
    split
    · have := length_dropWhile_le Char.isDigit rest
      simp only; omega
    · simpa using h
  · exact h

theorem length_ofLiteral {line n : Nat} {make : String → Token} {o : Option Literal} {r : Reading}
    (h : ofLiteral line make o = .ok r) (ho : ∀ l, o = some l → l.rest.length ≤ n) :
    r.rest.length ≤ n := by
  cases o with
  | none => simp [ofLiteral] at h
  | some l => simp only [ofLiteral, Except.ok.injEq] at h; subst h; exact ho l rfl

theorem length_readToken {line : Nat} {c : Char} {cs : List Char} {r : Reading}
    (h : readToken line c cs = .ok r) : r.rest.length ≤ cs.length := by
  unfold readToken at h
  split at h
  · cases h; simp
  split at h
  · cases h; simp
  split at h
  · cases h; simp
  split at h
  · exact length_ofLiteral h fun _ => length_delimited
  split at h
  · exact length_ofLiteral h fun _ => length_singleQuoted
  split at h
  · exact length_ofLiteral h fun _ => length_delimited
  split at h
  · cases h; exact length_restOfNumber cs
  split at h
  · cases h; exact length_dropWhile_le isNameChar cs
  · cases h; simp

/-! ### All tokens -/

/-- The tokens of a text whose first character stands on the given line. -/
def scanFrom (line : Nat) (cs : List Char) : Except ReadError TokenStream :=
  match _gap : skipGap .plain line cs with
  | .error e => .error e
  | .ok (line, []) => .ok ⟨[], line⟩
  | .ok (line, c :: rest) =>
    match _token : readToken line c rest with
    | .error e => .error e
    | .ok r => TokenStream.push ⟨r.token, line⟩ <$> scanFrom r.line r.rest
termination_by cs.length
decreasing_by
  have := length_skipGap _gap
  have := length_readToken _token
  simp only [List.length_cons] at *
  omega

/-- The tokens of a text and the line of its end. -/
def scan (text : String) : Except ReadError TokenStream :=
  scanFrom 1 text.toList

/-- All tokens of a text, the end of the text included. -/
def tokenize (text : String) : Except ReadError (List PlacedToken) :=
  TokenStream.toList <$> scan text

end Mockup.Schema
