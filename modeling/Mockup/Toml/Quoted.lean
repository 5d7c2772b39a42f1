import Mockup.Text.Digits

/-!
# Quoted texts of TOML

Texts stand between double quotes, with escapes, or between single quotes, without them; three
quotes hold a text of several lines.

* `Toml.basic`, `Toml.literal`: the rest of a text of one line, after its opening quote;
* `Toml.longBasic`, `Toml.longLiteral`: the same for texts of several lines;
* `Toml.quoted?`: a quoted text at the start of a list of characters.
-/

namespace Mockup.Toml

/-- The characters that are neither control characters nor line ends; the tab is one of them. -/
def isPlain (c : Char) : Bool :=
  c == '\t' || (0x20 ≤ c.toNat && c.toNat != 0x7F)

/-- The character for a letter after a backslash. -/
def escaped? : Char → Option Char
  | 'b' => some '\x08'
  | 't' => some '\t'
  | 'n' => some '\n'
  | 'f' => some '\x0c'
  | 'r' => some '\x0d'
  | '"' => some '"'
  | '\\' => some '\\'
  | _ => none

/-- The character whose number these hexadecimal digits give. -/
def hexChar? (digits : List Char) : Option Char := do
  let n ← Text.hexNatural? digits
  if n.isValidChar then some (Char.ofNat n) else none

/-- A text up to its end and the rest, with one more character in front. -/
def withChar (c : Option Char) (next : Option (List Char × List Char)) :
    Option (List Char × List Char) := do
  let c ← c
  let (cs, rest) ← next
  return (c :: cs, rest)

/-- A text with escapes, up to a double quote. -/
def basic : List Char → Option (List Char × List Char)
  | [] => none
  | '"' :: rest => some ([], rest)
  | '\\' :: 'u' :: a :: b :: c :: d :: rest => withChar (hexChar? [a, b, c, d]) (basic rest)
  | '\\' :: 'U' :: a :: b :: c :: d :: e :: f :: g :: h :: rest =>
    withChar (hexChar? [a, b, c, d, e, f, g, h]) (basic rest)
  | '\\' :: c :: rest => withChar (escaped? c) (basic rest)
  | c :: rest => if isPlain c && c != '\\' then withChar (some c) (basic rest) else none

/-- A text without escapes, up to a single quote. -/
def literal : List Char → Option (List Char × List Char)
  | [] => none
  | '\'' :: rest => some ([], rest)
  | c :: rest => if isPlain c then withChar (some c) (literal rest) else none

/-- Only blanks stand before the next line end. -/
def endsLine (cs : List Char) : Bool :=
  match cs.dropWhile fun c => c == ' ' || c == '\t' with
  | '\n' :: _ | '\x0d' :: '\n' :: _ => true
  | _ => false

/-- A text of several lines with escapes, up to three double quotes.  A backslash at the end of a
line takes away all blanks and line ends up to the next character: those are `skipped`. -/
def longBasic (skipped : Bool) : List Char → Option (List Char × List Char)
  | '"' :: '"' :: '"' :: '"' :: '"' :: rest => some (['"', '"'], rest)
  | '"' :: '"' :: '"' :: '"' :: rest => some (['"'], rest)
  | '"' :: '"' :: '"' :: rest => some ([], rest)
  | '\\' :: 'u' :: a :: b :: c :: d :: rest =>
    withChar (hexChar? [a, b, c, d]) (longBasic false rest)
  | '\\' :: 'U' :: a :: b :: c :: d :: e :: f :: g :: h :: rest =>
    withChar (hexChar? [a, b, c, d, e, f, g, h]) (longBasic false rest)
  | '\\' :: c :: rest =>
    if endsLine (c :: rest) then longBasic true (c :: rest)
    else withChar (escaped? c) (longBasic false rest)
  | '\x0d' :: '\n' :: rest =>
    if skipped then longBasic true rest else withChar (some '\n') (longBasic false rest)
  | c :: rest =>
    if skipped && (c == ' ' || c == '\t' || c == '\n') then longBasic true rest
    else if (isPlain c && c != '\\') || c == '\n' then withChar (some c) (longBasic false rest)
    else none
  | [] => none

/-- A text of several lines without escapes, up to three single quotes. -/
def longLiteral : List Char → Option (List Char × List Char)
  | '\'' :: '\'' :: '\'' :: '\'' :: '\'' :: rest => some (['\'', '\''], rest)
  | '\'' :: '\'' :: '\'' :: '\'' :: rest => some (['\''], rest)
  | '\'' :: '\'' :: '\'' :: rest => some ([], rest)
  | '\x0d' :: '\n' :: rest => withChar (some '\n') (longLiteral rest)
  | c :: rest =>
    if isPlain c || c == '\n' then withChar (some c) (longLiteral rest) else none
  | [] => none

/-- The text without a line end at its start. -/
def dropLineEnd : List Char → List Char
  | '\n' :: rest => rest
  | '\x0d' :: '\n' :: rest => rest
  | cs => cs

/-- A quoted text of one line. -/
def quotedKey? : List Char → Option (List Char × List Char)
  | '"' :: rest => basic rest
  | '\'' :: rest => literal rest
  | _ => none

/-- A quoted text. -/
def quoted? : List Char → Option (List Char × List Char)
  | '"' :: '"' :: '"' :: rest => longBasic false (dropLineEnd rest)
  | '\'' :: '\'' :: '\'' :: rest => longLiteral (dropLineEnd rest)
  | cs => quotedKey? cs

end Mockup.Toml
