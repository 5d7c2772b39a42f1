import Mockup.Json.Number
import Mockup.Text.Digits

/-!
# Reading data values

A text is cut into lexemes, and the lexemes are read by a machine that keeps the containers it is
inside of as a stack of frames.

* `Json.lexemes`: the lexemes of a text;
* `Json.readValue`, `Json.readRest`: the two states of the machine;
* `Json.parse`: the value that a whole text denotes, if it denotes one.
-/

namespace Mockup.Json

/-- The smallest parts of a text. -/
inductive Lexeme where
  | openObject
  | closeObject
  | openList
  | closeList
  | comma
  | colon
  | value (v : Json)

/-- The lexeme that one character makes. -/
def mark? : Char → Option Lexeme
  | '\x7b' => some .openObject
  | '\x7d' => some .closeObject
  | '[' => some .openList
  | ']' => some .closeList
  | ',' => some .comma
  | ':' => some .colon
  | _ => none

/-- The UTF-16 unit of four digits. -/
def unit? (a b c d : Char) : Option Nat :=
  Text.hexNatural? [a, b, c, d]

/-- The character that a backslash and this letter stand for. -/
def escaped? : Char → Option Char
  | '"' => some '"'
  | '\\' => some '\\'
  | '/' => some '/'
  | 'b' => some '\x08'
  | 'f' => some '\x0c'
  | 'n' => some '\n'
  | 'r' => some '\r'
  | 't' => some '\t'
  | _ => none

/-- Puts a character before a text that is read up to its closing quote. -/
def consText (c : Char) : Option (List Char × List Char) → Option (List Char × List Char)
  | some (cs, rest) => some (c :: cs, rest)
  | none => none

/-- The rest of a quoted text after its opening quote, and what follows the closing quote.  Two
UTF-16 units of a pair make one character, and a unit of a pair that stands alone is refused. -/
def quotedText : List Char → Option (List Char × List Char)
  | '"' :: rest => some ([], rest)
  | '\\' :: 'u' :: a :: b :: c :: d :: rest =>
    match unit? a b c d with
    | none => none
    | some high =>
      if high < 0xD800 ∨ 0xDFFF < high then consText (Char.ofNat high) (quotedText rest)
      else if 0xDBFF < high then none
      else match rest with
        | '\\' :: 'u' :: a :: b :: c :: d :: rest =>
          match unit? a b c d with
          | none => none
          | some low =>
            if low < 0xDC00 ∨ 0xDFFF < low then none
            else consText (Char.ofNat (0x10000 + (high - 0xD800) * 0x400 + (low - 0xDC00)))
              (quotedText rest)
        | _ => none
  | '\\' :: c :: rest =>
    match escaped? c with
    | some e => consText e (quotedText rest)
    | none => none
  | c :: rest => if c.toNat < 0x20 then none else consText c (quotedText rest)
  | [] => none

theorem length_of_consText {c : Char} {o : Option (List Char × List Char)}
    {s rest : List Char} (h : consText c o = some (s, rest)) :
    ∃ s', o = some (s', rest) := by
  cases o with
  | none => simp [consText] at h
  | some p =>
    simp only [consText, Option.some.injEq, Prod.mk.injEq] at h
    exact ⟨p.1, by rw [← h.2]⟩

theorem length_quotedText {cs s rest : List Char} (h : quotedText cs = some (s, rest)) :
    rest.length < cs.length := by
  fun_induction quotedText cs generalizing s with
  | case1 => cases h; simp
  | case2 => cases h
  | case3 _ _ _ _ _ _ _ _ ih =>
    obtain ⟨s', hs'⟩ := length_of_consText h
    have := ih hs'
    simp only [List.length_cons]; omega
  | case4 => cases h
  | case5 => cases h
  | case6 => cases h
  | case7 _ _ _ _ _ _ _ _ _ _ _ _ _ _ _ _ ih =>
    obtain ⟨s', hs'⟩ := length_of_consText h
    have := ih hs'
    simp only [List.length_cons]; omega
  | case8 => cases h
  | case9 _ _ _ _ _ ih =>
    obtain ⟨s', hs'⟩ := length_of_consText h
    have := ih hs'
    simp only [List.length_cons]; omega
  | case10 => cases h
  | case11 => cases h
  | case12 _ _ _ _ _ _ ih =>
    obtain ⟨s', hs'⟩ := length_of_consText h
    have := ih hs'
    simp only [List.length_cons]; omega
  | case13 => cases h

/-- The characters of numbers and words. -/
def isBare (c : Char) : Bool :=
  c.isAlphanum || c = '+' || c = '-' || c = '.'

/-- The value of a word or a number. -/
def bare? (cs : List Char) : Option Json :=
  if cs = "null".toList then some .null
  else if cs = "true".toList then some (.bool true)
  else if cs = "false".toList then some (.bool false)
  else number? cs

/-- The lexemes of a text, in order. -/
def lexemes (cs : List Char) : Option (List Lexeme) :=
  match cs with
  | [] => some []
  | c :: rest =>
    if c = ' ' ∨ c = '\n' ∨ c = '\r' ∨ c = '\t' then lexemes rest
    else match mark? c with
      | some m => (m :: ·) <$> lexemes rest
      | none =>
        if c = '"' then
          match _h : quotedText rest with
          | some (s, rest') => (.value (.text (String.ofList s)) :: ·) <$> lexemes rest'
          | none => none
        else if isBare c then
          match bare? (c :: rest.takeWhile isBare) with
          | some v => (.value v :: ·) <$> lexemes (rest.dropWhile isBare)
          | none => none
        else none
termination_by cs.length
decreasing_by
  · simp
  · simp
  · have := length_quotedText _h; simp only [List.length_cons]; omega
  · have := (List.dropWhile_sublist isBare (l := rest)).length_le
    simp only [List.length_cons]; omega

/-- A container that is being read: the items or the members so far, last first, and for an object
the key whose value is read next. -/
inductive Frame where
  | list (items : List Json)
  | object (members : List (String × Json)) (key : String)

/-- The number of containers that may be open at once. -/
def maxDepth : Nat := 127

mutual

/-- Reads a value inside the given containers, innermost first. -/
def readValue (frames : List Frame) : List Lexeme → Option Json
  | .value v :: rest => readRest v frames rest
  | .openList :: .closeList :: rest =>
    if frames.length < maxDepth then readRest (.list []) frames rest else none
  | .openList :: rest =>
    if frames.length < maxDepth then readValue (.list [] :: frames) rest else none
  | .openObject :: .closeObject :: rest =>
    if frames.length < maxDepth then readRest (.obj []) frames rest else none
  | .openObject :: .value (.text key) :: .colon :: rest =>
    if frames.length < maxDepth then readValue (.object [] key :: frames) rest else none
  | _ => none

/-- Goes on after a value inside the given containers. -/
def readRest (v : Json) : List Frame → List Lexeme → Option Json
  | [], [] => some v
  | .list items :: frames, .comma :: rest => readValue (.list (v :: items) :: frames) rest
  | .list items :: frames, .closeList :: rest =>
    readRest (.list (v :: items).reverse) frames rest
  | .object members key :: frames, .comma :: .value (.text next) :: .colon :: rest =>
    readValue (.object (insertMember key v members) next :: frames) rest
  | .object members key :: frames, .closeObject :: rest =>
    readRest (.obj (insertMember key v members)) frames rest
  | _, _ => none

end

/-- The value that the text denotes; of two members with one key the later counts. -/
def parse (s : String) : Option Json :=
  lexemes s.toList >>= readValue []

end Mockup.Json
