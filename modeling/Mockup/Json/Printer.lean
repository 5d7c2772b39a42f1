import Mockup.Json.Basic
import Mockup.Decimal.Layout

/-!
# Writing data values

* `Json.render`: a data value as one line of text that holds only the characters below U+0080:
  every other character is written by its UTF-16 units;
* `Json.renderIndented`: the same on several lines, with two blanks for each level.
-/

namespace Mockup.Json

/-- One UTF-16 unit as an escape of four digits. -/
def unitEscape (n : Nat) : List Char :=
  let digits := Nat.toDigits 16 n
  '\\' :: 'u' :: List.replicate (4 - digits.length) '0' ++ digits

/-- A character inside a quoted text. -/
def escapeChar (c : Char) : List Char :=
  if c = '"' then ['\\', '"']
  else if c = '\\' then ['\\', '\\']
  else if c.toNat < 0x20 ∨ (0x7F ≤ c.toNat ∧ c.toNat < 0x10000) then unitEscape c.toNat
  else if c.toNat < 0x10000 then [c]
  else
    let n := c.toNat - 0x10000
    unitEscape (0xD800 + n / 0x400) ++ unitEscape (0xDC00 + n % 0x400)

/-- A text between quotes. -/
def renderText (s : String) : String :=
  String.ofList ('"' :: s.toList.flatMap escapeChar ++ ['"'])

mutual

/-- The value on one line. -/
def render : Json → String
  | .null => "null"
  | .bool true => "true"
  | .bool false => "false"
  | .int n => toString n
  | .real x => Decimal.scientific x
  | .text s => renderText s
  | .list items => "[" ++ ",".intercalate (renderItems items) ++ "]"
  | .obj members => "\x7b" ++ ",".intercalate (renderMembers members) ++ "\x7d"

def renderItems : List Json → List String
  | [] => []
  | item :: rest => item.render :: renderItems rest

def renderMembers : List (String × Json) → List String
  | [] => []
  | (key, value) :: rest => (renderText key ++ ":" ++ value.render) :: renderMembers rest

end

/-- Parts on lines of their own, one level deeper than the brackets around them. -/
def block (opening closing : String) (level : Nat) (parts : List String) : String :=
  if parts.isEmpty then opening ++ closing
  else
    let line := "\n" ++ String.ofList (List.replicate (2 * level) ' ')
    opening ++ line ++ "  " ++ (",".append (line ++ "  ")).intercalate parts ++ line ++ closing

mutual

/-- The value on several lines, the first of which stands at the given level. -/
def renderIndented (level : Nat) : Json → String
  | .list items => block "[" "]" level (indentedItems (level + 1) items)
  | .obj members => block "\x7b" "\x7d" level (indentedMembers (level + 1) members)
  | value => value.render

def indentedItems (level : Nat) : List Json → List String
  | [] => []
  | item :: rest => renderIndented level item :: indentedItems level rest

def indentedMembers (level : Nat) : List (String × Json) → List String
  | [] => []
  | (key, value) :: rest =>
    (renderText key ++ ": " ++ renderIndented level value) :: indentedMembers level rest

end

end Mockup.Json
