import Mockup.Text.Blank
import Mockup.Text.Case
import Mockup.Text.Numeric

/-!
# Derived names

* `pascalCase`: the words of a name, each with a capital, in a row;
* `slug`: a name in small letters, with dashes for all that is neither letter nor numeral;
* `heading`: a name as a heading;
* `occursIn`, `containsAny`, `hasEnding`: one text occurs in another, or ends it.
-/

namespace Mockup.Text

/-- The text with its first character in its capital form. -/
def capitalized : List Char → List Char
  | [] => []
  | c :: cs => upperChar c ++ cs

/-- The words of a text, which are its stretches of letters and numerals. -/
def words : List Char → List (List Char)
  | [] => []
  | c :: cs =>
    if isAlphanumeric c then
      match cs with
      | [] => [[c]]
      | d :: _ =>
        if isAlphanumeric d then
          match words cs with
          | w :: ws => (c :: w) :: ws
          | [] => [[c]]
        else [c] :: words cs
    else words cs

/-- The words of the text, each with a capital, in a row. -/
def pascalCase (s : String) : String :=
  String.ofList ((words s.toList).flatMap capitalized)

/-- The character of a slug that stands for a character. -/
def slugChar (c : Char) : Char :=
  if isAlphanumeric c then c.toLower else '-'

/-- The text in small Latin letters, with dashes for all that is neither letter nor numeral. -/
def slug (s : String) : String :=
  String.ofList (s.toList.map slugChar)

/-- The text as a heading: blanks for underscores and dashes, and a capital at the start. -/
def heading (s : String) : String :=
  String.ofList
    (capitalized (trimmed (s.toList.map fun c => if c = '_' ∨ c = '-' then ' ' else c)))

/-- The first text occurs in the second. -/
def occursIn (part : List Char) : List Char → Bool
  | [] => part.isEmpty
  | c :: cs => part.isPrefixOf (c :: cs) || occursIn part cs

/-- One of the parts occurs in the text. -/
def containsAny (s : String) (parts : List String) : Bool :=
  parts.any fun p => occursIn p.toList s.toList

def hasEnding (s ending : String) : Bool :=
  ending.toList.isSuffixOf s.toList

end Mockup.Text
