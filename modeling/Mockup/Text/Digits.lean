/-!
# Digits and blanks in a list of characters

* `naturalOf`: the number that decimal digits denote;
* `hexValue?`, `hexNatural?`: the value of one digit in base sixteen, and the number of several;
* `dropBlanks`: the rest after spaces and tabs.
-/

namespace Mockup.Text

/-- The number that a row of decimal digits denotes. -/
def naturalOf (digits : List Char) : Nat :=
  digits.foldl (fun n c => 10 * n + (c.toNat - '0'.toNat)) 0

/-- The value of a digit in base sixteen. -/
def hexValue? (c : Char) : Option Nat :=
  if c.isDigit then some (c.toNat - '0'.toNat)
  else if 'a' ≤ c ∧ c ≤ 'f' then some (c.toNat - 'a'.toNat + 10)
  else if 'A' ≤ c ∧ c ≤ 'F' then some (c.toNat - 'A'.toNat + 10)
  else none

/-- The number that a row of digits in base sixteen denotes. -/
def hexNatural? (digits : List Char) : Option Nat :=
  digits.foldlM (fun n c => (hexValue? c).map (16 * n + ·)) 0

/-- The rest after spaces and tabs. -/
def dropBlanks (cs : List Char) : List Char :=
  cs.dropWhile fun c => c == ' ' || c == '\t'

end Mockup.Text
