import Mockup.Text.Digits

/-!
# Reading decimals

* `Decimal.nearest`: the float that is nearest to a row of digits times a power of ten;
* `Decimal.real?`: the float that a text stands for.
-/

namespace Mockup.Decimal

/-- The float nearest to `digits * 10 ^ exponent`.  What is far beyond the range of floats is not
computed: it is infinite or zero. -/
def nearest (digits : List Char) (exponent : Int) : Float :=
  let significant := digits.dropWhile (· == '0')
  let place := significant.length + exponent
  if significant.isEmpty then 0.0
  else if 310 < place then 1.0 / 0.0
  else if place < -330 then 0.0
  else Float.ofScientific (Text.naturalOf significant) (exponent < 0) exponent.natAbs

/-- The number with the sign. -/
def withSign (negative : Bool) (x : Float) : Float :=
  if negative then -x else x

/-- A sign, if there is one, and what follows it. -/
def splitSign : List Char → Bool × List Char
  | '+' :: cs => (false, cs)
  | '-' :: cs => (true, cs)
  | cs => (false, cs)

/-- The digits at the start, and what follows them. -/
def splitDigits (cs : List Char) : List Char × List Char :=
  (cs.takeWhile Char.isDigit, cs.dropWhile Char.isDigit)

/-- The exponent part of a decimal: nothing, or a letter, an optional sign and digits. -/
def exponentPart? : List Char → Option Int
  | [] => some 0
  | mark :: cs =>
    let (negative, digits) := splitSign cs
    if (mark == 'e' || mark == 'E') && !digits.isEmpty && digits.all Char.isDigit then
      let size : Int := Text.naturalOf digits
      some (if negative then -size else size)
    else none

/-- The value of a decimal without a sign: digits, a point, digits and an exponent part, with at
least one digit. -/
def unsigned? (cs : List Char) : Option Float :=
  let (whole, rest) := splitDigits cs
  let (fraction, rest) := match rest with
    | '.' :: rest => splitDigits rest
    | rest => ([], rest)
  if whole.isEmpty && fraction.isEmpty then none
  else (exponentPart? rest).map fun e => nearest (whole ++ fraction) (e - fraction.length)

/-- The float that a text stands for: a decimal, or the name of a value that is no number, with a
sign or without. -/
def real? (s : String) : Option Float :=
  let (negative, cs) := splitSign s.toList
  let name := String.ofList (cs.map Char.toLower)
  if name = "inf" ∨ name = "infinity" then some (withSign negative (1.0 / 0.0))
  else if name = "nan" then some (0.0 / 0.0)
  else (unsigned? cs).map (withSign negative)

/-- The natural number below `bound` that a text stands for, with a plus sign or without. -/
def natural? (bound : Nat) (s : String) : Option Nat :=
  let digits := match s.toList with
    | '+' :: cs => cs
    | cs => cs
  if !digits.isEmpty && digits.all Char.isDigit && Text.naturalOf digits < bound then
    some (Text.naturalOf digits)
  else none

/-- The whole number of 64 bits that a text stands for. -/
def integer? (s : String) : Option Int :=
  let (negative, digits) := splitSign s.toList
  if digits.isEmpty || !digits.all Char.isDigit then none
  else
    let n := Text.naturalOf digits
    if negative then if n ≤ UInt64.size / 2 then some (-n) else none
    else if n < UInt64.size / 2 then some n else none

end Mockup.Decimal
