import Mockup.Decimal.Shortest

/-!
# Floats as text

Two ways to write the shortest decimal of a float.

* `Decimal.plain`: positional at any size, without a point when there is no fraction;
* `Decimal.scientific`: positional in the middle range, always with a point, and with an exponent
  outside it; used for the numbers of data files and messages.
-/

namespace Mockup.Decimal

/-- The digits of the decimal, first digit first. -/
def digitChars (d : Decimal) : List Char :=
  Nat.toDigits 10 d.digits

/-- The number of digits before the point, negative if zeros follow it. -/
def pointPlace (d : Decimal) : Int :=
  d.digitChars.length + d.exponent

/-- The decimal in positional notation, with `tail` when it has no fraction. -/
def positional (tail : List Char) (d : Decimal) : List Char :=
  let digits := d.digitChars
  if 0 ≤ d.exponent then digits ++ List.replicate d.exponent.toNat '0' ++ tail
  else if 0 < d.pointPlace then
    digits.take d.pointPlace.toNat ++ '.' :: digits.drop d.pointPlace.toNat
  else '0' :: '.' :: List.replicate (-d.pointPlace).toNat '0' ++ digits

/-- The decimal with one digit before the point and an exponent with its sign. -/
def exponential (d : Decimal) : List Char :=
  let mantissa := match d.digitChars with
    | [] => []
    | [c] => [c]
    | c :: cs => c :: '.' :: cs
  let power := d.pointPlace - 1
  mantissa ++ 'e' :: (if 0 ≤ power then ['+'] else ['-']) ++ Nat.toDigits 10 power.natAbs

/-- The sign of a float, then its absolute value written by `finite`, or the name of a value that is
no number. -/
def written (tie : Tie) (finite : Option Decimal → List Char) (x : Float) : String :=
  if x.isNaN then "NaN"
  else
    let sign := if x.toBits.toNat / twos 63 = 1 then ['-'] else []
    let size := if x.isInf then ['i', 'n', 'f']
      else if x == 0 then finite none
      else finite (some ((Binary.ofFloat x).shortest tie))
    String.ofList (sign ++ size)

/-- A float in positional notation, `2` for two and `0.000001` for a millionth.  Half way between
two decimals, the one that is farther from zero is taken. -/
def plain (x : Float) : String :=
  written .up (fun
    | none => ['0']
    | some d => d.positional []) x

/-- A float in positional notation from a hundred-thousandth up to sixteen digits before the point,
and with an exponent beyond: `2.0`, `0.00001`, `1e+21`.  Half way between two decimals, the one with
an even last digit is taken. -/
def scientific (x : Float) : String :=
  written .toEven (fun
    | none => ['0', '.', '0']
    | some d =>
      if -5 < d.pointPlace ∧ d.pointPlace ≤ 16 then d.positional ['.', '0'] else d.exponential) x

end Mockup.Decimal
