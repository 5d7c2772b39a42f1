import Mockup.Json.Basic
import Mockup.Text.Digits

/-!
# Reading numbers

A number without fraction and exponent that fits 64 bits is a whole number.  Any other is read as
a significand of at most 64 bits, whose later digits are dropped, and a power of ten that is applied
by one float operation; a number beyond the largest float is refused.

* `Json.number?`: the value of a number's text.
-/

namespace Mockup.Json

/-- Adds digits to a significand as long as it fits 64 bits; says how many were taken. -/
def takeDigits (significand taken : Nat) : List Char → Nat × Nat
  | [] => (significand, taken)
  | c :: cs =>
    let next := 10 * significand + (c.toNat - '0'.toNat)
    if next < UInt64.size then takeDigits next (taken + 1) cs else (significand, taken)

/-- Multiplies or divides by a power of ten; `none` when the result is beyond the largest float.
Divisors beyond the largest power of ten are applied in parts. -/
def scaled : Nat → Float → Int → Option Float
  | 0, x, _ => some x
  | fuel + 1, x, e =>
    if e.natAbs ≤ 308 then
      let power := Float.ofScientific 1 false e.natAbs
      if 0 ≤ e then
        let y := x * power
        if y.isInf then none else some y
      else some (x / power)
    else if x == 0 then some x
    else if 0 ≤ e then none
    else scaled fuel (x / 1e308) (e + 308)

/-- The float of a sign, a significand and a power of ten. -/
def realOf (negative : Bool) (significand : Nat) (e : Int) : Option Json :=
  (scaled 16 (Float.ofNat significand) (max e (-4000))).map fun x =>
    .real (if negative then -x else x)

/-- The exponent part of a number: nothing, or a mark, an optional sign and digits. -/
def exponent? : List Char → Option Int
  | [] => some 0
  | mark :: cs =>
    if mark = 'e' ∨ mark = 'E' then
      let (negative, digits) := match cs with
        | '+' :: rest => (false, rest)
        | '-' :: rest => (true, rest)
        | rest => (false, rest)
      if digits.isEmpty || !digits.all Char.isDigit then none
      else
        let size : Int := Text.naturalOf digits
        some (if negative then -size else size)
    else none

/-- The number whose digits before the point, digits after it and exponent part are given. -/
def numberOf (negative : Bool) (whole fraction : List Char) (tail : List Char) : Option Json := do
  let e ← exponent? tail
  let (significand, taken) := takeDigits 0 0 whole
  if taken < whole.length then
    realOf negative significand (e + (whole.length - taken : Nat))
  else
    let (significand, taken) := takeDigits significand 0 fraction
    realOf negative significand (e - taken)

/-- The value of the text of a number. -/
def number? (cs : List Char) : Option Json :=
  let (negative, cs) := match cs with
    | '-' :: rest => (true, rest)
    | rest => (false, rest)
  let whole := cs.takeWhile Char.isDigit
  let rest := cs.dropWhile Char.isDigit
  if whole.isEmpty || (whole.head? == some '0' && whole.length != 1) then none
  else match rest with
    | [] =>
      let n := Text.naturalOf whole
      if !negative && n < UInt64.size then some (.int n)
      else if negative && 0 < n && n ≤ UInt64.size / 2 then some (.int (-n))
      else numberOf negative whole [] []
    | '.' :: rest =>
      let fraction := rest.takeWhile Char.isDigit
      if fraction.isEmpty then none
      else numberOf negative whole fraction (rest.dropWhile Char.isDigit)
    | rest => numberOf negative whole [] rest

end Mockup.Json
