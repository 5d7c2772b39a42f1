/-!
# The shortest decimal that reads back

A finite positive binary number `m · 2 ^ q` with a 53-bit significand is the nearest such number to
every real of an interval around it.  Among the decimals of that interval, `Binary.shortest` gives
one with the fewest digits, and of those the nearest to the number; where two are equally near, a
`Tie` says which one.

* `twos`, `tens`: powers of two and of ten;
* `Binary`: a significand and an exponent, with `Binary.ofFloat` for the finite floats;
* `Decimal`: digits and a power of ten;
* `Tie`: the choice half way between two decimals;
* `Binary.neighbours`: the two points of a decimal grid around a number;
* `Binary.readsBack`: a decimal lies in the interval of a number;
* `Binary.shortest`: the search over ever finer grids.
-/

namespace Mockup

/-- The number `digits * 10 ^ exponent`. -/
structure Decimal where
  digits : Nat
  exponent : Int
  deriving DecidableEq, Repr

namespace Decimal

/-- The power of two with this exponent, or one if the exponent is negative. -/
def twos (e : Int) : Nat :=
  Nat.pow 2 e.toNat

/-- The power of ten with this exponent, or one if the exponent is negative. -/
def tens (e : Int) : Nat :=
  Nat.pow 10 e.toNat

/-- The number `significand * 2 ^ exponent`, the significand being below `2 ^ 53`. -/
structure Binary where
  significand : Nat
  exponent : Int
  deriving DecidableEq, Repr

/-- The absolute value of a finite float. -/
def Binary.ofFloat (x : Float) : Binary :=
  let bits := x.toBits.toNat
  let biased : Nat := bits / twos 52 % twos 11
  let fraction : Nat := bits % twos 52
  if biased = 0 then ⟨fraction, -1074⟩ else ⟨twos 52 + fraction, (biased : Int) - 1075⟩

/-- The distances, in quarters of a unit of the last binary place, to the lower and the upper end of
the reals that round to the number: below a power of two the floats lie twice as close. -/
def Binary.reach (b : Binary) : Nat × Nat :=
  (if b.significand = twos 52 ∧ b.exponent > -1074 then 1 else 2, 2)

/-- The decimal rounds to the number.  The ends of the interval do so if the significand is even. -/
def Binary.readsBack (b : Binary) (d : Decimal) : Bool :=
  let unit := twos b.exponent
  let scale := twos (-b.exponent)
  let fine := tens (-d.exponent)
  let point := 4 * d.digits * tens d.exponent * scale
  let low := (4 * b.significand - b.reach.1) * unit * fine
  let high := (4 * b.significand + b.reach.2) * unit * fine
  if b.significand % 2 = 0 then low ≤ point && point ≤ high else low < point && point < high

/-- The power of ten that the first digit of a positive number counts. -/
def Binary.magnitude (b : Binary) : Int :=
  let num := b.significand * twos b.exponent
  let den := twos (-b.exponent)
  if den ≤ num then ((Nat.toDigits 10 (num / den)).length : Int) - 1
  else -((Nat.toDigits 10 ((den + num - 1) / num - 1)).length : Int)

/-- The greatest multiple of `10 ^ exponent` that is not above the number, and the next one. -/
def Binary.neighbours (b : Binary) (exponent : Int) : Decimal × Decimal :=
  let num := b.significand * twos b.exponent * tens (-exponent)
  let den := twos (-b.exponent) * tens exponent
  (⟨num / den, exponent⟩, ⟨num / den + 1, exponent⟩)

/-- The choice half way between two neighbours on a grid: the one with an even last digit, or the
upper. -/
inductive Tie where
  | toEven
  | up
  deriving DecidableEq, Repr

/-- The upper of two neighbours is chosen. -/
def Tie.prefersUpper (tie : Tie) (lower : Decimal) : Bool :=
  match tie with
  | .toEven => lower.digits % 2 = 1
  | .up => true

/-- The upper of two neighbours is the nearer one, or is chosen half way. -/
def Binary.prefersUpper (tie : Tie) (b : Binary) (lower : Decimal) : Bool :=
  let num := b.significand * twos b.exponent * tens (-lower.exponent)
  let den := twos (-b.exponent) * tens lower.exponent
  let twice := 2 * (num % den)
  if twice = den then tie.prefersUpper lower else den < twice

/-- The neighbour on the grid that reads back, the nearer one if both do. -/
def Binary.onGrid (tie : Tie) (b : Binary) (exponent : Int) : Option Decimal :=
  let (lower, upper) := b.neighbours exponent
  match b.readsBack lower, b.readsBack upper with
  | true, true => some (if b.prefersUpper tie lower then upper else lower)
  | true, false => some lower
  | false, true => some upper
  | false, false => none

/-- A decimal without zeros at its end. -/
def stripZeros : Nat → Decimal → Decimal
  | 0, d => d
  | fuel + 1, d =>
    if d.digits ≠ 0 ∧ d.digits % 10 = 0 then stripZeros fuel ⟨d.digits / 10, d.exponent + 1⟩ else d

/-- The fewest digits that read back as the positive number: seventeen always suffice. -/
def Binary.shortest (tie : Tie) (b : Binary) : Decimal :=
  let grids := (List.range 17).map fun n : Nat => b.magnitude - (n : Int)
  stripZeros 20 <| (grids.findSome? (b.onGrid tie)).getD ⟨b.significand, b.exponent⟩

end Decimal

end Mockup
