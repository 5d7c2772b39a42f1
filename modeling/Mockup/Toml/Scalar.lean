import Mockup.Config.Setting
import Mockup.Decimal.Reading

/-!
# Words of a TOML text

Truth values, numbers and times are words: stretches of letters, digits and a few signs.

* `Toml.isWordChar`: the characters of words;
* `Toml.integer?`, `Toml.real?`: the value of a word for a number;
* `Toml.moment?`: the text of a date, of a time of the day, or of both;
* `Toml.scalar?`: the value of a word for a truth value or a number.
-/

namespace Mockup.Toml

/-- The characters of words. -/
def isWordChar (c : Char) : Bool :=
  c.isAlphanum || c == '+' || c == '-' || c == '_' || c == '.' || c == ':'

/-! ### Numbers -/

/-- A row of digits in which single underscores may stand between digits; without them. -/
def grouped (isDigit : Char → Bool) : List Char → Option (List Char)
  | [] => none
  | [c] => if isDigit c then some [c] else none
  | c :: d :: cs =>
    if isDigit c then
      if d = '_' then (grouped isDigit cs).map (c :: ·)
      else (grouped isDigit (d :: cs)).map (c :: ·)
    else none

/-- A row of decimal digits that begins with zero only if it is zero. -/
def plainDigits (cs : List Char) : Option (List Char) :=
  (grouped Char.isDigit cs).filter fun digits => digits.length == 1 || digits.head? != some '0'

/-- The digits in base sixteen. -/
def isHexDigit (c : Char) : Bool :=
  (Text.hexValue? c).isSome

/-- The number that digits stand for in a base. -/
def inBase (base : Nat) (digits : List Char) : Nat :=
  digits.foldl (fun n c => base * n + (Text.hexValue? c).getD 0) 0

/-- A number, unless it is beyond the range of 64 bits with sign. -/
def bounded? (n : Int) : Option Setting :=
  if Int64.minValue.toInt ≤ n ∧ n ≤ Int64.maxValue.toInt then some (.int n) else none

/-- A whole number: decimal with a sign or without, or in base 16, 8 or 2 without a sign. -/
def integer? : List Char → Option Setting
  | '0' :: 'x' :: cs => (grouped isHexDigit cs).bind fun ds => bounded? (inBase 16 ds)
  | '0' :: 'o' :: cs =>
    (grouped (fun c => '0' ≤ c && c ≤ '7') cs).bind fun ds => bounded? (inBase 8 ds)
  | '0' :: 'b' :: cs =>
    (grouped (fun c => c == '0' || c == '1') cs).bind fun ds => bounded? (inBase 2 ds)
  | cs =>
    let (negative, digits) := Decimal.splitSign cs
    (plainDigits digits).bind fun ds =>
      let n : Int := inBase 10 ds
      bounded? (if negative then -n else n)

/-- The exponent of a real number: a letter, an optional sign and digits. -/
def exponent? : List Char → Option Int
  | [] => some 0
  | mark :: cs =>
    let (negative, digits) := Decimal.splitSign cs
    if mark = 'e' ∨ mark = 'E' then
      (grouped Char.isDigit digits).map fun ds =>
        let n : Int := inBase 10 ds
        if negative then -n else n
    else none

/-- The letters that begin an exponent. -/
def isExponentMark (c : Char) : Bool :=
  c == 'e' || c == 'E'

/-- A real number without a sign: digits, then a point and digits, or an exponent, or both. -/
def unsignedReal? (cs : List Char) : Option Float := do
  let whole ← plainDigits (cs.takeWhile fun c => c != '.' && !isExponentMark c)
  match cs.dropWhile fun c => c != '.' && !isExponentMark c with
  | '.' :: rest =>
    let fraction ← grouped Char.isDigit (rest.takeWhile (!isExponentMark ·))
    let e ← exponent? (rest.dropWhile (!isExponentMark ·))
    return Decimal.nearest (whole ++ fraction) (e - fraction.length)
  | mark :: rest => return Decimal.nearest whole (← exponent? (mark :: rest))
  | [] => none

/-- A real number, which may be infinite only if it is written so, or is negative. -/
def real? (cs : List Char) : Option Setting :=
  let (negative, cs) := Decimal.splitSign cs
  if cs = ['i', 'n', 'f'] then some (.real (Decimal.withSign negative (1.0 / 0.0)))
  else if cs = ['n', 'a', 'n'] then some (.real (Decimal.withSign negative (0.0 / 0.0)))
  else (unsignedReal? cs).bind fun x =>
    if x.isInf && !negative then none else some (.real (Decimal.withSign negative x))

/-! ### Times -/

/-- The number that two digits stand for, if it is between two bounds. -/
def twoDigits? (low high : Nat) (a b : Char) : Option Nat :=
  if a.isDigit && b.isDigit then
    let n := inBase 10 [a, b]
    if low ≤ n ∧ n ≤ high then some n else none
  else none

/-- The number of days of a month. -/
def daysIn (year month : Nat) : Nat :=
  if month = 2 then
    if year % 4 = 0 ∧ (year % 100 ≠ 0 ∨ year % 400 = 0) then 29 else 28
  else if month = 4 ∨ month = 6 ∨ month = 9 ∨ month = 11 then 30
  else 31

/-- The rest after a date, if there is a date at the start. -/
def afterDate? : List Char → Option (List Char)
  | y₁ :: y₂ :: y₃ :: y₄ :: '-' :: m₁ :: m₂ :: '-' :: d₁ :: d₂ :: rest =>
    if [y₁, y₂, y₃, y₄].all Char.isDigit then do
      let month ← twoDigits? 1 12 m₁ m₂
      let _ ← twoDigits? 1 (daysIn (inBase 10 [y₁, y₂, y₃, y₄]) month) d₁ d₂
      return rest
    else none
  | _ => none

/-- The rest after the fraction of a second, which may be missing. -/
def afterFraction? : List Char → Option (List Char)
  | '.' :: c :: rest => if c.isDigit then some (rest.dropWhile Char.isDigit) else none
  | '.' :: [] => none
  | rest => some rest

/-- The rest after a time of the day, if there is one at the start. -/
def afterTime? : List Char → Option (List Char)
  | h₁ :: h₂ :: ':' :: m₁ :: m₂ :: ':' :: s₁ :: s₂ :: rest => do
    let _ ← twoDigits? 0 23 h₁ h₂
    let _ ← twoDigits? 0 59 m₁ m₂
    let _ ← twoDigits? 0 60 s₁ s₂
    afterFraction? rest
  | _ => none

/-- A shift against universal time, or nothing. -/
def isShift : List Char → Bool
  | [] | ['Z'] | ['z'] => true
  | sign :: h₁ :: h₂ :: ':' :: m₁ :: m₂ :: [] =>
    (sign == '+' || sign == '-') && (twoDigits? 0 23 h₁ h₂).isSome && (twoDigits? 0 59 m₁ m₂).isSome
  | _ => false

/-- A time of the day with a shift or without. -/
def isShiftedTime (cs : List Char) : Bool :=
  (afterTime? cs).any isShift

def isDate (cs : List Char) : Bool :=
  afterDate? cs == some []

/-- The characters between a date and a time. -/
def isTimeMark (c : Char) : Bool :=
  c == 'T' || c == 't' || c == ' '

/-- A date, a time of the day, or both with a mark between them: the text as it stands. -/
def moment? (cs : List Char) : Option String :=
  let holds := match afterDate? cs with
    | some [] => true
    | some (mark :: rest) => isTimeMark mark && isShiftedTime rest
    | none => afterTime? cs == some []
  if holds then some (String.ofList cs) else none

/-! ### Words -/

/-- The value of a word that is not a date or a time. -/
def scalar? (word : List Char) : Option Setting :=
  if word = ['t', 'r', 'u', 'e'] then some (.bool true)
  else if word = ['f', 'a', 'l', 's', 'e'] then some (.bool false)
  else real? word <|> integer? word

end Mockup.Toml
