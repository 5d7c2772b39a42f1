/-!
# Instants

* `daysInYear`, `monthDays`: the lengths of years and months;
* `instantText`: a number of nanoseconds since the start of 1970 as date and time.
-/

namespace Mockup.Text

/-- The year has a 29th of February. -/
def isLeapYear (year : Nat) : Bool :=
  year % 4 == 0 && (year % 100 != 0 || year % 400 == 0)

/-- The number of days of a year. -/
def daysInYear (year : Nat) : Nat :=
  if isLeapYear year then 366 else 365

/-- The lengths of the months of a year. -/
def monthDays (year : Nat) : List Nat :=
  [31, if isLeapYear year then 29 else 28, 31, 30, 31, 30, 31, 31, 30, 31, 30, 31]

/-- The year and the day in it, both counted from zero, of a day counted from the start of
`year`. -/
def yearAndDay (year : Nat) (day : Nat) : Nat × Nat :=
  if day < daysInYear year then (year, day) else yearAndDay (year + 1) (day - daysInYear year)
termination_by day
decreasing_by
  have : 0 < daysInYear year := by unfold daysInYear; split <;> decide
  omega

/-- The month, counted from one, and the day of the month, counted from zero, of a day of a year. -/
def monthAndDay (month : Nat) (day : Nat) : List Nat → Nat × Nat
  | [] => (month, day)
  | days :: rest => if day < days then (month, day) else monthAndDay (month + 1) (day - days) rest

/-- A number with zeros in front, so that it has at least this many digits. -/
def padded (width n : Nat) : String :=
  let digits := Nat.toDigits 10 n
  String.ofList (List.replicate (width - digits.length) '0' ++ digits)

/-- The fraction of a second in as many groups of three digits as are needed. -/
def nanosText (nanos : Nat) : String :=
  if nanos = 0 then ""
  else if nanos % 1000000 = 0 then "." ++ padded 3 (nanos / 1000000)
  else if nanos % 1000 = 0 then "." ++ padded 6 (nanos / 1000)
  else "." ++ padded 9 nanos

/-- Date and time, in universal time, of an instant in nanoseconds since the start of 1970. -/
def instantText (instant : Nat) : String :=
  let seconds := instant / 1000000000
  let (year, dayOfYear) := yearAndDay 1970 (seconds / 86400)
  let (month, day) := monthAndDay 1 dayOfYear (monthDays year)
  padded 4 year ++ "-" ++ padded 2 month ++ "-" ++ padded 2 (day + 1)
    ++ "T" ++ padded 2 (seconds / 3600 % 24) ++ ":" ++ padded 2 (seconds / 60 % 60)
    ++ ":" ++ padded 2 (seconds % 60) ++ nanosText (instant % 1000000000) ++ "Z"

end Mockup.Text
