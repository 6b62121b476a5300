/-!
# The calendar

Dates of the Gregorian calendar, extended to all years, and their numbers.

## Main Definitions

* `Date` — year, month and day
* `Date.number` — the number of days from the first of January 1970 to a date
* `Date.ofNumber` — the date with a given number

## Design Notes

Years are counted from the year zero, which is a leap year.  The year of a day is found by
dividing by the mean length of a year and correcting the quotient by at most one.
-/

namespace RecordQuery

-- sums start from the literal zero, whatever other zeros a library brings
attribute [local instance (high)] Zero.ofOfNat0

/-- Whether a year has 366 days. -/
def isLeapYear (year : Int) : Bool :=
  year % 4 = 0 ∧ (year % 100 ≠ 0 ∨ year % 400 = 0)

/-- The number of days from the first day of the year zero to that of the given year. -/
def daysBeforeYear (year : Int) : Int :=
  365 * year + (year + 3) / 4 - (year + 99) / 100 + (year + 399) / 400

/-- The lengths of the months of a year. -/
def monthLengths (leap : Bool) : List Nat :=
  [31, if leap then 29 else 28, 31, 30, 31, 30, 31, 31, 30, 31, 30, 31]

/-- The number of days from the first day of the year zero to the first of January 1970. -/
def daysBeforeEpoch : Int := 719528

/-- The year that a day falls in, where days are counted from the first one of the year zero. -/
def yearOfDay (day : Int) : Int :=
  let guess := 400 * day / 146097
  if daysBeforeYear (guess + 1) ≤ day then guess + 1
  else if daysBeforeYear guess ≤ day then guess
  else guess - 1

/-- The month and the day of the month of a day, both counted from zero: every month that is
over takes its length off. -/
def monthOfDay : List Nat → Nat → Nat × Nat
  | [], day => (0, day)
  | length :: lengths, day =>
    if day < length then (0, day)
    else
      let (month, rest) := monthOfDay lengths (day - length)
      (month + 1, rest)

/-- A date. -/
structure Date where
  /-- The year; the year before the year one is zero. -/
  year : Int
  /-- The month, counted from one. -/
  month : Nat
  /-- The day of the month, counted from one. -/
  day : Nat
  deriving DecidableEq, Repr

namespace Date

/-- A date exists when its month is one of the twelve and its day lies in the month. -/
def Exists (date : Date) : Prop :=
  1 ≤ date.month ∧ date.month ≤ 12 ∧ 1 ≤ date.day ∧
    date.day ≤ (monthLengths (isLeapYear date.year)).getD (date.month - 1) 0

instance (date : Date) : Decidable date.Exists :=
  inferInstanceAs (Decidable (_ ∧ _ ∧ _ ∧ _))

/-- The number of days from the first of January 1970 to a date. -/
def number (date : Date) : Int :=
  let months := (monthLengths (isLeapYear date.year)).take (date.month - 1)
  daysBeforeYear date.year + (months.sum + (date.day - 1) : Nat) - daysBeforeEpoch

/-- The date that lies a number of days after the first of January 1970. -/
def ofNumber (number : Int) : Date :=
  let day := number + daysBeforeEpoch
  let year := yearOfDay day
  let (month, rest) :=
    monthOfDay (monthLengths (isLeapYear year)) (day - daysBeforeYear year).toNat
  ⟨year, month + 1, rest + 1⟩

end Date

end RecordQuery
