import RecordQuery.Text.Numeral
import RecordQuery.Time.Calendar
import RecordQuery.Time.Instant

/-!
# Timestamps

The written form of instants, as `2024-02-29T12:30:00.250+00:00`.

## Main Definitions

* `Instant.text` — the written form, in universal time
* `Instant.read?` — the instant that a text stands for, whatever its offset

## Design Notes

Written timestamps have as many digits of a second as the instant needs, in groups of three.
Read ones may have any number of them, of which nine count.  The second `60` is the leap second.
-/

namespace RecordQuery

namespace Instant

/-- The characters of a year: four digits, and a sign in front of a year of another length. -/
def yearChars (year : Int) : List Char :=
  if year < 0 then '-' :: Numeral.decimal 4 year.natAbs
  else if 9999 < year then '+' :: Numeral.decimal 4 year.natAbs
  else Numeral.decimal 4 year.natAbs

/-- The fraction of a second: none, or three, six or nine digits. -/
def fractionChars (nanos : Nat) : List Char :=
  if nanos = 0 then []
  else if nanos % 10 ^ 6 = 0 then '.' :: Numeral.decimal 3 (nanos / 10 ^ 6)
  else if nanos % 10 ^ 3 = 0 then '.' :: Numeral.decimal 6 (nanos / 10 ^ 3)
  else '.' :: Numeral.decimal 9 nanos

/-- The characters of an instant, in universal time. -/
def chars (t : Instant) : List Char :=
  let date := Date.ofNumber (t.seconds / 86400)
  let second := (t.seconds % 86400).toNat
  yearChars date.year ++ '-' :: Numeral.decimal 2 date.month ++
    '-' :: Numeral.decimal 2 date.day ++
    'T' :: Numeral.decimal 2 (second / 3600) ++ ':' :: Numeral.decimal 2 (second / 60 % 60) ++
    ':' :: Numeral.decimal 2 (second % 60 + if t.isLeap then 1 else 0) ++
    fractionChars (t.nanos % 10 ^ 9) ++ ['+', '0', '0', ':', '0', '0']

/-- The text of an instant. -/
def text (t : Instant) : String := String.ofList t.chars

/-- Takes a numeral of exactly `width` decimal digits off the front. -/
def number? (width : Nat) (cs : List Char) : Option (Nat × List Char) :=
  if width ≤ cs.length then
    (Numeral.read? 10 (cs.take width)).map fun n => (n, cs.drop width)
  else none

/-- Takes one of the given characters off the front. -/
def mark? (marks : List Char) : List Char → Option (List Char)
  | c :: cs => if c ∈ marks then some cs else none
  | [] => none

/-- Takes a date off the front: its number. -/
def date? (cs : List Char) : Option (Int × List Char) := do
  let (year, cs) ← number? 4 cs
  let cs ← mark? ['-'] cs
  let (month, cs) ← number? 2 cs
  let cs ← mark? ['-'] cs
  let (day, cs) ← number? 2 cs
  let date : Date := ⟨year, month, day⟩
  if date.Exists then some (date.number, cs) else none

/-- Takes the time of a day off the front: the seconds since midnight, and whether the second is
a leap second, which then is not counted. -/
def clock? (cs : List Char) : Option ((Nat × Bool) × List Char) := do
  let (hour, cs) ← number? 2 cs
  let cs ← mark? [':'] cs
  let (minute, cs) ← number? 2 cs
  let cs ← mark? [':'] cs
  let (second, cs) ← number? 2 cs
  if hour ≤ 23 ∧ minute ≤ 59 ∧ second ≤ 60 then
    some ((hour * 3600 + minute * 60 + min second 59, second == 60), cs)
  else none

/-- Takes the fraction of a second off the front: the nanoseconds.  Without a point there is
none; after a point there is a digit, and digits after the ninth do not count. -/
def fraction? : List Char → Option (Nat × List Char)
  | '.' :: cs =>
    let digits := cs.takeWhile fun c => (Numeral.digit? 10 c).isSome
    if digits = [] then none
    else
      let counted := digits.take 9
      (Numeral.read? 10 counted).map fun n =>
        (n * 10 ^ (9 - counted.length), cs.drop digits.length)
  | cs => some (0, cs)

/-- Reads the offset from universal time, in seconds; nothing may follow it. -/
def offset? : List Char → Option Int
  | ['Z'] => some 0
  | ['z'] => some 0
  | sign :: cs => do
    let (hours, cs) ← number? 2 cs
    let cs ← mark? [':'] cs
    let (minutes, cs) ← number? 2 cs
    if cs = [] ∧ hours ≤ 23 ∧ minutes ≤ 59 then
      let seconds : Int := hours * 3600 + minutes * 60
      if sign = '+' then some seconds
      else if sign = '-' ∨ sign = '\u2212' then some (-seconds)
      else none
    else none
  | [] => none

/-- The instant that characters stand for. -/
def readChars? (cs : List Char) : Option Instant := do
  let (day, cs) ← date? cs
  let cs ← mark? ['T', 't', ' '] cs
  let ((second, leap), cs) ← clock? cs
  let (nanos, cs) ← fraction? cs
  let offset ← offset? cs
  ofParts? (day * 86400 + second - offset) (if leap then 10 ^ 9 + nanos else nanos)

/-- The instant that a text stands for. -/
def read? (s : String) : Option Instant := readChars? s.toList

end Instant

end RecordQuery
