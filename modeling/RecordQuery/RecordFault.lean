import RecordQuery.Text.Numeral

/-!
# Entities without a record

Why an entity has no record.

## Main Definitions

* `RecordFault` — what is wrong, and at which place of a text if it arose in reading one
* `RecordFault.ofText` — the fault that a text tells of
* `RecordFault.text` — the text of a fault

## Design Notes

A text that ends in ` at line 3 column 5` names the place of the fault, and only the last such
ending counts.  Lines are numbered from one, so line `0` says that the place is not known, and
both it and its column are left out.  The numbers have 64 bits; with a greater one, or with
none, the ending is no place but part of what is wrong.
-/

namespace RecordQuery

/-- A place in a text. -/
structure TextPlace where
  line : Nat
  column : Nat
  deriving DecidableEq, Repr

/-- Why an entity has no record. -/
structure RecordFault where
  reason : String
  /-- Where the fault arose, if that is known. -/
  place : Option TextPlace := none
  deriving DecidableEq, Repr

namespace TextPlace

/-- What stands before the number of a line. -/
def lineMark : String := " at line "

/-- What stands between the number of a line and that of a column. -/
def columnMark : String := " column "

/-- The text of a place, as the ending of another text. -/
def text (place : TextPlace) : String :=
  lineMark ++ toString place.line ++ columnMark ++ toString place.column

/-- What follows a mark at the front. -/
def after? (mark cs : List Char) : Option (List Char) :=
  if mark <+: cs then some (cs.drop mark.length) else none

/-- What stands before the last occurrence of a mark, and what follows it. -/
def splitLast? (mark : List Char) : List Char → Option (List Char × List Char)
  | [] => none
  | c :: cs =>
    match splitLast? mark cs with
    | some (before, after) => some (c :: before, after)
    | none => (after? mark (c :: cs)).map fun after => ([], after)

/-- The number of 64 bits that digits stand for. -/
def number? (digits : List Char) : Option Nat :=
  if digits.isEmpty then none else (Numeral.read? 10 digits).filter (· < 2 ^ 64)

/-- The place that is written after the mark of its line. -/
def readAfterMark? (cs : List Char) : Option TextPlace := do
  let line ← number? (cs.takeWhile Char.isDigit)
  let column ← (after? columnMark.toList (cs.dropWhile Char.isDigit)).bind number?
  some ⟨line, column⟩

/-- The place in which a text ends, and what stands before it. -/
def splitEnding? (cs : List Char) : Option (List Char × TextPlace) :=
  (splitLast? lineMark.toList cs).bind fun (before, after) =>
    (readAfterMark? after).map fun place => (before, place)

end TextPlace

namespace RecordFault

/-- The fault that a text tells of. -/
def ofText (text : String) : RecordFault :=
  match TextPlace.splitEnding? text.toList with
  | none => ⟨text, none⟩
  | some (reason, place) =>
    ⟨String.ofList reason, if place.line = 0 then none else some place⟩

/-- The text of a fault: what is wrong, and its place. -/
def text (fault : RecordFault) : String :=
  match fault.place with
  | none => fault.reason
  | some place => fault.reason ++ place.text

end RecordFault

end RecordQuery
