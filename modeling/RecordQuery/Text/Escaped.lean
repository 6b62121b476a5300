import RecordQuery.Text.Numeral
import RecordQuery.Text.Unprintable

/-!
# Escaped text

Text as it stands in descriptions: in double quotes, on one line, and with nothing invisible.
-/

namespace RecordQuery

/-- A character by its number. -/
def numberedChar (c : Char) : List Char :=
  ['\\', 'u', '\x7b'] ++ Nat.toDigits 16 c.toNat ++ ['\x7d']

/-- A character of a description. -/
def escapedChar (c : Char) : List Char :=
  if c = '\x00' then ['\\', '0']
  else if c = '\t' then ['\\', 't']
  else if c = '\n' then ['\\', 'n']
  else if c = '\r' then ['\\', 'r']
  else if c = '"' ∨ c = '\\' then ['\\', c]
  else if c < ' ' ∨ c = '\x7f' ∨ '\x7f' < c ∧ isUnprintable c then numberedChar c
  else [c]

/-- A text in double quotes, with all that is not printable escaped. -/
def escapedText (s : String) : String :=
  String.ofList ('"' :: s.toList.flatMap escapedChar ++ ['"'])

end RecordQuery
