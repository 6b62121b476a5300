import RecordQuery.Text.Numeral

/-!
# Universally unique identifiers

Identifiers of 128 bits and their text.

## Main Definitions

* `Uuid` — an identifier, as the number that its bytes spell
* `Uuid.text` — the written form: five groups of lower-case hexadecimal digits
* `Uuid.read?` — the identifier that a text stands for

## Design Notes

The order by bytes from the left is the order of the numbers.
-/

namespace RecordQuery

/-- An identifier of 128 bits. -/
@[ext] structure Uuid where
  /-- The bytes of the identifier, read as one number, the first byte leading. -/
  number : Nat
  number_lt : number < 2 ^ 128
  deriving DecidableEq

namespace Uuid

/-- The order by bytes. -/
def compare (x y : Uuid) : Ordering := Ord.compare x.number y.number

/-- The number of digits in each group of the written form. -/
def groups : List Nat := [8, 4, 4, 4, 12]

/-- Joins groups of digits by hyphens; the last group takes what is left. -/
def hyphenate : List Nat → List Char → List Char
  | [], cs => cs
  | [_], cs => cs
  | n :: ns, cs => cs.take n ++ '-' :: hyphenate ns (cs.drop n)

/-- Takes the hyphens out of characters that are grouped as given. -/
def unhyphenate? : List Nat → List Char → Option (List Char)
  | [], cs => if cs = [] then some [] else none
  | [n], cs => if cs.length = n then some cs else none
  | n :: ns, cs =>
    match cs.drop n with
    | '-' :: rest => (unhyphenate? ns rest).map (cs.take n ++ ·)
    | _ => none

/-- The characters of an identifier. -/
def chars (x : Uuid) : List Char :=
  hyphenate groups (Numeral.chars (Numeral.fixed 16 32 x.number))

/-- The text of an identifier. -/
def text (x : Uuid) : String := String.ofList x.chars

/-- Reads thirty-two hexadecimal digits. -/
def ofDigits? (cs : List Char) : Option Uuid :=
  if cs.length = 32 then
    (Numeral.read? 16 cs).bind fun n => if h : n < 2 ^ 128 then some ⟨n, h⟩ else none
  else none

/-- Reads digits in groups. -/
def ofGroups? (cs : List Char) : Option Uuid :=
  (unhyphenate? groups cs).bind ofDigits?

/-- What stands before the groups in a uniform resource name; letters of either case will do. -/
def urn : List Char := ['u', 'r', 'n', ':', 'u', 'u', 'i', 'd', ':']

/-- The identifier that characters stand for: bare digits, or groups, which may stand in braces
or in a uniform resource name. -/
def readChars? (cs : List Char) : Option Uuid :=
  if cs.length = 32 then ofDigits? cs
  else if cs.length = 36 then ofGroups? cs
  else if cs.length = 38 ∧ cs.head? = some '\x7b' ∧ cs.getLast? = some '\x7d' then
    ofGroups? (cs.drop 1).dropLast
  else if (cs.take urn.length).map Char.toLower = urn then ofGroups? (cs.drop urn.length)
  else none

/-- The identifier that a text stands for. -/
def read? (s : String) : Option Uuid := readChars? s.toList

end Uuid

end RecordQuery
