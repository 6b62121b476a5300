import RecordQuery.Number.Decimal.Basic
import RecordQuery.Text.Numeral

/-!
# The text of decimal numbers

A decimal is written with all its decimals and at least one digit before the point.
Reading is more liberal: a sign of either kind, digits grouped by underscores, a point at
either end, more digits than a decimal can hold, which are rounded off, and a power of ten
at the end, as in `1e3`.

## Main Definitions

* `Decimal.text` — the written form
* `Decimal.read?` — the decimal that a text stands for

## Design Notes

Digits are read as long as they fit: until there are 28 decimals, or until the mantissa would
outgrow 96 bits after the point.  The next digit then decides the rounding, halves upwards, and
what follows it only has to be digits and underscores.  An underscore after the last decimal is
passed over, but a mantissa that is still small enough for a machine word takes it for a digit
zero and so is not rounded.  A mantissa that outgrows 96 bits by the rounding itself gives up
its last decimal, again rounded.  Zero is read without its sign.

A power of ten moves the point, up to 28 places to either side.  To the left, decimals that
would be pushed beyond the last place are rounded off at once, halves away from zero; what
becomes zero only then keeps its sign.
-/

namespace RecordQuery

namespace Decimal

/-- The characters of a decimal: all decimals are written, and a digit before the point. -/
def chars (x : Decimal) : List Char :=
  (if x.negative then ['-'] else []) ++ Numeral.decimal 1 (x.mantissa / 10 ^ x.scale) ++
    if x.scale = 0 then [] else '.' :: Numeral.chars (Numeral.fixed 10 x.scale x.mantissa)

/-- The text of a decimal. -/
def text (x : Decimal) : String := String.ofList x.chars

/-- Rounds a mantissa of the given scale by the first digit that did not fit, halves upwards. -/
def roundOff (mantissa scale digit : Nat) : Option (Nat × Nat) :=
  if digit < 5 then some (mantissa, scale)
  else if mantissa + 1 < 2 ^ 96 then some (mantissa + 1, scale)
  else if scale = 0 then none
  else some ((mantissa + 1 + 4) / 10, scale - 1)

/-- Whether the characters are digits and underscores, which may follow the last digit that
counts. -/
def isTail (cs : List Char) : Bool :=
  cs.all fun c => (Numeral.digit? 10 c).isSome || c == '_'

/-- Whether a mantissa takes one more digit without outgrowing 64 bits, with some room to
spare. -/
def isShort (mantissa : Nat) : Bool := mantissa < (2 ^ 64 - 1) / 10 - 255

/-- The digit that decides the rounding, and what follows it.  Underscores before it are passed
over, but after a short mantissa one stands for zero.  Without a digit nothing is rounded. -/
def roundingDigit? (short : Bool) : List Char → Option (Nat × List Char)
  | [] => some (0, [])
  | c :: cs =>
    if c = '_' then if short then some (0, cs) else roundingDigit? short cs
    else (Numeral.digit? 10 c).map fun d => (d, cs)

/-- Reads the digits of a decimal: the mantissa and the scale.  The arguments say what was read
so far: the mantissa, the number of decimals if the point was passed, and whether there was a
digit at all. -/
def readDigits (mantissa : Nat) (decimals : Option Nat) (started : Bool) :
    List Char → Option (Nat × Nat)
  | [] => if started then some (mantissa, decimals.getD 0) else none
  | c :: cs =>
    if decimals = some 28 then
      (roundingDigit? (isShort (mantissa / 10)) (c :: cs)).bind fun (d, tail) =>
        if isTail tail then roundOff mantissa 28 d else none
    else
      match Numeral.digit? 10 c with
      | some d =>
        if mantissa * 10 + d < 2 ^ 96 then
          readDigits (mantissa * 10 + d) (decimals.map (· + 1)) true cs
        else
          decimals.bind fun scale => if isTail cs then roundOff mantissa scale d else none
      | none =>
        if c = '.' ∧ decimals = none then readDigits mantissa (some 0) started cs
        else if c = '_' ∧ started then readDigits mantissa decimals started cs
        else none

/-- Whether a character stands before an exponent. -/
def isExponentMark (c : Char) : Bool := c == 'e' || c == 'E'

/-- Reads an exponent: an optional minus sign and a size. -/
def readExponent? : List Char → Option Int
  | '-' :: cs => (readSize? cs).map fun n => -(n : Int)
  | cs => (readSize? cs).map fun n => (n : Int)
where
  /-- Reads an optional plus sign and digits, of which there is at least one. -/
  readSize? : List Char → Option Nat
    | '+' :: cs => readSomeDigits? cs
    | cs => readSomeDigits? cs
  /-- Reads digits, of which there is at least one. -/
  readSomeDigits? (cs : List Char) : Option Nat :=
    if cs.isEmpty then none else Numeral.read? 10 cs

/-- Rounds off the last so many digits of a mantissa, halves upwards. -/
def roundedBy (mantissa digits : Nat) : Nat :=
  (2 * mantissa + 10 ^ digits) / (2 * 10 ^ digits)

/-- Without digits to round off a mantissa stays what it is. -/
@[simp] theorem roundedBy_zero (mantissa : Nat) : roundedBy mantissa 0 = mantissa := by
  simp [roundedBy]
  omega

/-- Moves the point of a number by so many places to the right, or to the left if they are
negative.  A move to the left keeps the decimals that are then among the first 28. -/
def movePoint (mantissa scale : Nat) (places : Int) : Option (Nat × Nat) :=
  if 28 < places.natAbs then none
  else if places < 0 then
    let kept := min scale (28 - places.natAbs)
    some (roundedBy mantissa (scale - kept), kept + places.natAbs)
  else if places ≤ scale then some (mantissa, scale - places.natAbs)
  else some (mantissa * 10 ^ (places.natAbs - scale), 0)

/-- Reads a decimal of the given sign: its digits, and its power of ten if there is one.  Zero
has no sign. -/
def readUnsigned (negative : Bool) (cs : List Char) : Option Decimal := do
  let digits := cs.takeWhile fun c => !isExponentMark c
  let (mantissa, scale) ← readDigits 0 none false digits
  let (moved, decimals) ← match cs.drop digits.length with
    | [] => some (mantissa, scale)
    | _ :: exponent => (readExponent? exponent).bind (movePoint mantissa scale)
  ofParts? (negative && mantissa != 0) moved decimals

/-- The decimal that characters stand for. -/
def readChars? : List Char → Option Decimal
  | '-' :: cs => readUnsigned true cs
  | '+' :: cs => readUnsigned false cs
  | cs => readUnsigned false cs

/-- The decimal that a text stands for. -/
def read? (s : String) : Option Decimal := readChars? s.toList

end Decimal

end RecordQuery
