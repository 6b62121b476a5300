import RecordQuery.Number.Binary64
import RecordQuery.Number.Decimal.Basic

/-!
# Decimals of binary numbers

A binary number becomes the decimal that is meant by it: its value with about as many digits as
53 bits can tell apart.

## Main Definitions

* `Decimal.ofBinary64?` — the decimal of a binary number, if it is finite and below `2 ^ 96`

## Design Notes

The value of a number below one unit of its last place is `m / 2 ^ k = m * 5 ^ k / 10 ^ k`, so
the factors five go into the mantissa and the factors ten into the scale.  Where the mantissa
has no room left it gives up a binary digit, then decimals beyond the twenty-eighth, then
decimals that carry more than 52 bits, and last the zeros at the end.
-/

namespace RecordQuery

namespace Decimal

/-- Turns `b / 2 ^ k` into a mantissa and a scale.  An even mantissa takes up a factor two, an
odd one a factor five of the ten; without room for it the last binary digit is dropped. -/
def takeUpHalves : Nat → Nat → Nat × Nat
  | 0, b => (b, 0)
  | k + 1, b =>
    if b % 2 ≠ 0 ∧ 5 * b < 2 ^ 96 then
      let (mantissa, scale) := takeUpHalves k (5 * b)
      (mantissa, scale + 1)
    else takeUpHalves k (b / 2)

/-- Drops the last decimal digit, halves upwards. -/
def dropDigit (mantissa : Nat) : Nat :=
  if mantissa % 10 < 5 then mantissa / 10 else mantissa / 10 + 1

/-- Drops so many decimals one by one, each rounded; what falls below one unit is gone. -/
def dropDigits : Nat → Nat → Nat
  | 0, mantissa => mantissa
  | n + 1, mantissa => if mantissa < 10 then 0 else dropDigits n (dropDigit mantissa)

/-- Drops decimals one by one, each rounded, while the mantissa has more than 52 bits. -/
def dropExcess : Nat → Nat → Nat × Nat
  | 0, mantissa => (mantissa, 0)
  | scale + 1, mantissa =>
    if 2 ^ 52 ≤ mantissa then dropExcess scale (dropDigit mantissa) else (mantissa, scale + 1)

/-- Drops the zeros at the end of the decimals. -/
def dropZeros : Nat → Nat → Nat × Nat
  | 0, mantissa => (mantissa, 0)
  | scale + 1, mantissa =>
    if mantissa % 10 = 0 then dropZeros scale (mantissa / 10) else (mantissa, scale + 1)

/-- The mantissa and scale of `b / 2 ^ k`. -/
def ofHalves (k b : Nat) : Nat × Nat :=
  let (mantissa, scale) := takeUpHalves k b
  let mantissa := dropDigits (scale - 28) mantissa
  let scale := if mantissa = 0 then 0 else min scale 28
  let (mantissa, scale) := dropExcess scale mantissa
  dropZeros scale mantissa

/-- The decimal of a binary number. -/
def ofBinary64? (x : Binary64) : Option Decimal :=
  if !x.isFinite then none
  else if 0 ≤ x.exponent then
    ofParts? x.negative (x.significand * 2 ^ x.exponent.toNat) 0
  else
    let (mantissa, scale) := ofHalves (-x.exponent).toNat x.significand
    ofParts? x.negative mantissa scale

end Decimal

end RecordQuery
