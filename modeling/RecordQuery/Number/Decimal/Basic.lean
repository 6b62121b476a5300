import RecordQuery.Number.Power

/-!
# Decimal numbers

Decimal numbers with a mantissa of 96 bits and up to 28 decimals.

## Main Definitions

* `Decimal` — sign, mantissa and number of decimals
* `Decimal.compare` — the order by numeric value, whatever the number of decimals
* `Decimal.ofInt?` — the integers that have a mantissa of 96 bits

## Design Notes

The number of decimals is part of a decimal number and shows in its text: `1.1` and `1.10` are
two decimals of one value.  A zero may have either sign, and both have the same value.
-/

namespace RecordQuery

/-- A decimal number: the mantissa, divided by ten to the power of the scale. -/
@[ext] structure Decimal where
  /-- Whether the number is written with a minus sign. -/
  negative : Bool
  /-- All digits of the number, read as one integer. -/
  mantissa : Nat
  /-- The number of decimals. -/
  scale : Nat
  mantissa_lt : mantissa < 2 ^ 96
  scale_le : scale ≤ 28
  deriving DecidableEq

namespace Decimal

/-- The decimal with the given parts, if they are within bounds. -/
def ofParts? (negative : Bool) (mantissa scale : Nat) : Option Decimal :=
  if h : mantissa < 2 ^ 96 ∧ scale ≤ 28 then some ⟨negative, mantissa, scale, h.1, h.2⟩
  else none

/-- The mantissa with the sign of the number. -/
def signed (x : Decimal) : Int :=
  if x.negative then -(x.mantissa : Int) else x.mantissa

/-- The order of two decimals by value: both are brought to the same number of decimals. -/
def compare (x y : Decimal) : Ordering :=
  Ord.compare (x.signed * 10 ^ y.scale) (y.signed * 10 ^ x.scale)

/-- An integer as a decimal without decimals. -/
def ofInt? (n : Int) : Option Decimal :=
  ofParts? (n < 0) n.natAbs 0

end Decimal

end RecordQuery
