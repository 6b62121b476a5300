import RecordQuery.Number.Power

/-!
# Binary floating-point numbers of 64 bits

A number is a sign and a magnitude of 63 bits.  The magnitudes are numbered in the order of the
values they stand for, so comparing two numbers is comparing two signed integers.

## Main Definitions

* `Binary64` — sign and magnitude; infinities and NaNs included
* `Binary64.compare?` — the order of two numbers, of which neither is a NaN
* `Binary64.ofInt` — the nearest number to an integer, ties to the even neighbour
* `Binary64.significand`, `Binary64.exponent` — the value as an integer times a power of two

## Design Notes

A magnitude consists of eleven bits of exponent above 52 bits of fraction.  Magnitudes from
`Binary64.infinity` on are no finite values: `infinity` itself is the infinite one, and those
above it are NaNs.
-/

namespace RecordQuery

/-- A binary floating-point number of 64 bits. -/
@[ext] structure Binary64 where
  /-- Whether the sign bit is set. -/
  negative : Bool
  /-- The other 63 bits, read as a number. -/
  magnitude : Nat
  magnitude_lt : magnitude < 2 ^ 63
  deriving DecidableEq

namespace Binary64

/-- The magnitude of the infinite values. -/
def infinity : Nat := 0x7FF0000000000000

/-- The number with the given bits, the sign bit first. -/
def ofBits (bits : UInt64) : Binary64 where
  negative := 2 ^ 63 ≤ bits.toNat
  magnitude := bits.toNat % 2 ^ 63
  magnitude_lt := Nat.mod_lt _ (by decide)

/-- The bits of the number, the sign bit first. -/
def toBits (x : Binary64) : UInt64 :=
  UInt64.ofNat (if x.negative then 2 ^ 63 + x.magnitude else x.magnitude)

/-- Whether the number is none at all. -/
def isNaN (x : Binary64) : Bool := infinity < x.magnitude

/-- Whether the number is neither infinite nor a NaN. -/
def isFinite (x : Binary64) : Bool := x.magnitude < infinity

/-- The place of the number in the order of the values; both zeros have the place `0`. -/
def place (x : Binary64) : Int :=
  if x.negative then -(x.magnitude : Int) else x.magnitude

/-- The order of two numbers; a NaN is not comparable with anything. -/
def compare? (x y : Binary64) : Option Ordering :=
  if x.isNaN || y.isNaN then none else some (compare x.place y.place)

/-- The quotient of two naturals, rounded to the nearest integer, ties to the even one. -/
def roundDiv (n d : Nat) : Nat :=
  if d < 2 * (n % d) ∨ d = 2 * (n % d) ∧ n / d % 2 = 1 then n / d + 1 else n / d

/-- The magnitude nearest to a natural number.  The leading digit of `n` has the weight
`2 ^ n.log2`, which fixes the exponent; the fraction is what remains of `n`, rounded to 52 bits.
A fraction that rounds up to a whole raises the exponent by the carry. -/
def nearestMagnitude (n : Nat) : Nat :=
  if n = 0 then 0
  else min infinity ((n.log2 + 1022) * 2 ^ 52 + roundDiv (n * 2 ^ 52) (2 ^ n.log2))

theorem nearestMagnitude_le (n : Nat) : nearestMagnitude n ≤ infinity := by
  unfold nearestMagnitude
  split
  · exact Nat.zero_le _
  · exact Nat.min_le_left _ _

/-- The nearest number to an integer, ties to the one with an even last bit. -/
def ofInt (n : Int) : Binary64 where
  negative := n < 0
  magnitude := nearestMagnitude n.natAbs
  magnitude_lt := Nat.lt_of_le_of_lt (nearestMagnitude_le _) (by decide)

/-- The integer by which the power `2 ^ x.exponent` is multiplied in the value of `x`. -/
def significand (x : Binary64) : Nat :=
  if x.magnitude < 2 ^ 52 then x.magnitude else 2 ^ 52 + x.magnitude % 2 ^ 52

/-- The exponent of the power of two in the value of `x`. -/
def exponent (x : Binary64) : Int :=
  if x.magnitude < 2 ^ 52 then -1074 else x.magnitude / 2 ^ 52 - 1075

end Binary64

end RecordQuery
