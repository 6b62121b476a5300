import Mathlib.Order.Compare
import Mathlib.Tactic.FieldSimp
import Mathlib.Tactic.Positivity
import RecordQuery.Number.Decimal.Binary
import RecordQuery.Proofs.Number.Rounding

/-!
# The values of decimals

## Main Definitions

* `Decimal.value` — the rational number that a decimal stands for

## Main Statements

* `Decimal.compare_eq` — decimals are in the order of their values
* `Decimal.exists_ofInt?`, `Decimal.exists_ofBinary64?_ofInt` — the decimal of an integer, and
  that of the binary number nearest to one
-/

namespace RecordQuery

namespace Decimal

/-- The rational number that a decimal stands for. -/
def value (x : Decimal) : ℚ := x.signed / 10 ^ x.scale

/-- **Decimals are in the order of their values**, whatever their scales
and the sign of a zero. -/
theorem compare_eq (x y : Decimal) : x.compare y = Ord.compare x.value y.value := by
  have hpos : (0 : ℚ) < 10 ^ x.scale * 10 ^ y.scale := by positivity
  have hx : x.value * (10 ^ x.scale * 10 ^ y.scale) = ((x.signed * 10 ^ y.scale : ℤ) : ℚ) := by
    rw [value]
    push_cast
    field_simp
  have hy : y.value * (10 ^ x.scale * 10 ^ y.scale) = ((y.signed * 10 ^ x.scale : ℤ) : ℚ) := by
    rw [value]
    push_cast
    field_simp
  rw [compare, ← cmp_eq_compare, ← cmp_eq_compare, ← cmp_mul_pos_right hpos, hx, hy,
    Int.cast_strictMono.cmp_map_eq]

/-- The decimal of an integer has its value. -/
theorem exists_ofInt? {n : Int} (h : n.natAbs < 2 ^ 96) :
    ∃ x, ofInt? n = some x ∧ x.value = n := by
  refine ⟨⟨n < 0, n.natAbs, 0, h, by decide⟩, dif_pos ⟨h, by decide⟩, ?_⟩
  have hsigned : (if n < 0 then -(n.natAbs : ℤ) else n.natAbs) = n := by
    split <;> omega
  simp only [value, signed, decide_eq_true_eq, hsigned, pow_zero, div_one]

/-- The decimal of the binary number nearest to an integer has the value of that number. -/
theorem exists_ofBinary64?_ofInt {n : Nat} (hlower : 52 ≤ n.log2) (hupper : n.log2 < 95) :
    ∃ x, ofBinary64? (.ofInt n) = some x ∧
      x.value = (Binary64.roundDiv n (2 ^ (n.log2 - 52)) * 2 ^ (n.log2 - 52) : ℕ) := by
  obtain ⟨hfinite, hexponent, hvalue⟩ :=
    Binary64.significand_mul_two_pow_ofInt hlower (hupper.trans (by decide))
  have hround : Binary64.roundDiv n (2 ^ (n.log2 - 52)) ≤ 2 ^ 53 := by
    refine Binary64.roundDiv_le_of_lt_mul (Nat.two_pow_pos _) ?_
    rw [← Nat.pow_add]
    exact Nat.lt_log2_self.trans_le (Nat.pow_le_pow_right (by decide) (by omega))
  have hmantissa : Binary64.roundDiv n (2 ^ (n.log2 - 52)) * 2 ^ (n.log2 - 52) < 2 ^ 96 :=
    calc _ ≤ 2 ^ 53 * 2 ^ (n.log2 - 52) := Nat.mul_le_mul_right _ hround
      _ = 2 ^ (53 + (n.log2 - 52)) := (Nat.pow_add 2 53 _).symm
      _ < 2 ^ 96 := Nat.pow_lt_pow_right (by decide) (by omega)
  refine ⟨⟨false, _, 0, hmantissa, by decide⟩, ?_, ?_⟩
  · have hnegative : (Binary64.ofInt n).negative = false :=
      decide_eq_false (Int.not_lt.2 (Int.natCast_nonneg n))
    simp only [ofBinary64?, hfinite, Bool.not_true, Bool.false_eq_true, if_false,
      if_pos hexponent, hvalue, hnegative]
    exact dif_pos ⟨hmantissa, by decide⟩
  · simp only [value, signed, Bool.false_eq_true, if_false, Int.cast_natCast, pow_zero, div_one]

end Decimal

end RecordQuery
