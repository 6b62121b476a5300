import Mathlib.Algebra.Order.Field.Rat
import Mathlib.Algebra.Order.Ring.Cast
import Mathlib.Order.Monotone.Basic
import Mathlib.Tactic.Ring
import RecordQuery.Number.Binary64

/-!
# The order of binary numbers

Magnitudes are numbered in the order of the values they stand for, so comparing the places of
two numbers compares their values.

## Main Definitions

* `Binary64.units` — a magnitude as a multiple of the least positive one
* `Binary64.value` — the rational number that a finite binary number stands for

## Main Statements

* `Binary64.strictMono_units` — a greater magnitude is a greater multiple
* `Binary64.place_lt_iff`, `Binary64.place_eq_iff` — the order of the
  places is that of the values
* `Binary64.compare?_of_isNaN_eq_false` — all numbers but NaNs can be compared
-/

namespace RecordQuery

namespace Binary64

/-! ## NaNs -/

theorem isNaN_ofInt (n : Int) : (ofInt n).isNaN = false := by
  rw [isNaN, decide_eq_false_iff_not, Nat.not_lt]
  exact nearestMagnitude_le _

theorem isNaN_of_isFinite {x : Binary64} (h : x.isFinite = true) : x.isNaN = false := by
  rw [isFinite, decide_eq_true_iff] at h
  rw [isNaN, decide_eq_false_iff_not]
  omega

theorem isSome_compare? (x y : Binary64) :
    (x.compare? y).isSome = (!x.isNaN && !y.isNaN) := by
  unfold compare?
  cases x.isNaN <;> cases y.isNaN <;> rfl

theorem compare?_of_isNaN_eq_false {x y : Binary64} (hx : x.isNaN = false)
    (hy : y.isNaN = false) : x.compare? y = some (compare x.place y.place) := by
  rw [compare?, hx, hy]
  rfl

/-! ## Values -/

/-- How often the least positive magnitude goes into a magnitude. -/
def units (magnitude : Nat) : Nat :=
  if magnitude < 2 ^ 52 then magnitude
  else (2 ^ 52 + magnitude % 2 ^ 52) * 2 ^ (magnitude / 2 ^ 52 - 1)

/-- The rational number that a finite binary number stands for. -/
def value (x : Binary64) : ℚ :=
  (if x.negative then -1 else 1) * (x.significand * 2 ^ x.exponent)

/-- The next magnitude is greater: either the fraction grows, or it starts again from zero with
the next exponent. -/
theorem units_lt_units_succ (m : Nat) : units m < units (m + 1) := by
  unfold units
  by_cases hsmall : m + 1 < 2 ^ 52
  · rw [if_pos (by omega), if_pos hsmall]
    omega
  rw [if_neg hsmall]
  by_cases hlast : m < 2 ^ 52
  · have hm : m + 1 = 2 ^ 52 := by omega
    rw [if_pos hlast, hm]
    omega
  rw [if_neg hlast]
  by_cases hcarry : m % 2 ^ 52 = 2 ^ 52 - 1
  · have hmod : (m + 1) % 2 ^ 52 = 0 := by omega
    have hdiv : (m + 1) / 2 ^ 52 - 1 = m / 2 ^ 52 - 1 + 1 := by omega
    rw [hmod, hdiv, hcarry, Nat.pow_succ]
    calc (2 ^ 52 + (2 ^ 52 - 1)) * 2 ^ (m / 2 ^ 52 - 1)
        < (2 * 2 ^ 52) * 2 ^ (m / 2 ^ 52 - 1) :=
          Nat.mul_lt_mul_of_pos_right (by omega) (Nat.two_pow_pos _)
      _ = (2 ^ 52 + 0) * (2 ^ (m / 2 ^ 52 - 1) * 2) := by ring
  · have hmod : (m + 1) % 2 ^ 52 = m % 2 ^ 52 + 1 := by omega
    have hdiv : (m + 1) / 2 ^ 52 = m / 2 ^ 52 := by omega
    rw [hmod, hdiv]
    exact Nat.mul_lt_mul_of_pos_right (by omega) (Nat.two_pow_pos _)

/-- **A greater magnitude is a greater multiple of the least one.** -/
theorem strictMono_units : StrictMono units :=
  strictMono_nat_of_lt_succ units_lt_units_succ

theorem significand_mul_two_pow_exponent (x : Binary64) :
    (x.significand * 2 ^ x.exponent : ℚ) = units x.magnitude * 2 ^ (-1074 : ℤ) := by
  unfold significand exponent units
  split
  · rfl
  · rename_i hlarge
    have hexponent : (x.magnitude / 2 ^ 52 - 1075 : ℤ)
        = ((x.magnitude / 2 ^ 52 - 1 : ℕ) : ℤ) + (-1074) := by omega
    rw [hexponent, zpow_add₀ two_ne_zero, zpow_natCast, Nat.cast_mul, Nat.cast_pow, mul_assoc]
    rfl

/-- A value is the multiple of the least positive one that its magnitude tells. -/
theorem value_eq (x : Binary64) :
    x.value = ((if x.negative then -(units x.magnitude : ℤ) else units x.magnitude : ℤ) : ℚ)
      * 2 ^ (-1074 : ℤ) := by
  rw [value, significand_mul_two_pow_exponent]
  split
  · rw [Int.cast_neg, Int.cast_natCast, neg_mul, neg_mul, one_mul]
  · rw [Int.cast_natCast, one_mul]

/-- **The order of the places is the order of the values.** -/
theorem place_lt_iff (x y : Binary64) : x.place < y.place ↔ x.value < y.value := by
  have hpos : (0 : ℚ) < 2 ^ (-1074 : ℤ) := zpow_pos two_pos _
  have hlt : ∀ m n, units m < units n ↔ m < n := fun m n => strictMono_units.lt_iff_lt
  -- the magnitude zero has the value zero, and it is the only one
  have hzero : ∀ m, units m = 0 ↔ m = 0 := fun m =>
    ⟨fun h => strictMono_units.injective h, fun h => by rw [h]; rfl⟩
  rw [value_eq, value_eq, mul_lt_mul_iff_left₀ hpos, Int.cast_lt]
  have hxy := hlt x.magnitude y.magnitude
  have hyx := hlt y.magnitude x.magnitude
  have hx := hzero x.magnitude
  have hy := hzero y.magnitude
  unfold place
  cases x.negative <;> cases y.negative <;>
    simp only [if_true, if_false, Bool.false_eq_true] <;> omega

theorem place_eq_iff (x y : Binary64) : x.place = y.place ↔ x.value = y.value := by
  have hle : ∀ x y : Binary64, x.place ≤ y.place ↔ x.value ≤ y.value := by
    intro x y
    rw [← not_lt, ← not_lt, place_lt_iff]
  rw [le_antisymm_iff, le_antisymm_iff, hle, hle]

end Binary64

end RecordQuery
