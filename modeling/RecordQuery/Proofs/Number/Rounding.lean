import Mathlib.Algebra.Order.Group.Abs
import RecordQuery.Proofs.Number.Binary64

/-!
# Rounding integers

An integer is rounded to the nearest binary number.  The rounding keeps the order, though not
the strict one: beyond fifty-three bits neighbours fall together.

## Main Statements

* `Binary64.roundDiv_mono` — a greater numerator has no smaller rounded quotient
* `Binary64.two_mul_abs_roundDiv_sub_le` — the rounded quotient is off by half a unit at most
* `Binary64.place_ofInt_mono` — a greater integer has no smaller binary number
* `Binary64.significand_mul_two_pow_ofInt` — the value of the binary number of a large integer

## Design Notes

Within one exponent the rounding is that of a quotient by a power of two, and what is at least
`2 ^ 52` and at most `2 ^ 53` before the rounding is so after it.  Where it reaches the upper
end the carry raises the exponent, and the value is the same as if it had not.
-/

namespace RecordQuery

namespace Binary64

/-! ## Rounded quotients -/

theorem div_le_roundDiv (n d : Nat) : n / d ≤ roundDiv n d := by
  unfold roundDiv
  split <;> omega

theorem roundDiv_le (n d : Nat) : roundDiv n d ≤ n / d + 1 := by
  unfold roundDiv
  split <;> omega

/-- **A greater numerator has no smaller rounded quotient.**  Only the remainders count where
the quotients are the same. -/
theorem roundDiv_mono {m n : Nat} (h : m ≤ n) (d : Nat) : roundDiv m d ≤ roundDiv n d := by
  obtain hlt | heq := (Nat.div_le_div_right (c := d) h).lt_or_eq
  · exact (roundDiv_le m d).trans (Nat.le_trans hlt (div_le_roundDiv n d))
  · have hrest : m % d ≤ n % d := by
      have hm := Nat.div_add_mod m d
      have hn := Nat.div_add_mod n d
      rw [heq] at hm
      omega
    unfold roundDiv
    rw [heq]
    split <;> split <;> omega

/-- A common factor makes no difference. -/
theorem roundDiv_mul_right (n d : Nat) {k : Nat} (hk : 0 < k) :
    roundDiv (n * k) (d * k) = roundDiv n d := by
  have hdouble : ∀ a, 2 * (a * k) = 2 * a * k := fun a => (Nat.mul_assoc 2 a k).symm
  unfold roundDiv
  rw [Nat.mul_div_mul_right n d hk, Nat.mul_mod_mul_right, hdouble]
  simp only [Nat.mul_lt_mul_right hk, Nat.mul_right_cancel_iff hk]

theorem le_roundDiv_of_mul_le {n d k : Nat} (hd : 0 < d) (h : k * d ≤ n) : k ≤ roundDiv n d :=
  ((Nat.le_div_iff_mul_le hd).2 h).trans (div_le_roundDiv n d)

theorem roundDiv_le_of_lt_mul {n d k : Nat} (hd : 0 < d) (h : n < k * d) : roundDiv n d ≤ k :=
  (roundDiv_le n d).trans ((Nat.div_lt_iff_lt_mul hd).2 h)

/-- **The rounded quotient is off by half a unit at most.** -/
theorem two_mul_abs_roundDiv_sub_le (n : Nat) {d : Nat} (hd : 0 < d) :
    2 * |((roundDiv n d * d : ℕ) : ℤ) - n| ≤ d := by
  have hdiv := Nat.div_add_mod n d
  have hmod := Nat.mod_lt n hd
  rw [Nat.mul_comm] at hdiv
  unfold roundDiv
  split
  · rw [Nat.add_mul, Nat.one_mul, abs_of_nonneg] <;> omega
  · rw [abs_of_nonpos] <;> omega

/-! ## Magnitudes -/

/-- The fraction of a number, with its leading digit, has fifty-three bits, or is rounded up to
the next power of two. -/
theorem roundDiv_log2_mem {n : Nat} (hn : n ≠ 0) :
    2 ^ 52 ≤ roundDiv (n * 2 ^ 52) (2 ^ n.log2) ∧
      roundDiv (n * 2 ^ 52) (2 ^ n.log2) ≤ 2 ^ 53 := by
  refine ⟨le_roundDiv_of_mul_le (Nat.two_pow_pos _) ?_,
    roundDiv_le_of_lt_mul (Nat.two_pow_pos _) ?_⟩
  · rw [Nat.mul_comm n]
    exact Nat.mul_le_mul_left _ (Nat.log2_self_le hn)
  · calc n * 2 ^ 52 < 2 ^ (n.log2 + 1) * 2 ^ 52 :=
          Nat.mul_lt_mul_of_pos_right Nat.lt_log2_self (Nat.two_pow_pos _)
      _ = 2 ^ 53 * 2 ^ n.log2 := by ring

/-- **A greater number has no smaller magnitude.**  With the same leading digit the fractions
decide, and otherwise the exponents. -/
theorem monotone_nearestMagnitude : Monotone nearestMagnitude := by
  intro m n h
  unfold nearestMagnitude
  by_cases hm : m = 0
  · rw [if_pos hm]
    exact Nat.zero_le _
  have hn : n ≠ 0 := by omega
  rw [if_neg hm, if_neg hn]
  refine min_le_min_left _ ?_
  have hlog : m.log2 ≤ n.log2 := (Nat.le_log2 hn).2 ((Nat.log2_self_le hm).trans h)
  obtain hlt | heq := hlog.lt_or_eq
  · have hupper := (roundDiv_log2_mem hm).2
    have hlower := (roundDiv_log2_mem hn).1
    omega
  · rw [heq]
    exact Nat.add_le_add_left (roundDiv_mono (Nat.mul_le_mul_right _ h) _) _

/-- **A greater integer has no smaller binary number.** -/
theorem place_ofInt_mono {m n : Int} (h : m ≤ n) : (ofInt m).place ≤ (ofInt n).place := by
  have hpos : m.natAbs ≤ n.natAbs ∨ m < 0 := by omega
  have hneg : n.natAbs ≤ m.natAbs ∨ 0 ≤ n := by omega
  have hle := @monotone_nearestMagnitude m.natAbs n.natAbs
  have hge := @monotone_nearestMagnitude n.natAbs m.natAbs
  simp only [place, ofInt, decide_eq_true_eq]
  split <;> split <;> omega

/-! ## Values -/

/-- A magnitude whose fraction, with the leading digit before it, has overflowed by a carry has
the value that the fraction would have had. -/
theorem significand_mul_two_pow_of_carry {x : Binary64} {k r : Nat} (hlower : 2 ^ 52 ≤ r)
    (hupper : r ≤ 2 ^ 53) (h : x.magnitude = (k + 1074) * 2 ^ 52 + r) :
    0 ≤ x.exponent ∧ x.significand * 2 ^ x.exponent.toNat = r * 2 ^ k := by
  have hlarge : ¬ x.magnitude < 2 ^ 52 := by omega
  unfold exponent significand
  rw [if_neg hlarge, if_neg hlarge]
  obtain hlt | rfl := hupper.lt_or_eq
  · have hmod : 2 ^ 52 + x.magnitude % 2 ^ 52 = r := by omega
    have hexponent : (x.magnitude / 2 ^ 52 - 1075 : ℤ) = (k : ℤ) := by omega
    rw [hmod, hexponent, Int.toNat_natCast]
    exact ⟨Int.natCast_nonneg k, rfl⟩
  · have hmod : 2 ^ 52 + x.magnitude % 2 ^ 52 = 2 ^ 52 := by omega
    have hexponent : (x.magnitude / 2 ^ 52 - 1075 : ℤ) = ((k + 1 : ℕ) : ℤ) := by omega
    rw [hmod, hexponent, Int.toNat_natCast]
    exact ⟨Int.natCast_nonneg (k + 1), by ring⟩

/-- **The value of the binary number of a large integer**: the nearest multiple of the power of
two that leaves it fifty-three bits. -/
theorem significand_mul_two_pow_ofInt {n : Nat} (hlower : 52 ≤ n.log2)
    (hupper : n.log2 < 1023) :
    (ofInt n).isFinite = true ∧ 0 ≤ (ofInt n).exponent ∧
      (ofInt n).significand * 2 ^ (ofInt n).exponent.toNat
        = roundDiv n (2 ^ (n.log2 - 52)) * 2 ^ (n.log2 - 52) := by
  have hn : n ≠ 0 := by
    rintro rfl
    exact absurd hlower (by decide)
  obtain ⟨k, hk⟩ : ∃ k, n.log2 = k + 52 := ⟨n.log2 - 52, by omega⟩
  obtain ⟨hleast, hmost⟩ := roundDiv_log2_mem hn
  have hscale : roundDiv (n * 2 ^ 52) (2 ^ n.log2) = roundDiv n (2 ^ k) := by
    rw [hk, Nat.pow_add, roundDiv_mul_right _ _ (Nat.two_pow_pos _)]
  rw [hscale] at hleast hmost
  have hmagnitude : (ofInt n).magnitude = (k + 1074) * 2 ^ 52 + roundDiv n (2 ^ k) := by
    simp only [ofInt, Int.natAbs_natCast, nearestMagnitude, if_neg hn, hscale, infinity]
    omega
  have hfinite : (ofInt n).isFinite = true := by
    rw [isFinite, hmagnitude, decide_eq_true_iff, infinity]
    omega
  rw [hk, Nat.add_sub_cancel]
  exact ⟨hfinite, significand_mul_two_pow_of_carry hleast hmost hmagnitude⟩

end Binary64

end RecordQuery
