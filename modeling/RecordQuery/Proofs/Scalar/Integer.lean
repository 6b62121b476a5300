import RecordQuery.Proofs.Number.Decimal.Value
import RecordQuery.Scalar.Comparison

/-!
# Comparing integers

An integer of a record is compared exactly if it fits a signed word of 64 bits.  An unsigned
word beyond that is rounded to a binary number first.

## Main Statements

* `Json.compareTo?_integer` — the order of an integer relative to a signed word and to a decimal
* `Json.compareTo?_confused` — integers that are taken for others

## Design Notes

The rounding keeps the order, so a comparison with a signed word goes wrong only where both
numbers are rounded to the same one, and that is `2 ^ 63`.  Decimals are not rounded: next to
one the integer counts as the multiple of `2 ^ 11` nearest to it.
-/

namespace RecordQuery

namespace Json

variable {n : Int}

/-- Integers within a signed word are compared as they are. -/
theorem compareTo?_of_word (hlower : -2 ^ 63 ≤ n) (hupper : n < 2 ^ 63) :
    (∀ i : Int64, (number (.integer n)).compareTo? (.int i) = some (compare n i.toInt)) ∧
      ∀ x : Decimal, (number (.integer n)).compareTo? (.decimal x)
        = some (compare (n : ℚ) x.value) := by
  have hword : (Number.integer n).int64? = some n := if_pos ⟨hlower, hupper⟩
  refine ⟨fun i => ?_, fun x => ?_⟩
  · simp only [compareTo?, number?, Option.bind_some, Number.compareTo?, hword]
  · obtain ⟨y, hy, hvalue⟩ := Decimal.exists_ofInt? (n := n) (by omega)
    simp only [compareTo?, decimal?, hword, hy, Option.map_some, Decimal.compare_eq, hvalue]

theorem int64?_of_large (hlower : 2 ^ 63 ≤ n) : (Number.integer n).int64? = none :=
  if_neg fun h => by omega

/-- Up to the middle between them, `2 ^ 63` and the words next to it are
rounded to one number. -/
theorem compare_place_ofInt (hlower : 2 ^ 63 ≤ n) {i : Int} (hi : i < 2 ^ 63) :
    compare (Binary64.ofInt n).place (Binary64.ofInt i).place
      = if n ≤ 2 ^ 63 + 1024 ∧ 2 ^ 63 - 512 ≤ i then .eq else .gt := by
  let place (m : Int) := (Binary64.ofInt m).place
  have hmono : ∀ {a b}, a ≤ b → place a ≤ place b := Binary64.place_ofInt_mono
  have hbelow : place (2 ^ 63 - 513) < place (2 ^ 63) := by decide +kernel
  have hlast : place (2 ^ 63 - 512) = place (2 ^ 63) := by decide +kernel
  have hfirst : place (2 ^ 63 + 1024) = place (2 ^ 63) := by decide +kernel
  have habove : place (2 ^ 63) < place (2 ^ 63 + 1025) := by decide +kernel
  show compare (place n) (place i) = _
  have hn := hmono hlower
  have hi := hmono hi.le
  by_cases hclose : n ≤ 2 ^ 63 + 1024 ∧ 2 ^ 63 - 512 ≤ i
  · have hn' := hmono hclose.1
    have hi' := hmono hclose.2
    rw [if_pos hclose, compare_eq_iff_eq]
    omega
  · rw [if_neg hclose, compare_gt_iff_gt]
    obtain hfar | hfar : 2 ^ 63 + 1025 ≤ n ∨ i ≤ 2 ^ 63 - 513 := by omega
    · have := hmono hfar
      omega
    · have := hmono hfar
      omega

/-- Next to a decimal an integer beyond signed words counts as a multiple of `2 ^ 11`. -/
theorem exists_decimal?_of_large (hlower : 2 ^ 63 ≤ n) (hupper : n < 2 ^ 64) :
    ∃ (m : Int) (x : Decimal), 2048 ∣ m ∧ |m - n| ≤ 1024 ∧
      (number (.integer n)).decimal? = some x ∧ x.value = m := by
  obtain ⟨k, rfl⟩ := Int.eq_ofNat_of_zero_le (by omega : 0 ≤ n)
  have hlog : k.log2 = 63 := (Nat.log2_eq_iff (by omega)).2 (by omega)
  obtain ⟨x, hx, hvalue⟩ := Decimal.exists_ofBinary64?_ofInt (n := k) (by omega) (by omega)
  rw [hlog, (by decide : 2 ^ (63 - 52) = 2048)] at hvalue
  have hclose := Binary64.two_mul_abs_roundDiv_sub_le k (by decide : 0 < 2048)
  refine ⟨_, x, ?_, ?_, ?_, hvalue.trans (Int.cast_natCast _).symm⟩
  · exact Int.natCast_dvd_natCast.2 (Nat.dvd_mul_left 2048 _)
  · omega
  · rw [decimal?, int64?_of_large hlower]
    exact hx

/-- **The order of an integer** of a record relative to a signed word and to a decimal.  It is
the order of the numbers if the integer fits a signed word.  An integer beyond that is greater
than all words, but counts as equal if both are within a rounding of `2 ^ 63`; and for decimals
it counts as a number that differs from it by 1024 at most. -/
theorem compareTo?_integer (hlower : -2 ^ 63 ≤ n) (hupper : n < 2 ^ 64) :
    (n < 2 ^ 63 →
      (∀ i : Int64, (number (.integer n)).compareTo? (.int i) = some (compare n i.toInt)) ∧
      ∀ x : Decimal, (number (.integer n)).compareTo? (.decimal x)
        = some (compare (n : ℚ) x.value)) ∧
    (2 ^ 63 ≤ n →
      (∀ i : Int64, (number (.integer n)).compareTo? (.int i)
        = some (if n ≤ 2 ^ 63 + 1024 ∧ 2 ^ 63 - 512 ≤ i.toInt then .eq else .gt)) ∧
      ∃ m : Int, 2048 ∣ m ∧ |m - n| ≤ 1024 ∧
        ∀ x : Decimal, (number (.integer n)).compareTo? (.decimal x)
          = some (compare (m : ℚ) x.value)) := by
  refine ⟨compareTo?_of_word hlower, fun hlarge => ⟨fun i => ?_, ?_⟩⟩
  · rw [← compare_place_ofInt hlarge i.toInt_lt]
    simp only [compareTo?, number?, Option.bind_some, Number.compareTo?, int64?_of_large hlarge,
      Number.toBinary64]
    exact Binary64.compare?_of_isNaN_eq_false (Binary64.isNaN_ofInt _) (Binary64.isNaN_ofInt _)
  · obtain ⟨m, y, hdvd, hclose, hy, hvalue⟩ := exists_decimal?_of_large hlarge hupper
    refine ⟨m, hdvd, hclose, fun x => ?_⟩
    simp only [compareTo?, hy, Option.map_some, Decimal.compare_eq, hvalue]

/-- The least integer beyond signed words: next to a word it is the greater one, unless the word
is one of the last 512, and next to a decimal it is a number close to it. -/
theorem compareTo?_integer_first :
    (∀ i : Int64, (number (.integer (2 ^ 63))).compareTo? (.int i)
      = some (if 2 ^ 63 - 512 ≤ i.toInt then .eq else .gt)) ∧
    ∃ m : Int, 2048 ∣ m ∧ |m - 2 ^ 63| ≤ 1024 ∧
      ∀ x : Decimal, (number (.integer (2 ^ 63))).compareTo? (.decimal x)
        = some (compare (m : ℚ) x.value) := by
  have hfirst :=
    (compareTo?_integer (by decide : -2 ^ 63 ≤ (2 ^ 63 : Int)) (by decide)).2 le_rfl
  refine ⟨fun i => ?_, hfirst.2⟩
  rw [hfirst.1 i]
  simp only [(by decide : (2 ^ 63 : Int) ≤ 2 ^ 63 + 1024), true_and]

/-- **Integers beyond signed words are taken for others**: `2 ^ 63` equals two signed words,
neither of which it is, and `2 ^ 63 + 1` equals the decimal `2 ^ 63` and is less than the
decimal that it is. -/
theorem compareTo?_confused :
    let decimal (n : Nat) (h : n < 2 ^ 96) : Scalar := .decimal ⟨false, n, 0, h, by decide⟩
    let first := number (.integer (2 ^ 63))
    let second := number (.integer (2 ^ 63 + 1))
    (first.compareTo? (.int (Int64.ofInt (2 ^ 63 - 1))) = some .eq ∧
      first.compareTo? (.int (Int64.ofInt (2 ^ 63 - 2))) = some .eq) ∧
    (second.compareTo? (decimal (2 ^ 63) (by decide)) = some .eq ∧
      second.compareTo? (decimal (2 ^ 63 + 1) (by decide)) = some .lt) := by
  decide +kernel

end Json

end RecordQuery
