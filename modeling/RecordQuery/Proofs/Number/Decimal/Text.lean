import Mathlib.Data.List.TakeWhile
import RecordQuery.Number.Decimal.Text
import RecordQuery.Proofs.Number.Decimal.Value
import RecordQuery.Proofs.Text.Numeral

/-!
# Written decimals

The text of a decimal is read back as the decimal, but for the sign of a zero.

## Main Definitions

* `Decimal.unsigned` — the characters of a decimal after the sign
* `Decimal.withoutSignOfZero` — the decimal as it is read back

## Main Statements

* `Decimal.readDigits_fixed` — digits are read one after the other into the mantissa
* `Decimal.read?_text` — the text of a decimal is read back
* `Decimal.value_withoutSignOfZero` — as a decimal of the same value

## Design Notes

All digits of a written decimal fit: together they are the mantissa, and those after
the point are as many as the scale.  So nothing is rounded while they are read, and
there is no power of ten.
-/

namespace RecordQuery

namespace Decimal

/-! ## Reading digits -/

/-- A digit for which there is room goes to the end of the mantissa. -/
theorem readDigits_digit {mantissa d : Nat} {decimals : Option Nat} (started : Bool)
    (cs : List Char) (hd : d < 10) (hfit : mantissa * 10 + d < 2 ^ 96)
    (hroom : decimals ≠ some 28) :
    readDigits mantissa decimals started (d.digitChar :: cs)
      = readDigits (mantissa * 10 + d) (decimals.map (· + 1)) true cs := by
  rw [readDigits, if_neg hroom, Numeral.digit?_digitChar (by decide) hd]
  exact if_pos hfit

/-- **Digits are read one after the other into the mantissa**, as long as there is room. -/
theorem readDigits_fixed {mantissa width n : Nat} (decimals : Option Nat) (started : Bool)
    (cs : List Char) (hfit : mantissa * 10 ^ width + n % 10 ^ width < 2 ^ 96)
    (hroom : ∀ k ∈ decimals, k + width ≤ 28) :
    readDigits mantissa decimals started (Numeral.chars (Numeral.fixed 10 width n) ++ cs)
      = readDigits (mantissa * 10 ^ width + n % 10 ^ width) (decimals.map (· + width))
          (started || 0 < width) cs := by
  -- by induction on the width the last digit is read last, after those of the quotient
  induction width generalizing n cs with
  | zero => simp [Numeral.fixed, Numeral.chars, Nat.mod_one]
  | succ width ih =>
    have hsplit : (mantissa * 10 ^ width + n / 10 % 10 ^ width) * 10 + n % 10
        = mantissa * 10 ^ (width + 1) + n % 10 ^ (width + 1) := by
      rw [Nat.pow_succ', Nat.mod_mul]
      ring
    have hroom' : decimals.map (· + width) ≠ some 28 := by
      intro hfull
      obtain ⟨k, hk, hsum⟩ := Option.map_eq_some_iff.1 hfull
      have := hroom k hk
      omega
    have hmore : decimals.map (· + (width + 1)) = (decimals.map (· + width)).map (· + 1) := by
      rw [Option.map_map]
      rfl
    rw [← hsplit] at hfit ⊢
    rw [Numeral.fixed, Numeral.chars_append, List.append_assoc,
      ih _ (by omega) (fun k hk => (Nat.le_succ _).trans (hroom k hk))]
    rw [hmore, decide_eq_true width.succ_pos, Bool.or_true]
    exact readDigits_digit _ cs (Nat.mod_lt n (by decide)) hfit hroom'

/-- The digits before the point are read as the number that they stand for. -/
theorem readDigits_decimal {n : Nat} (hn : n < 2 ^ 96) (cs : List Char) :
    readDigits 0 none false (Numeral.decimal 1 n ++ cs) = readDigits n none true cs := by
  have hwidth : 0 < max 1 (Numeral.length n) :=
    Nat.lt_of_lt_of_le Nat.one_pos (Nat.le_max_left _ _)
  have hmod : n % 10 ^ max 1 (Numeral.length n) = n :=
    Nat.mod_eq_of_lt ((Numeral.lt_pow_length n).trans_le
      (Nat.pow_le_pow_right (by decide) (Nat.le_max_right _ _)))
  have hread := readDigits_fixed none false cs
    (by rwa [Nat.zero_mul, Nat.zero_add, hmod]) (by rintro k ⟨⟩)
  rwa [Nat.zero_mul, Nat.zero_add, hmod, decide_eq_true hwidth] at hread

/-- The digits after the point complete the mantissa. -/
theorem readDigits_point {n scale : Nat} (hn : n < 2 ^ 96) (hscale : scale ≤ 28) :
    readDigits (n / 10 ^ scale) none true ('.' :: Numeral.chars (Numeral.fixed 10 scale n))
      = some (n, scale) := by
  have hjoin : n / 10 ^ scale * 10 ^ scale + n % 10 ^ scale = n := by
    rw [Nat.mul_comm]
    exact Nat.div_add_mod n _
  have hread := readDigits_fixed (some 0) true [] (hjoin.trans_lt hn)
    (by rintro k ⟨⟩; omega)
  rw [hjoin, List.append_nil] at hread
  show readDigits (n / 10 ^ scale) (some 0) true _ = _
  rw [hread]
  simp [readDigits]

/-! ## Characters -/

/-- The characters of a decimal after the sign. -/
def unsigned (x : Decimal) : List Char :=
  Numeral.decimal 1 (x.mantissa / 10 ^ x.scale) ++
    if x.scale = 0 then [] else '.' :: Numeral.chars (Numeral.fixed 10 x.scale x.mantissa)

theorem chars_eq (x : Decimal) :
    x.chars = (if x.negative then ['-'] else []) ++ x.unsigned :=
  List.append_assoc _ _ _

/-- **The digits of a decimal are its mantissa**, and those after the point its scale. -/
theorem readDigits_unsigned (x : Decimal) :
    readDigits 0 none false x.unsigned = some (x.mantissa, x.scale) := by
  have hlead : x.mantissa / 10 ^ x.scale < 2 ^ 96 :=
    (Nat.div_le_self _ _).trans_lt x.mantissa_lt
  rw [unsigned, readDigits_decimal hlead]
  by_cases hscale : x.scale = 0
  · rw [if_pos hscale, hscale, Nat.pow_zero, Nat.div_one]
    rfl
  · rw [if_neg hscale]
    exact readDigits_point x.mantissa_lt x.scale_le

theorem isExponentMark_of_isSome_digit? {c : Char} (h : (Numeral.digit? 10 c).isSome = true) :
    isExponentMark c = false := by
  rw [isExponentMark, Bool.or_eq_false_iff, beq_eq_false_iff_ne, beq_eq_false_iff_ne]
  constructor <;> rintro rfl <;> exact absurd h (by decide)

theorem isExponentMark_of_mem_unsigned {x : Decimal} {c : Char} (h : c ∈ x.unsigned) :
    isExponentMark c = false := by
  rw [unsigned, List.mem_append] at h
  obtain h | h := h
  · exact isExponentMark_of_isSome_digit? (Numeral.isSome_digit?_of_mem_decimal h)
  · by_cases hscale : x.scale = 0
    · rw [if_pos hscale] at h
      exact absurd h List.not_mem_nil
    · rw [if_neg hscale, List.mem_cons] at h
      obtain rfl | h := h
      · rfl
      · exact isExponentMark_of_isSome_digit? (Numeral.isSome_digit?_of_mem_fixed h)

/-! ## Reading -/

/-- The characters after the sign stand for the decimal with that sign; zero has none. -/
theorem readUnsigned_unsigned (x : Decimal) (negative : Bool) :
    readUnsigned negative x.unsigned
      = some { x with negative := negative && x.mantissa != 0 } := by
  have hdigits : x.unsigned.takeWhile (fun c => !isExponentMark c) = x.unsigned := by
    refine List.takeWhile_eq_self_iff.2 fun c hc => ?_
    rw [isExponentMark_of_mem_unsigned hc, Bool.not_false]
  simp only [readUnsigned, hdigits, readDigits_unsigned, List.drop_length, Option.bind_eq_bind,
    Option.bind_some]
  exact dif_pos ⟨x.mantissa_lt, x.scale_le⟩

theorem exists_unsigned_eq_cons (x : Decimal) :
    ∃ c cs, x.unsigned = c :: cs ∧ (Numeral.digit? 10 c).isSome = true := by
  have hne : Numeral.decimal 1 (x.mantissa / 10 ^ x.scale) ≠ [] := by
    rw [← List.length_pos_iff, Numeral.decimal, Numeral.length_chars, Numeral.length_fixed]
    exact Nat.lt_of_lt_of_le Nat.one_pos (Nat.le_max_left _ _)
  obtain ⟨c, cs, hcs⟩ := List.exists_cons_of_ne_nil hne
  refine ⟨c, _, congrArg (· ++ _) hcs, ?_⟩
  exact Numeral.isSome_digit?_of_mem_decimal (hcs ▸ List.mem_cons_self)

/-- A digit is no sign. -/
theorem readChars?_of_isSome_digit? {c : Char} {cs : List Char}
    (h : (Numeral.digit? 10 c).isSome = true) :
    readChars? (c :: cs) = readUnsigned false (c :: cs) := by
  unfold readChars?
  split
  · next heq =>
    injection heq with hc
    exact absurd h (hc ▸ by decide)
  · next heq =>
    injection heq with hc
    exact absurd h (hc ▸ by decide)
  · rfl

/-- The decimal as it is read back: a zero has no sign. -/
def withoutSignOfZero (x : Decimal) : Decimal :=
  { x with negative := x.negative && x.mantissa != 0 }

/-- **The text of a decimal is read back**, but for the sign of a zero. -/
theorem read?_text (x : Decimal) : read? x.text = some x.withoutSignOfZero := by
  rw [read?, text, String.toList_ofList, chars_eq, withoutSignOfZero]
  cases hnegative : x.negative with
  | true => exact readUnsigned_unsigned x true
  | false =>
    have hread := readUnsigned_unsigned x false
    obtain ⟨c, cs, hcs, hdigit⟩ := x.exists_unsigned_eq_cons
    rw [hcs] at hread
    rw [if_neg Bool.false_ne_true, List.nil_append, hcs, readChars?_of_isSome_digit? hdigit,
      hread]

theorem value_withoutSignOfZero (x : Decimal) : x.withoutSignOfZero.value = x.value := by
  unfold value signed withoutSignOfZero
  by_cases hzero : x.mantissa = 0
  · simp [hzero]
  · simp [hzero]

end Decimal

end RecordQuery
