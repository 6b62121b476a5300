import RecordQuery.Proofs.Text.Order
import RecordQuery.Text.Numeral

/-!
# Numerals of a fixed width

A numeral of a fixed width is read back as its number, and two of them are in the order of their
numbers.

## Main Statements

* `Numeral.read?_chars` — the characters of digits are read back
* `Numeral.compare_fixed` — numerals of one width are in the order of their numbers
* `Numeral.decimal_eq_fixed`, `Numeral.compare_decimal_append` — a number that fits the width is
  written with leading zeros, and decides before what follows it
-/

namespace RecordQuery

namespace Numeral

variable {base : Nat}

theorem lt_of_mem_fixed (hbase : 0 < base) {width n d : Nat} (h : d ∈ fixed base width n) :
    d < base := by
  induction width generalizing n with
  | zero => exact absurd h List.not_mem_nil
  | succ width ih =>
    rw [fixed, List.mem_append, List.mem_singleton] at h
    obtain h | rfl := h
    · exact ih h
    · exact Nat.mod_lt _ hbase

/-- The leading digits are those of the quotient. -/
theorem fixed_add (width more n : Nat) :
    fixed base (width + more) n = fixed base width (n / base ^ more) ++ fixed base more n := by
  induction more generalizing n with
  | zero => simp [fixed]
  | succ more ih =>
    rw [← Nat.add_assoc, fixed, fixed, ih, List.append_assoc, Nat.div_div_eq_div_mul,
      ← Nat.pow_succ']

@[simp] theorem length_chars (digits : List Nat) : (chars digits).length = digits.length :=
  List.length_map _

theorem chars_append (xs ys : List Nat) : chars (xs ++ ys) = chars xs ++ chars ys :=
  List.map_append

/-! ## Reading -/

theorem digit?_digitChar (hbase : base ≤ 16) {d : Nat} (hd : d < base) :
    digit? base d.digitChar = some d := by
  have hdigits : ∀ base ≤ 16, ∀ d < base, digit? base d.digitChar = some d := by decide +kernel
  exact hdigits base hbase d hd

/-- Digits are read back as the number that they stand for. -/
theorem read?_chars (hbase : base ≤ 16) {digits : List Nat} (h : ∀ d ∈ digits, d < base) :
    read? base (chars digits) = some (value base digits) := by
  have hdigits : (chars digits).mapM (digit? base) = some digits := by
    induction digits with
    | nil => rfl
    | cons d ds ih =>
      obtain ⟨hd, hds⟩ := List.forall_mem_cons.1 h
      have hrest : ds.mapM (digit? base ∘ Nat.digitChar) = some ds := by
        simpa [chars] using ih hds
      simp [chars, List.mapM_cons, digit?_digitChar hbase hd, hrest]
  rw [read?, hdigits, Option.map_some]

/-! ## Order -/

theorem compare_digitChar {c d : Nat} (hc : c < 16) (hd : d < 16) :
    compare c.digitChar d.digitChar = compare c d := by
  have hdigits : ∀ c < 16, ∀ d < 16, compare c.digitChar d.digitChar = compare c d := by
    decide +kernel
  exact hdigits c hc d hd

/-- Numbers are in the order of their quotients, and then of their remainders. -/
theorem compare_div_mod (n x y : Nat) :
    (compare (x / n) (y / n)).then (compare (x % n) (y % n)) = compare x y := by
  refine compare_then_compare (· / n) (· % n) (fun x y hlt => ?_) x y
  obtain hquot | hquot := Nat.lt_or_eq_of_le (Nat.div_le_div_right (c := n) hlt.le)
  · exact .inl hquot
  · have hx := Nat.div_add_mod x n
    have hy := Nat.div_add_mod y n
    rw [hquot] at hx
    exact .inr ⟨hquot, by omega⟩

/-- **Numerals of one width are in the order of their numbers.** -/
theorem compare_fixed (hpos : 0 < base) (hbase : base ≤ 16) {width m n : Nat}
    (hm : m < base ^ width) (hn : n < base ^ width) :
    compare (chars (fixed base width m)) (chars (fixed base width n)) = compare m n := by
  induction width generalizing m n with
  | zero =>
    obtain rfl : m = 0 := Nat.lt_one_iff.1 hm
    obtain rfl : n = 0 := Nat.lt_one_iff.1 hn
    rfl
  | succ width ih =>
    have hlast : ∀ n : Nat, n % base < 16 := fun n => (Nat.mod_lt n hpos).trans_le hbase
    have hlead : ∀ {n : Nat}, n < base ^ (width + 1) → n / base < base ^ width := by
      intro n hn
      exact Nat.div_lt_of_lt_mul (Nat.pow_succ' ▸ hn)
    have hdigit :
        compare (chars [m % base]) (chars [n % base]) = compare (m % base) (n % base) :=
      (compare_cons_cons _ _ [] []).trans
        (Ordering.then_eq.trans (compare_digitChar (hlast m) (hlast n)))
    rw [fixed, fixed, chars_append, chars_append, compare_append_append (by simp),
      ih (hlead hm) (hlead hn), hdigit, compare_div_mod]

/-! ## Decimal numerals -/

theorem length_go_le {width : Nat} (hwidth : 0 < width) (bound n : Nat) (hn : n < 10 ^ width) :
    length.go bound n ≤ width := by
  induction bound generalizing n width with
  | zero => exact hwidth
  | succ bound ih =>
    unfold length.go
    split
    · exact hwidth
    · next hbig =>
      obtain ⟨width, rfl⟩ : ∃ w, width = w + 1 := ⟨width - 1, by omega⟩
      have hquot : n / 10 < 10 ^ width := Nat.div_lt_of_lt_mul (Nat.pow_succ' ▸ hn)
      have hwidth' : 0 < width := by
        rcases Nat.eq_zero_or_pos width with rfl | h
        · omega
        · exact h
      exact Nat.succ_le_succ (ih hwidth' _ hquot)

/-- **A number that fits the width is written with leading zeros.** -/
theorem decimal_eq_fixed {width n : Nat} (hwidth : 0 < width) (hn : n < 10 ^ width) :
    decimal width n = chars (fixed 10 width n) := by
  have hlength : length n ≤ width := length_go_le hwidth _ n hn
  rw [decimal, Nat.max_eq_left hlength]

theorem length_decimal {width n : Nat} (hwidth : 0 < width) (hn : n < 10 ^ width) :
    (decimal width n).length = width := by
  rw [decimal_eq_fixed hwidth hn, length_chars, length_fixed]

theorem read?_decimal {width n : Nat} (hwidth : 0 < width) (hn : n < 10 ^ width) :
    read? 10 (decimal width n) = some n := by
  rw [decimal_eq_fixed hwidth hn,
    read?_chars (by decide) fun d hd => lt_of_mem_fixed (by decide) hd, value_fixed,
    Nat.mod_eq_of_lt hn]

theorem isSome_digit?_of_mem_fixed {width n : Nat} {c : Char}
    (h : c ∈ chars (fixed 10 width n)) : (digit? 10 c).isSome := by
  obtain ⟨d, hd, rfl⟩ := List.mem_map.1 h
  rw [digit?_digitChar (by decide) (lt_of_mem_fixed (by decide) hd)]
  rfl

theorem isSome_digit?_of_mem_decimal {width n : Nat} {c : Char} (h : c ∈ decimal width n) :
    (digit? 10 c).isSome :=
  isSome_digit?_of_mem_fixed h

/-- Numbers that fit the width decide before what follows them. -/
theorem compare_decimal_append {width m n : Nat} (hwidth : 0 < width) (hm : m < 10 ^ width)
    (hn : n < 10 ^ width) (xs ys : List Char) :
    compare (decimal width m ++ xs) (decimal width n ++ ys)
      = (compare m n).then (compare xs ys) := by
  rw [decimal_eq_fixed hwidth hm, decimal_eq_fixed hwidth hn, compare_append_append (by simp),
    compare_fixed (by decide) (by decide) hm hn]

end Numeral

end RecordQuery
