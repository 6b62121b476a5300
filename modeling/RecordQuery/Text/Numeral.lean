import RecordQuery.Number.Power

/-!
# Positional numerals

Numbers as digits, most significant first.

## Main Definitions

* `Numeral.fixed` — the last so many digits of a number
* `Numeral.value` — the number that digits stand for
* `Numeral.decimal` — the shortest decimal numeral of at least a given width
* `Numeral.digit?` — the value of a digit character
-/

namespace RecordQuery

namespace Numeral

/-- The last `width` digits of `n` in the given base. -/
def fixed (base : Nat) : Nat → Nat → List Nat
  | 0, _ => []
  | width + 1, n => fixed base width (n / base) ++ [n % base]

/-- The number that the digits stand for. -/
def value (base : Nat) (digits : List Nat) : Nat :=
  digits.foldl (fun n d => n * base + d) 0

/-- The number of decimal digits of `n`; zero has one.  There are at most as many as binary
ones. -/
def length (n : Nat) : Nat :=
  go n.log2 n
where
  /-- The number of decimal digits of a number below `10 ^ (bound + 1)`. -/
  go : Nat → Nat → Nat
    | 0, _ => 1
    | bound + 1, n => if n < 10 then 1 else go bound (n / 10) + 1

/-- The characters of a list of digits. -/
def chars (digits : List Nat) : List Char :=
  digits.map Nat.digitChar

/-- The decimal numeral of `n`, with leading zeros up to `width` digits. -/
def decimal (width n : Nat) : List Char :=
  chars (fixed 10 (max width (length n)) n)

/-- The value of a character as a digit in the given base, which is at most sixteen; letters of
either case stand for the digits from ten on. -/
def digit? (base : Nat) (c : Char) : Option Nat :=
  let d :=
    if '0' ≤ c ∧ c ≤ '9' then c.toNat - '0'.toNat
    else if 'a' ≤ c ∧ c ≤ 'f' then c.toNat - 'a'.toNat + 10
    else if 'A' ≤ c ∧ c ≤ 'F' then c.toNat - 'A'.toNat + 10
    else base
  if d < base then some d else none

/-- The number written by characters that are all digits of the given base. -/
def read? (base : Nat) (cs : List Char) : Option Nat :=
  (cs.mapM (digit? base)).map (value base)

@[simp] theorem length_fixed (base width n : Nat) : (fixed base width n).length = width := by
  induction width generalizing n with
  | zero => rfl
  | succ width ih => simp [fixed, ih]

@[simp] theorem value_append_singleton (base : Nat) (digits : List Nat) (d : Nat) :
    value base (digits ++ [d]) = value base digits * base + d := by
  simp [value]

/-- The last `width` digits stand for the remainder by the power of the base. -/
theorem value_fixed (base width n : Nat) :
    value base (fixed base width n) = n % base ^ width := by
  induction width generalizing n with
  | zero => simp [fixed, value, Nat.mod_one]
  | succ width ih =>
    rw [fixed, value_append_singleton, ih, Nat.pow_succ', Nat.mod_mul, Nat.mul_comm,
      Nat.add_comm]

theorem lt_pow_length_go (bound n : Nat) (h : n < 10 ^ (bound + 1)) :
    n < 10 ^ length.go bound n := by
  induction bound generalizing n with
  | zero => simpa [length.go] using h
  | succ bound ih =>
    unfold length.go
    split
    · simpa
    · have hdiv : n / 10 < 10 ^ (bound + 1) := by
        rw [Nat.pow_succ] at h
        exact Nat.div_lt_of_lt_mul (by omega)
      have := ih (n / 10) hdiv
      rw [Nat.pow_succ]
      omega

/-- A number fits its digits. -/
theorem lt_pow_length (n : Nat) : n < 10 ^ length n := by
  apply lt_pow_length_go
  calc n < 2 ^ (n.log2 + 1) := Nat.lt_log2_self
    _ ≤ 10 ^ (n.log2 + 1) := Nat.pow_le_pow_left (by decide) _

end Numeral

end RecordQuery
