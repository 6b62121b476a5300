import RecordQuery.Proofs.Number.Decimal.Text
import RecordQuery.Proofs.Scalar.Order

/-!
# Written values

A record shows a value in its written form, and a test reads it again.  What it finds then is
the order of the values themselves.

## Main Definitions

* `Scalar.Precedes`, `Scalar.SameValue` — the order of the values of one type, said without a
  comparison
* `Scalar.HasForm` — the value has a written form that can be read

## Main Statements

* `Scalar.toJson_embeds_order` — comparing with the written form is an embedding of the order
* `Scalar.compareTo?_toJson_of_hasForm` — the written form is read as the value
* `Scalar.equals?_toJson_iff` — it matches the values that are the same, and no others
* `Scalar.order?_eq_some` — the comparisons of the types find the order of the values

## Design Notes

Two decimals of one value may differ in the scale, and two zeros in the sign; such differences
do not survive a comparison, and `SameValue` does not see them either.  An infinity takes the
place of `2 ^ 1024` among the values of binary numbers, which no finite one reaches.
-/

namespace RecordQuery

namespace Scalar

/-! ## The order of the values -/

/-- Whether a value comes before another one of its type. -/
def Precedes : Scalar → Scalar → Prop
  | bool a, bool b => a = false ∧ b = true
  | int m, int n => m.toInt < n.toInt
  | float x, float y => x.value < y.value
  | text s, text t => s < t
  | decimal x, decimal y => x.value < y.value
  | instant s, instant t => s.seconds < t.seconds ∨ s.seconds = t.seconds ∧ s.nanos < t.nanos
  | uuid x, uuid y => x.number < y.number
  | _, _ => False

/-- Whether two values are the same, however they are represented. -/
def SameValue : Scalar → Scalar → Prop
  | bool a, bool b => a = b
  | int m, int n => m = n
  | float x, float y => x.value = y.value
  | text s, text t => s = t
  | decimal x, decimal y => x.value = y.value
  | instant s, instant t => s = t
  | uuid x, uuid y => x = y
  | _, _ => False

/-- Whether the value has a written form that can be read: a binary number that is finite, and
an instant whose year has four digits. -/
def HasForm : Scalar → Prop
  | float x => x.isFinite = true
  | instant t => t.HasShortYear
  | _ => True

variable {v w : Scalar}

theorem SameValue.refl (v : Scalar) : v.SameValue v := by
  cases v <;> rfl

theorem sameKind_self (v : Scalar) : v.sameKind v = true := by
  cases v <;> rfl

theorem isNaN_eq_false_of_hasForm (h : v.HasForm) : v.isNaN = false := by
  cases v with
  | float x => exact Binary64.isNaN_of_isFinite h
  | _ => rfl

/-- Whether an outcome says how the first of two values stands to the second one. -/
def IsOrderOf (order : Ordering) (v w : Scalar) : Prop :=
  (order = .lt ↔ v.Precedes w) ∧ (order = .eq ↔ v.SameValue w) ∧ (order = .gt ↔ w.Precedes v)

theorem isOrderOf_bool (a b : Bool) : IsOrderOf (compare a b) (bool a) (bool b) := by
  cases a <;> cases b <;> simp [IsOrderOf, Precedes, SameValue, compare_lt_iff_lt,
    compare_gt_iff_gt]

theorem isOrderOf_float (x y : Binary64) :
    IsOrderOf (compare x.place y.place) (float x) (float y) :=
  ⟨compare_lt_iff_lt.trans (Binary64.place_lt_iff x y),
    compare_eq_iff_eq.trans (Binary64.place_eq_iff x y),
    compare_gt_iff_gt.trans (Binary64.place_lt_iff y x)⟩

theorem isOrderOf_decimal (x y : Decimal) :
    IsOrderOf (x.compare y) (decimal x) (decimal y) := by
  rw [Decimal.compare_eq]
  exact ⟨compare_lt_iff_lt, compare_eq_iff_eq, compare_gt_iff_gt⟩

theorem isOrderOf_instant (s t : Instant) :
    IsOrderOf (s.compare t) (instant s) (instant t) := by
  unfold Instant.compare
  refine ⟨?_, ?_, ?_⟩
  · rw [Ordering.then_eq_lt, compare_lt_iff_lt, compare_eq_iff_eq, compare_lt_iff_lt, Precedes]
  · rw [Ordering.then_eq_eq, compare_eq_iff_eq, compare_eq_iff_eq, SameValue, Instant.ext_iff]
  · rw [Ordering.then_eq_gt, compare_gt_iff_gt, compare_eq_iff_eq, compare_gt_iff_gt, Precedes,
      eq_comm]

/-- **The comparisons of the types find the order of the values**, of which none is a NaN. -/
theorem order?_eq_some (hkind : v.sameKind w = true) (hv : v.isNaN = false)
    (hw : w.isNaN = false) : ∃ order, v.order? w = some order ∧ IsOrderOf order v w := by
  cases v <;> cases w <;> try contradiction
  case bool.bool a b => exact ⟨_, rfl, isOrderOf_bool a b⟩
  case int.int m n =>
    exact ⟨_, rfl, compare_lt_iff_lt, compare_eq_iff_eq.trans Int64.toInt_inj,
      compare_gt_iff_gt⟩
  case float.float x y =>
    exact ⟨_, Binary64.compare?_of_isNaN_eq_false hv hw, isOrderOf_float x y⟩
  case text.text s t => exact ⟨_, rfl, compare_lt_iff_lt, compare_eq_iff_eq, compare_gt_iff_gt⟩
  case decimal.decimal x y => exact ⟨_, rfl, isOrderOf_decimal x y⟩
  case instant.instant s t => exact ⟨_, rfl, isOrderOf_instant s t⟩
  case uuid.uuid x y =>
    exact ⟨_, rfl, compare_lt_iff_lt, compare_eq_iff_eq.trans Uuid.ext_iff.symm,
      compare_gt_iff_gt⟩

/-! ## Reading the written form -/

/-- **The written form is read as the value.** -/
theorem compareTo?_toJson_of_hasForm (hkind : v.sameKind w = true) (hv : v.HasForm) :
    v.toJson.compareTo? w = v.order? w := by
  cases v with
  | decimal x =>
    cases w <;> try contradiction
    case decimal y =>
      simp only [toJson, Json.compareTo?, Json.decimal?, Decimal.read?_text, Option.map_some,
        order?, Decimal.compare_eq, Decimal.value_withoutSignOfZero]
  | float x => exact compareTo?_toJson hkind hv
  | instant t => exact compareTo?_toJson hkind hv
  | _ => exact compareTo?_toJson hkind trivial

/-- Without a form that can be read there is nothing to compare. -/
theorem compareTo?_toJson_of_not_hasForm (hkind : v.sameKind w = true) (hv : ¬ v.HasForm) :
    v.toJson.compareTo? w = none := by
  cases v <;> try exact absurd trivial hv
  case float x =>
    have hnull : (float x).toJson = .null := dif_neg hv
    cases w <;> try contradiction
    rw [hnull]
    rfl
  case instant t =>
    cases w <;> try contradiction
    simp only [toJson, Json.compareTo?, Json.text?, Option.bind_some,
      Instant.read?_text_of_not_hasShortYear hv, Option.map_none]

/-- Nothing can be compared with a NaN. -/
theorem compareTo?_of_isNaN (json : Json) (hw : w.isNaN = true) : json.compareTo? w = none := by
  cases w <;> try contradiction
  case float y =>
    have hnone : ∀ x : Binary64, x.compare? y = none := by
      intro x
      have hnan : y.isNaN = true := hw
      rw [Binary64.compare?, hnan, Bool.or_true]
      rfl
    simp only [Json.compareTo?, hnone, Option.bind_fun_none]

theorem exists_compareTo?_toJson (hkind : v.sameKind w = true)
    (h : v.HasForm ∧ w.isNaN = false) :
    ∃ order, v.toJson.compareTo? w = some order ∧ IsOrderOf order v w := by
  rw [compareTo?_toJson_of_hasForm hkind h.1]
  exact order?_eq_some hkind (isNaN_eq_false_of_hasForm h.1) h.2

theorem compareTo?_toJson_eq_none (hkind : v.sameKind w = true)
    (h : ¬ (v.HasForm ∧ w.isNaN = false)) : v.toJson.compareTo? w = none := by
  by_cases hv : v.HasForm
  · exact compareTo?_of_isNaN _ (Bool.eq_true_of_not_eq_false fun hw => h ⟨hv, hw⟩)
  · exact compareTo?_toJson_of_not_hasForm hkind hv

/-- The written form matches the values that are the same. -/
theorem equals?_toJson_iff (hkind : v.sameKind w = true) :
    v.toJson.equals? w = some true ↔ v.HasForm ∧ w.isNaN = false ∧ v.SameValue w := by
  rw [← and_assoc, Json.equals?]
  by_cases h : v.HasForm ∧ w.isNaN = false
  · obtain ⟨order, horder, -, hsame, -⟩ := exists_compareTo?_toJson hkind h
    rw [horder, Option.map_some, Option.some_inj, beq_iff_eq, hsame, and_iff_right h]
  · rw [compareTo?_toJson_eq_none hkind h]
    exact iff_of_false (Option.some_ne_none true).symm fun hall => h hall.1

/-- **Comparing with the written form is an embedding of the order**: of two values of one
type it finds how the first one stands to the second one, except that a binary number that is
not finite and an instant in a year without four digits cannot be read again, and that
nothing compares with a NaN.  So every value that can be read matches its own form, and no
form of a different one. -/
theorem toJson_embeds_order (hkind : v.sameKind w = true) :
    (v.HasForm ∧ w.isNaN = false →
      ∃ order, v.toJson.compareTo? w = some order ∧ IsOrderOf order v w) ∧
    (¬ (v.HasForm ∧ w.isNaN = false) → v.toJson.compareTo? w = none) ∧
    (v.toJson.equals? w = some true ↔ v.HasForm ∧ w.isNaN = false ∧ v.SameValue w) ∧
    (v.HasForm → v.toJson.equals? v = some true) := by
  refine ⟨exists_compareTo?_toJson hkind, compareTo?_toJson_eq_none hkind,
    equals?_toJson_iff hkind, fun hv => ?_⟩
  exact (equals?_toJson_iff v.sameKind_self).2
    ⟨hv, isNaN_eq_false_of_hasForm hv, SameValue.refl v⟩

/-- Two forms of one decimal match each other, and a leap second comes after the last second
that has a number. -/
theorem toJson_embeds_order_leapSecond :
    let short : Scalar := .decimal ⟨false, 11, 1, by decide, by decide⟩
    let long : Scalar := .decimal ⟨false, 110, 2, by decide, by decide⟩
    let leap : Instant := ⟨1483228799, 10 ^ 9, by decide, by decide⟩
    let last : Instant := ⟨1483228799, 999 * 10 ^ 6, by decide, by decide⟩
    (short.toJson = .text "1.1" ∧ long.toJson = .text "1.10" ∧
      short.toJson.equals? long = some true) ∧
    (leap.text = "2016-12-31T23:59:60+00:00" ∧ last.text = "2016-12-31T23:59:59.999+00:00" ∧
      (instant leap).toJson.compareTo? (instant last) = some .gt) := by
  intro short long leap last
  have hmatch := (toJson_embeds_order (rfl : short.sameKind long = true)).2.2.1
  have hsame : short.SameValue long := by
    show ((11 : ℤ) / 10 ^ 1 : ℚ) = (110 : ℤ) / 10 ^ 2
    norm_num
  obtain ⟨order, horder, -, -, hafter⟩ :=
    (toJson_embeds_order (rfl : (instant leap).sameKind (instant last) = true)).1
      ⟨(by decide +kernel : leap.HasShortYear), rfl⟩
  refine ⟨⟨congrArg Json.text (by decide +kernel), congrArg Json.text (by decide +kernel),
    hmatch.2 ⟨trivial, rfl, hsame⟩⟩, by decide +kernel, by decide +kernel, ?_⟩
  rw [horder, hafter.2 (.inr ⟨rfl, by decide⟩)]

end Scalar

end RecordQuery
