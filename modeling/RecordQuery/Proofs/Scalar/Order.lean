import RecordQuery.Proofs.Agreement
import RecordQuery.Proofs.Choice
import RecordQuery.Proofs.Sorting.Comparator
import RecordQuery.Proofs.Time.Timestamp
import RecordQuery.Proofs.Uuid

/-!
# Sorting and comparing

A sort compares the values of records as they stand there, and a test first reads them as the
type that it asks for.  Both find one order where the written forms of the type are in the order
of its values.  Those of decimals are not: the text `"10"` comes before the text `"9"`.

## Main Definitions

* `Scalar.order?` — the order of two values of one type
* `Scalar.IsWrittenInOrder` — the written form says where a value belongs among those of its
  type

## Main Statements

* `Scalar.compareTo?_toJson`, `Scalar.sortOrder_toJson` — a test and a sort
  find the order of the types
* `Sorting.compare_toJson` — records are sorted by a column as tests of it compare them
* `Sorting.compare_decimals` — columns of decimals are not
-/

namespace RecordQuery

namespace Scalar

/-- The order of two values of one type, if they have one. -/
def order? : Scalar → Scalar → Option Ordering
  | bool a, bool b => some (compare a b)
  | int m, int n => some (compare m.toInt n.toInt)
  | float x, float y => x.compare? y
  | text s, text t => some (compare s t)
  | decimal x, decimal y => some (x.compare y)
  | instant s, instant t => some (s.compare t)
  | uuid x, uuid y => some (x.compare y)
  | _, _ => none

/-- Whether the written form says where a value belongs among those of its type:
not of decimals, and of binary numbers and instants only where they are finite and
in a year of four digits. -/
def IsWrittenInOrder : Scalar → Prop
  | float x => x.isFinite = true
  | decimal _ => False
  | instant t => t.HasShortYear
  | _ => True

variable {v w : Scalar}

theorem int64?_integer_toInt (n : Int64) :
    (Json.Number.integer n.toInt).int64? = some n.toInt :=
  if_pos ⟨Int64.le_toInt n, Int64.toInt_lt n⟩

theorem toJson_float {x : Binary64} (h : x.isFinite = true) :
    (float x).toJson = .number (.real x h) :=
  dif_pos h

theorem isNull_toJson (hv : v.IsWrittenInOrder) : v.toJson.isNull = false := by
  cases v with
  | float x => rw [toJson_float hv]; rfl
  | _ => rfl

/-- **A test finds the order of the types.** -/
theorem compareTo?_toJson (hkind : v.sameKind w = true) (hv : v.IsWrittenInOrder) :
    v.toJson.compareTo? w = v.order? w := by
  cases v <;> cases w <;> try contradiction
  case bool.bool a b => rfl
  case int.int m n =>
    simp only [toJson, Json.compareTo?, Json.number?, Option.bind_some, Json.Number.compareTo?,
      int64?_integer_toInt, order?]
  case float.float x y =>
    rw [toJson_float hv]
    rfl
  case text.text s t => rfl
  case instant.instant s t =>
    simp only [toJson, Json.compareTo?, Json.text?, Option.bind_some, Instant.read?_text hv,
      Option.map_some, order?]
  case uuid.uuid x y =>
    simp only [toJson, Json.compareTo?, Json.text?, Option.bind_some, Uuid.read?_text,
      Option.map_some, order?]

/-- **So does a sort**, of values that are written in order. -/
theorem sortOrder_toJson (hkind : v.sameKind w = true) (hv : v.IsWrittenInOrder)
    (hw : w.IsWrittenInOrder) : v.order? w = some (v.toJson.sortOrder w.toJson) := by
  cases v <;> cases w <;> try contradiction
  case bool.bool a b => rfl
  case int.int m n =>
    simp only [toJson, Json.sortOrder, order?,
      Json.Number.sortOrder_of_words (int64?_integer_toInt m) (int64?_integer_toInt n)]
  case float.float x y =>
    have hcompare : x.compare? y = some (compare x.place y.place) :=
      Binary64.compare?_of_isNaN_eq_false (Binary64.isNaN_of_isFinite hv)
        (Binary64.isNaN_of_isFinite hw)
    rw [toJson_float hv, toJson_float hw, order?, hcompare, Json.sortOrder,
      Json.Number.sortOrder_of_binary (.inl rfl)]
    rfl
  case text.text s t => rfl
  case instant.instant s t => exact congrArg some (Instant.compare_text hv hw).symm
  case uuid.uuid x y => exact congrArg some (x.compare_text y).symm

end Scalar

namespace Sorting

/-- **Records are sorted by a column as tests of it compare them**, if its values are of
one type and written in order: the one with the value `v` stands strictly before the one
with the value `w` if the test for less than `w` holds of it, and the two count as equal if
the test for `w` does. -/
theorem compare_toJson {v w : Scalar} (hkind : v.sameKind w = true) (hv : v.IsWrittenInOrder)
    (hw : w.IsWrittenInOrder) {name : String} {x y : Json} (hx : x.field? name = some v.toJson)
    (hy : y.field? name = some w.toJson) :
    let order := Sorting.compare [⟨name, .ascending⟩] x y
    let test (op : Comparison) : Condition := .atom (.column ⟨.root, [], name⟩ (.compare op w))
    v.toJson.compareTo? w = some order ∧
      (order = .lt ↔ (test .lt).truth ⟨x, []⟩ = .yes) ∧
      (order = .eq ↔ (test .eq).truth ⟨x, []⟩ = .yes) := by
  intro order test
  have hpresent : x.present? name = some v.toJson :=
    Json.present?_eq_some_iff.2 ⟨hx, Scalar.isNull_toJson hv⟩
  have hpresent' : y.present? name = some w.toJson :=
    Json.present?_eq_some_iff.2 ⟨hy, Scalar.isNull_toJson hw⟩
  have horder : order = v.toJson.sortOrder w.toJson := by
    simp only [order, Sorting.compare, SortKey.compare, hpresent, hpresent', Json.sortOrder?,
      Ordering.then_eq]
  have hcompare : v.toJson.compareTo? w = some order := by
    rw [horder, Scalar.compareTo?_toJson hkind hv, Scalar.sortOrder_toJson hkind hv hw]
  have htruth : ∀ op, (test op).truth ⟨x, []⟩ = Truth.ofBool (op.holds order) := by
    intro op
    have hcolumn : Binding.column? ⟨x, []⟩ ⟨.root, [], name⟩ = some v.toJson := hpresent
    simp only [test, Condition.truth, Formula.eval_atom, Atom.truth, hcolumn, Test.truth,
      hcompare, Option.map_some, Truth.ofOption]
  refine ⟨hcompare, ?_, ?_⟩ <;>
    rw [htruth, Truth.ofBool_eq_yes_iff, Comparison.holds, beq_iff_eq]

/-- An event at a full second stands before one half a second later. -/
theorem compare_toJson_events :
    let before : Instant := ⟨0, 0, by decide, by decide⟩
    let after : Instant := ⟨0, 5 * 10 ^ 8, by decide, by decide⟩
    let event (t : Instant) : Json := .object [("at", .text t.text)]
    before.text = "1970-01-01T00:00:00+00:00" ∧ after.text = "1970-01-01T00:00:00.500+00:00" ∧
      Sorting.compare [⟨"at", .ascending⟩] (event before) (event after) = .lt ∧
      Condition.truth (.atom (.column ⟨.root, [], "at"⟩ (.compare .lt (.instant after))))
        ⟨event before, []⟩ = .yes := by
  intro before after event
  have hlt : Sorting.compare [⟨"at", .ascending⟩] (event before) (event after) = .lt := by
    decide +kernel
  have hagree := compare_toJson (rfl : (Scalar.instant before).sameKind (.instant after) = true)
    (by decide +kernel : before.HasShortYear) (by decide +kernel : after.HasShortYear)
    (rfl : (event before).field? "at" = _) (rfl : (event after).field? "at" = _)
  exact ⟨by decide +kernel, by decide +kernel, hlt, hagree.2.1.1 hlt⟩

/-- **Columns of decimals are sorted as texts**: ten stands before nine, although the test for
less than nine fails of it, and two forms of one value are told apart, although the test for the
one holds of the other. -/
theorem compare_decimals :
    let decimal (mantissa scale : Nat) (h : mantissa < 2 ^ 96 ∧ scale ≤ 28) : Decimal :=
      ⟨false, mantissa, scale, h.1, h.2⟩
    let ten := decimal 10 0 (by decide)
    let nine := decimal 9 0 (by decide)
    let short := decimal 11 1 (by decide)
    let long := decimal 110 2 (by decide)
    let offer (x : Decimal) : Json := .object [("price", (Scalar.decimal x).toJson)]
    let order (x y : Decimal) := Sorting.compare [⟨"price", .ascending⟩] (offer x) (offer y)
    let truth (op : Comparison) (x y : Decimal) :=
      Condition.truth (.atom (.column ⟨.root, [], "price"⟩ (.compare op (.decimal y))))
        ⟨offer x, []⟩
    (order ten nine = .lt ∧ truth .lt ten nine = .no) ∧
      (order short long = .lt ∧ truth .eq short long = .yes) := by
  decide +kernel

end Sorting

end RecordQuery
