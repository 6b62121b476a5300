import RecordQuery.Proofs.Number.Binary64
import RecordQuery.Proofs.Sorting.Stable

/-!
# The order of records

Two records compared the other way round give the opposite outcome, whatever they are.  Three
records compared in a chain need not: values of different kinds count as equal, and a number
that does not fit a word is compared by its nearest binary number, which may be that of other
numbers too.  Where each column holds values of one kind the order is total and transitive.

## Main Definitions

* `Json.SortKind` — the kinds of values of which a sort compares each in one way
* `Json.values` — the values in a column, as far as they are present
* `Json.IsUniform` — they are of one kind

## Main Statements

* `Json.sortOrder_swap` — any two values compared the other way round
* `Json.sortOrder_trans` — values of one kind are in order
* `Sorting.compare_swap`, `Sorting.isOrderOn_compare` — any two records, and records of one kind
* `Sorting.compare_not_transitive` — columns of large integers, of integers with binary numbers,
  and of integers with texts are not in order
-/

namespace RecordQuery

/-! ## Values -/

namespace Json

/-- The kinds of values of which a sort compares each in one way. -/
inductive SortKind
  | text
  | truth
  /-- Integers that fit a signed word of 64 bits. -/
  | word
  /-- All other numbers. -/
  | binary
  /-- Values without an order. -/
  | unordered
  deriving DecidableEq

/-- The kind of a value. -/
def sortKind : Json → SortKind
  | .text _ => .text
  | .bool _ => .truth
  | .number n => if n.int64?.isSome then .word else .binary
  | _ => .unordered

theorem Number.isNaN_toBinary64 (n : Number) : n.toBinary64.isNaN = false := by
  cases n with
  | integer n => exact Binary64.isNaN_ofInt n
  | real x finite => exact Binary64.isNaN_of_isFinite finite

theorem Number.sortOrder_of_words {x y : Number} {i j : Int} (hx : x.int64? = some i)
    (hy : y.int64? = some j) : x.sortOrder y = compare i j := by
  rw [sortOrder, hx, hy]

/-- As soon as one number is no word both are compared as binary numbers. -/
theorem Number.sortOrder_of_binary {x y : Number} (h : x.int64? = none ∨ y.int64? = none) :
    x.sortOrder y = compare x.toBinary64.place y.toBinary64.place := by
  have hcompare := Binary64.compare?_of_isNaN_eq_false x.isNaN_toBinary64 y.isNaN_toBinary64
  unfold sortOrder
  rcases h with h | h <;> rw [h, hcompare]
  · rfl
  · cases x.int64? <;> rfl

theorem Number.sortOrder_swap (x y : Number) : y.sortOrder x = (x.sortOrder y).swap := by
  cases hx : x.int64? with
  | none =>
    rw [sortOrder_of_binary (.inl hx), sortOrder_of_binary (.inr hx)]
    exact Std.OrientedOrd.eq_swap
  | some i =>
    cases hy : y.int64? with
    | none =>
      rw [sortOrder_of_binary (.inr hy), sortOrder_of_binary (.inl hy)]
      exact Std.OrientedOrd.eq_swap
    | some j =>
      rw [sortOrder_of_words hx hy, sortOrder_of_words hy hx]
      exact Std.OrientedOrd.eq_swap

/-- **Two values compared the other way round give the opposite outcome.** -/
theorem sortOrder_swap (x y : Json) : y.sortOrder x = (x.sortOrder y).swap := by
  cases x <;> cases y <;> try rfl
  case number.number m n => exact m.sortOrder_swap n
  case text.text s t => exact Std.OrientedOrd.eq_swap
  case bool.bool a b => exact Std.OrientedOrd.eq_swap

theorem sortOrder?_swap (x? y? : Option Json) :
    sortOrder? y? x? = (sortOrder? x? y?).swap := by
  cases x? <;> cases y? <;> try rfl
  case some.some x y => exact x.sortOrder_swap y

/-! ### Values of one kind -/

theorem exists_text_of_sortKind {x : Json} (h : x.sortKind = .text) : ∃ s, x = .text s := by
  cases x with
  | text s => exact ⟨s, rfl⟩
  | number n => rw [sortKind] at h; split at h <;> cases h
  | null | bool _ | array _ | object _ => cases h

theorem exists_bool_of_sortKind {x : Json} (h : x.sortKind = .truth) : ∃ b, x = .bool b := by
  cases x with
  | bool b => exact ⟨b, rfl⟩
  | number n => rw [sortKind] at h; split at h <;> cases h
  | null | text _ | array _ | object _ => cases h

theorem exists_word_of_sortKind {x : Json} (h : x.sortKind = .word) :
    ∃ n i, x = .number n ∧ n.int64? = some i := by
  cases x with
  | number n =>
    cases hword : n.int64? with
    | some i => exact ⟨n, i, rfl, hword⟩
    | none => rw [sortKind, hword] at h; cases h
  | null | bool _ | text _ | array _ | object _ => cases h

theorem exists_binary_of_sortKind {x : Json} (h : x.sortKind = .binary) :
    ∃ n, x = .number n ∧ n.int64? = none := by
  cases x with
  | number n =>
    cases hword : n.int64? with
    | none => exact ⟨n, rfl, hword⟩
    | some i => rw [sortKind, hword] at h; cases h
  | null | bool _ | text _ | array _ | object _ => cases h

theorem sortOrder_of_unordered {x : Json} (h : x.sortKind = .unordered) (y : Json) :
    x.sortOrder y = .eq := by
  cases x with
  | number n => rw [sortKind] at h; split at h <;> cases h
  | text _ | bool _ => cases h
  | null | array _ | object _ => rfl

/-- **Values of one kind are in order**: each kind is compared by one key. -/
theorem sortOrder_trans {kind : SortKind} {x y z : Json} (hx : x.sortKind = kind)
    (hy : y.sortKind = kind) (hz : z.sortKind = kind) (hxy : (x.sortOrder y).isLE)
    (hyz : (y.sortOrder z).isLE) : (x.sortOrder z).isLE := by
  cases kind with
  | text =>
    obtain ⟨s, rfl⟩ := exists_text_of_sortKind hx
    obtain ⟨t, rfl⟩ := exists_text_of_sortKind hy
    obtain ⟨u, rfl⟩ := exists_text_of_sortKind hz
    exact Std.TransOrd.isLE_trans hxy hyz
  | truth =>
    obtain ⟨a, rfl⟩ := exists_bool_of_sortKind hx
    obtain ⟨b, rfl⟩ := exists_bool_of_sortKind hy
    obtain ⟨c, rfl⟩ := exists_bool_of_sortKind hz
    exact Std.TransOrd.isLE_trans hxy hyz
  | word =>
    obtain ⟨m, i, rfl, hi⟩ := exists_word_of_sortKind hx
    obtain ⟨n, j, rfl, hj⟩ := exists_word_of_sortKind hy
    obtain ⟨p, k, rfl, hk⟩ := exists_word_of_sortKind hz
    simp only [sortOrder, Number.sortOrder_of_words hi hj, Number.sortOrder_of_words hj hk,
      Number.sortOrder_of_words hi hk] at hxy hyz ⊢
    exact Std.TransOrd.isLE_trans hxy hyz
  | binary =>
    obtain ⟨m, rfl, hm⟩ := exists_binary_of_sortKind hx
    obtain ⟨n, rfl, hn⟩ := exists_binary_of_sortKind hy
    obtain ⟨p, rfl, -⟩ := exists_binary_of_sortKind hz
    simp only [sortOrder, Number.sortOrder_of_binary (.inl hm),
      Number.sortOrder_of_binary (.inl hn)] at hxy hyz ⊢
    exact Std.TransOrd.isLE_trans hxy hyz
  | unordered =>
    rw [sortOrder_of_unordered hx]
    rfl

/-- The values in a column of some records, as far as they are present. -/
def values (column : String) (records : List Json) : List Json :=
  records.filterMap (present? column)

/-- The values in a column of some records are of one kind. -/
def IsUniform (column : String) (records : List Json) : Prop :=
  ∃ kind : SortKind, ∀ value ∈ values column records, value.sortKind = kind

end Json

/-! ## Records -/

/-- **Records whose values in a column are of one kind are in order by the column.**  Those
without a value come last. -/
theorem Json.isOrderOn_present? {column : String} {records : List Json}
    (h : Json.IsUniform column records) :
    IsOrderOn (fun x y => Json.sortOrder? (x.present? column) (y.present? column)) records where
  swap x _ y _ := Json.sortOrder?_swap _ _
  trans x hx y hy z hz hxy hyz := by
    obtain ⟨kind, hvalues⟩ := h
    have hkind : ∀ r ∈ records, ∀ v, r.present? column = some v → v.sortKind = kind :=
      fun r hr v hv => hvalues v (List.mem_filterMap.2 ⟨r, hr, hv⟩)
    cases hxv : x.present? column with
    | none =>
      cases hyv : y.present? column with
      | some v => rw [hxv, hyv] at hxy; exact absurd hxy Bool.false_ne_true
      | none => rwa [hyv] at hyz
    | some u =>
      cases hzv : z.present? column with
      | none => rfl
      | some w =>
        cases hyv : y.present? column with
        | none => rw [hyv, hzv] at hyz; exact absurd hyz Bool.false_ne_true
        | some v =>
          rw [hxv, hyv] at hxy
          rw [hyv, hzv] at hyz
          exact Json.sortOrder_trans (hkind x hx u hxv) (hkind y hy v hyv) (hkind z hz w hzv)
            hxy hyz

theorem SortKey.compare_swap (key : SortKey) (x y : Json) :
    key.compare y x = (key.compare x y).swap := by
  unfold compare
  cases key.direction <;> simp only [Json.sortOrder?_swap (x.present? key.column)]

theorem SortKey.isOrderOn_compare {key : SortKey} {records : List Json}
    (h : Json.IsUniform key.column records) : IsOrderOn key.compare records := by
  have horder := Json.isOrderOn_present? h
  unfold compare
  cases key.direction with
  | ascending => exact horder
  | descending => exact horder.opposite

namespace Sorting

/-- **Two records compared the other way round give the opposite outcome.** -/
theorem compare_swap (sorting : Sorting) (x y : Json) :
    sorting.compare y x = (sorting.compare x y).swap := by
  induction sorting with
  | nil => rfl
  | cons key keys ih => rw [compare, compare, key.compare_swap x y, ih, Ordering.swap_then]

/-- **Records are in order if the values of each column are of one kind.** -/
theorem isOrderOn_compare {sorting : Sorting} {records : List Json}
    (h : ∀ key ∈ sorting, Json.IsUniform key.column records) :
    IsOrderOn sorting.compare records := by
  induction sorting with
  | nil => exact ⟨fun _ _ _ _ => rfl, fun _ _ _ _ _ _ _ _ => rfl⟩
  | cons key keys ih =>
    obtain ⟨hkey, hkeys⟩ := List.forall_mem_cons.1 h
    exact (SortKey.isOrderOn_compare hkey).lexicographic (ih hkeys)

/-- **The order of records.**  Compared the other way round two records give the
opposite outcome.  In a chain of records they are transitive if the values of each
column are of one kind: texts, truth values, integers that fit a word, other numbers, or
values without an order. -/
theorem compare_isOrder (sorting : Sorting) :
    (∀ x y, sorting.compare y x = (sorting.compare x y).swap) ∧
    ∀ x y z, (∀ key ∈ sorting, Json.IsUniform key.column [x, y, z]) →
      (sorting.compare x y).isLE → (sorting.compare y z).isLE → (sorting.compare x z).isLE :=
  ⟨sorting.compare_swap, fun x y z huniform =>
    (isOrderOn_compare huniform).trans x (by simp) y (by simp) z (by simp)⟩

/-- Films without a year stand before one with a year, those with fewer stars first. -/
theorem compare_isOrder_films :
    let sorting : Sorting := [⟨"year", .descending⟩, ⟨"stars", .ascending⟩]
    let film (year : Json) (stars : Int) : Json :=
      .object [("year", year), ("stars", .number (.integer stars))]
    let x := film .null 3
    let y := film .null 4
    let z := film (.number (.integer 2010)) 1
    (∀ key ∈ sorting, Json.IsUniform key.column [x, y, z]) ∧
      (sorting.compare x y).isLE ∧ (sorting.compare y z).isLE ∧ (sorting.compare x z).isLE := by
  intro sorting film x y z
  have huniform : ∀ key ∈ sorting, Json.IsUniform key.column [x, y, z] :=
    List.forall_mem_cons.2 ⟨⟨.word, by decide⟩,
      List.forall_mem_cons.2 ⟨⟨.word, by decide⟩, by simp⟩⟩
  exact ⟨huniform, by decide, by decide,
    sorting.compare_isOrder.2 x y z huniform (by decide) (by decide)⟩

/-- **Columns of several kinds are not in order**: not those of large integers, where one
that fits a word counts as equal to the first one that does not; not those that mix
integers with binary numbers, which have less room; and not those that mix integers with
texts.  A sort by such a column may leave the first of three records in front, although the
last one comes before it. -/
theorem compare_not_transitive :
    let sorting : Sorting := [⟨"n", .ascending⟩]
    let record (value : Json) : Json := .object [("n", value)]
    let integer (n : Int) : Json := record (.number (.integer n))
    let binary : Json := record (.ofBinary64 (.ofInt (2 ^ 53)))
    let text : Json := record (.text "x")
    let Breaks (x y z : Json) : Prop :=
      (sorting.compare x y).isLE ∧ (sorting.compare y z).isLE ∧ sorting.compare x z = .gt
    Breaks (integer (2 ^ 63 - 1)) (integer (2 ^ 63)) (integer (2 ^ 63 - 2)) ∧
      Breaks (integer (2 ^ 53 + 1)) binary (integer (2 ^ 53)) ∧
      Breaks (integer 2) text (integer 1) ∧
      sorting.sort id [integer (2 ^ 63 - 1), integer (2 ^ 63), integer (2 ^ 63 - 2)]
        = [integer (2 ^ 63 - 1), integer (2 ^ 63), integer (2 ^ 63 - 2)] :=
  ⟨by decide, by decide, by decide, rfl⟩

end Sorting

end RecordQuery
