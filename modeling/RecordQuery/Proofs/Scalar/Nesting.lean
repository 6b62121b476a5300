import RecordQuery.Proofs.Number.Rounding
import RecordQuery.Proofs.Scalar.Written

/-!
# Ranges within ranges

What lies below a bound lies below each greater bound.  So a test for a range holds wherever a
test for a part of the range does, and both are unknown of the same values.

## Main Definitions

* `Scalar.AtMost` — a value does not exceed another one of its type
* `Declines` — what may become of an outcome if the bound is replaced by a greater one
* `Test.Within` — a test asks for a part of the range that another test asks for

## Main Statements

* `Json.declines_compareTo?` — comparing with a greater bound, whatever the value is read as
* `Test.Within.truth` — the test for a part of a range against the test for the range
* `Test.ranges_nest` — both of these, at every column

## Design Notes

How a value is read is settled by the type of the bound and by the value itself, never by the
bound.  A number that is no signed word is compared with one as a binary number, and then the
bound is rounded too; rounding keeps the order of two bounds but may make them equal.
-/

namespace RecordQuery

/-! ## Outcomes of comparisons -/

/-- Whether the second outcome may be what becomes of the first one with a greater bound:
neither comparison can be made, or what came before the bound still does, and what did not come
after it still does not. -/
inductive Declines : Option Ordering → Option Ordering → Prop
  | incomparable : Declines none none
  | comparable {order order' : Ordering} (lt : order = .lt → order' = .lt)
    (isLE : order.isLE = true → order'.isLE = true) : Declines (some order) (some order')

namespace Declines

variable {α : Type} {cmp : α → α → Ordering} {b c : α}

theorem of_isLE [Std.TransCmp cmp] (h : (cmp b c).isLE = true) (a : α) :
    Declines (some (cmp a b)) (some (cmp a c)) :=
  .comparable (fun hab => Std.TransCmp.lt_of_lt_of_isLE hab h)
    (fun hab => Std.TransCmp.isLE_trans hab h)

/-- A value that is read without regard to the bound. -/
theorem map_of_isLE [Std.TransCmp cmp] (h : (cmp b c).isLE = true) (read? : Option α) :
    Declines (read?.map fun a => cmp a b) (read?.map fun a => cmp a c) := by
  cases read? with
  | none => exact .incomparable
  | some a => exact of_isLE h a

variable {order? order'? : Option Ordering}

theorem isSome_eq (h : Declines order? order'?) : order?.isSome = order'?.isSome := by
  cases h <;> rfl

theorem eq_lt (h : Declines order? order'?) (hlt : order? = some .lt) : order'? = some .lt := by
  cases h with
  | incomparable => exact hlt
  | comparable lt _ => rw [lt (Option.some.inj hlt)]

theorem eq_lt_or_eq (h : Declines order? order'?) (heq : order? = some .eq) :
    order'? = some .lt ∨ order'? = some .eq := by
  cases h with
  | incomparable => cases heq
  | @comparable order order' _ isLE =>
    obtain rfl := Option.some.inj heq
    cases order' with
    | lt => exact .inl rfl
    | eq => exact .inr rfl
    | gt => exact absurd (isLE rfl) Bool.false_ne_true

end Declines

/-! ## Bounds -/

/-- Whether a value does not exceed another one of its type; a NaN is no bound. -/
structure Scalar.AtMost (v w : Scalar) : Prop where
  left_isNaN : v.isNaN = false
  right_isNaN : w.isNaN = false
  precedes_or_sameValue : v.Precedes w ∨ v.SameValue w

theorem Scalar.AtMost.sameKind {v w : Scalar} (h : v.AtMost w) : v.sameKind w = true := by
  obtain ⟨-, -, hle⟩ := h
  cases v <;> cases w <;> first | rfl | exact (hle.elim id id : False).elim

theorem Scalar.AtMost.exists_order? {v w : Scalar} (h : v.AtMost w) :
    ∃ order, v.order? w = some order ∧ order.isLE = true := by
  obtain ⟨order, horder, hlt, heq, -⟩ := order?_eq_some h.sameKind h.left_isNaN h.right_isNaN
  refine ⟨order, horder, ?_⟩
  rcases h.precedes_or_sameValue with hprecedes | hsame
  · rw [hlt.2 hprecedes]; rfl
  · rw [heq.2 hsame]; rfl

instance : Std.TransCmp Decimal.compare := by
  have hcompare : Decimal.compare = compareOn Decimal.value :=
    funext fun x => funext fun y => Decimal.compare_eq x y
  rw [hcompare]
  infer_instance

instance : Std.TransCmp Instant.compare :=
  inferInstanceAs
    (Std.TransCmp (compareLex (compareOn Instant.seconds) (compareOn Instant.nanos)))

instance : Std.TransCmp Uuid.compare :=
  inferInstanceAs (Std.TransCmp (compareOn Uuid.number))

theorem Binary64.declines_compare? {x y z : Binary64} (hx : x.isNaN = false)
    (hy : y.isNaN = false) (hz : z.isNaN = false) (h : (compare y.place z.place).isLE = true) :
    Declines (x.compare? y) (x.compare? z) := by
  rw [compare?_of_isNaN_eq_false hx hy, compare?_of_isNaN_eq_false hx hz]
  exact .of_isLE h x.place

namespace Json

/-- A number is compared with both words exactly, or both words are rounded. -/
theorem Number.declines_compareTo? (number : Number) {m n : Int64} (h : m.toInt ≤ n.toInt) :
    Declines (number.compareTo? m) (number.compareTo? n) := by
  unfold compareTo?
  cases number.int64? with
  | some i => exact .of_isLE (Std.isLE_compare.2 h) i
  | none =>
    exact Binary64.declines_compare? number.isNaN_toBinary64 (Binary64.isNaN_ofInt _)
      (Binary64.isNaN_ofInt _) (Std.isLE_compare.2 (Binary64.place_ofInt_mono h))

/-- **What a value is relative to a bound, and to a greater one.** -/
theorem declines_compareTo? (x : Json) {v w : Scalar} (h : v.AtMost w) :
    Declines (x.compareTo? v) (x.compareTo? w) := by
  obtain ⟨order, horder, hle⟩ := h.exists_order?
  cases v <;> cases w <;> try contradiction
  case bool.bool a b =>
    obtain rfl := Option.some.inj horder
    exact .map_of_isLE hle x.bool?
  case int.int m n =>
    obtain rfl := Option.some.inj horder
    cases hnumber : x.number? with
    | none => simp only [compareTo?, hnumber, Option.bind_none, Declines.incomparable]
    | some number =>
      simp only [compareTo?, hnumber, Option.bind_some]
      exact number.declines_compareTo? (Std.isLE_compare.1 hle)
  case float.float y z =>
    have hplace := horder
    rw [Scalar.order?, Binary64.compare?_of_isNaN_eq_false h.left_isNaN h.right_isNaN] at hplace
    obtain rfl := Option.some.inj hplace
    cases hnumber : x.number? with
    | none => simp only [compareTo?, hnumber, Option.bind_none, Declines.incomparable]
    | some number =>
      simp only [compareTo?, hnumber, Option.bind_some]
      exact Binary64.declines_compare? number.isNaN_toBinary64 h.left_isNaN h.right_isNaN hle
  case text.text s t =>
    obtain rfl := Option.some.inj horder
    exact .map_of_isLE hle x.text?
  case decimal.decimal y z =>
    obtain rfl := Option.some.inj horder
    exact .map_of_isLE hle x.decimal?
  case instant.instant s t =>
    obtain rfl := Option.some.inj horder
    exact .map_of_isLE hle (x.text?.bind Instant.read?)
  case uuid.uuid y z =>
    obtain rfl := Option.some.inj horder
    exact .map_of_isLE hle (x.text?.bind Uuid.read?)

end Json

/-! ## Tests -/

/-- A comparison that holds below a bound holds below a greater one, and one that holds above a
bound holds above a smaller one. -/
theorem Declines.map_holds {order? order'? : Option Ordering} (h : Declines order? order'?) :
    (∀ op ∈ [Comparison.lt, Comparison.le],
      order?.map op.holds = some true → order'?.map op.holds = some true) ∧
    ∀ op ∈ [Comparison.gt, Comparison.ge],
      order'?.map op.holds = some true → order?.map op.holds = some true := by
  cases h with
  | incomparable => simp
  | @comparable order order' lt isLE =>
    cases order <;> cases order' <;> simp_all [Comparison.holds]

theorem Truth.ofOption_of_imp {a? b? : Option Bool} (hsome : a?.isSome = b?.isSome)
    (himp : a? = some true → b? = some true) :
    (ofOption a? = yes → ofOption b? = yes) ∧
    (ofOption a? = unknown ↔ ofOption b? = unknown) := by
  rcases a? with _ | _ | _ <;> rcases b? with _ | _ | _ <;> simp_all [ofOption, ofBool]

namespace Test

/-- Whether a test asks for a part of the range that another test asks for. -/
inductive Within : Test → Test → Prop
  | lt {v w : Scalar} (h : v.AtMost w) : Within (compare .lt v) (compare .lt w)
  | le {v w : Scalar} (h : v.AtMost w) : Within (compare .le v) (compare .le w)
  | gt {v w : Scalar} (h : v.AtMost w) : Within (compare .gt w) (compare .gt v)
  | ge {v w : Scalar} (h : v.AtMost w) : Within (compare .ge w) (compare .ge v)
  | between {low low' high high' : Scalar} (hlow : low'.AtMost low)
      (hhigh : high.AtMost high') :
      Within (between low high) (between low' high')

/-- What a range asks of the outcomes of its two comparisons. -/
theorem truth_between_eq (low high : Scalar) (value : Json) :
    (between low high).truth (some value)
      = .ofOption (Option.map₂ (· && ·) ((value.compareTo? low).map Comparison.ge.holds)
          ((value.compareTo? high).map Comparison.le.holds)) := by
  simp only [truth]
  cases value.compareTo? low <;> cases value.compareTo? high <;> rfl

theorem isSome_map₂_and (a? b? : Option Bool) :
    (Option.map₂ (· && ·) a? b?).isSome = (a?.isSome && b?.isSome) := by
  cases a? <;> cases b? <;> rfl

theorem map₂_and_eq_some_true_iff {a? b? : Option Bool} :
    Option.map₂ (· && ·) a? b? = some true ↔ a? = some true ∧ b? = some true := by
  cases a? <;> cases b? <;> simp

/-- **A test for a part of a range** holds only where the test for the range does, and is
unknown where that test is. -/
theorem Within.truth {test test' : Test} (h : test.Within test') (value? : Option Json) :
    (test.truth value? = .yes → test'.truth value? = .yes) ∧
      (test.truth value? = .unknown ↔ test'.truth value? = .unknown) := by
  cases value? with
  | none => cases h <;> exact ⟨id, Iff.rfl⟩
  | some value =>
    have hsome : ∀ {v w : Scalar} (op : Comparison), v.AtMost w →
        ((value.compareTo? v).map op.holds).isSome
          = ((value.compareTo? w).map op.holds).isSome := by
      intro v w op hle
      rw [Option.isSome_map, Option.isSome_map, (value.declines_compareTo? hle).isSome_eq]
    have hholds : ∀ {v w : Scalar}, v.AtMost w → _ :=
      fun hle => (value.declines_compareTo? hle).map_holds
    cases h with
    | lt h => exact Truth.ofOption_of_imp (hsome .lt h) ((hholds h).1 .lt (by decide))
    | le h => exact Truth.ofOption_of_imp (hsome .le h) ((hholds h).1 .le (by decide))
    | gt h => exact Truth.ofOption_of_imp (hsome .gt h).symm ((hholds h).2 .gt (by decide))
    | ge h => exact Truth.ofOption_of_imp (hsome .ge h).symm ((hholds h).2 .ge (by decide))
    | between hlow hhigh =>
      rw [truth_between_eq, truth_between_eq]
      refine Truth.ofOption_of_imp ?_ fun h => ?_
      · rw [isSome_map₂_and, isSome_map₂_and, hsome .ge hlow, hsome .le hhigh]
      · obtain ⟨habove, hbelow⟩ := map₂_and_eq_some_true_iff.1 h
        exact map₂_and_eq_some_true_iff.2
          ⟨(hholds hlow).2 .ge (by decide) habove, (hholds hhigh).1 .le (by decide) hbelow⟩

/-- **Ranges nest.**  A value that can be compared with a bound can be compared with each
greater one of its type, and the other way round; it comes before the greater one if it comes
before the smaller one, and does not come after it if it equals the smaller one.  So at every
column a test for a part of a range holds only where the test for the range does, and both are
unknown of the same rows. -/
theorem ranges_nest :
    (∀ v w : Scalar, v.AtMost w → ∀ x : Json,
      (x.compareTo? v = none ↔ x.compareTo? w = none) ∧
      (x.compareTo? v = some .lt → x.compareTo? w = some .lt) ∧
      (x.compareTo? v = some .eq → x.compareTo? w = some .lt ∨ x.compareTo? w = some .eq)) ∧
    ∀ test test' : Test, test.Within test' → ∀ (c : Column) (binding : Binding),
      let truth (test : Test) := Condition.truth (.atom (.column c test)) binding
      (truth test = .yes → truth test' = .yes) ∧
        (truth test = .unknown ↔ truth test' = .unknown) := by
  constructor
  · intro v w hle x
    have hdeclines := x.declines_compareTo? hle
    refine ⟨?_, hdeclines.eq_lt, hdeclines.eq_lt_or_eq⟩
    rw [← Option.isNone_iff_eq_none, ← Option.isNone_iff_eq_none, ← Option.not_isSome,
      ← Option.not_isSome, hdeclines.isSome_eq]
  · intro test test' hwithin c binding
    exact hwithin.truth (binding.column? c)

/-- The first integer beyond the signed words counts as equal to the last two of them, so it is
in a range that ends at the last but one, and in each range around that. -/
theorem ranges_nest_rounded :
    let word (n : Int) : Scalar := .int (Int64.ofInt n)
    let range : Test := .between (word 0) (word (2 ^ 63 - 2))
    let wider : Test := .between (word (-1)) (word (2 ^ 63 - 1))
    let x : Json := .number (.integer (2 ^ 63))
    let truth (test : Test) :=
      Condition.truth (.atom (.column ⟨.root, [], "n"⟩ test)) ⟨.object [("n", x)], []⟩
    (word (2 ^ 63 - 2)).AtMost (word (2 ^ 63 - 1)) ∧ range.Within wider ∧
      x.compareTo? (word (2 ^ 63 - 2)) = some .eq ∧
      (x.compareTo? (word (2 ^ 63 - 1)) = some .lt ∨
        x.compareTo? (word (2 ^ 63 - 1)) = some .eq) ∧
      truth range = .yes ∧ truth wider = .yes := by
  intro word range wider x truth
  have hlast : (word (2 ^ 63 - 2)).AtMost (word (2 ^ 63 - 1)) :=
    ⟨rfl, rfl, .inl (by decide : (Int64.ofInt (2 ^ 63 - 2)).toInt
      < (Int64.ofInt (2 ^ 63 - 1)).toInt)⟩
  have hfirst : (word (-1)).AtMost (word 0) :=
    ⟨rfl, rfl, .inl (by decide : (Int64.ofInt (-1)).toInt < (Int64.ofInt 0).toInt)⟩
  have hwithin : range.Within wider := .between hfirst hlast
  have hequal : x.compareTo? (word (2 ^ 63 - 2)) = some .eq := by decide +kernel
  have hrange : truth range = .yes := by decide +kernel
  obtain ⟨hbounds, htests⟩ := ranges_nest
  exact ⟨hlast, hwithin, hequal, (hbounds _ _ hlast x).2.2 hequal, hrange,
    (htests range wider hwithin _ _).1 hrange⟩

end Test

end RecordQuery
