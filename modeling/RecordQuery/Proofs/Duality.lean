import RecordQuery.Proofs.Agreement
import RecordQuery.Proofs.Composition

/-!
# Opposite tests

Every test has an opposite that holds where the test fails and is unknown where the test is.
The opposite of a condition is made of those of its tests, with the other connective for every
junction, and is as good as the complement.

## Main Definitions

* `Formula.dual` — the other connective for each junction and a given formula for each atom
* `Comparison.opposite`, `Presence.opposite`, `Test.opposite?` — the one
  test that is the opposite
* `Test.dual` — the opposite of a test as a condition, also of a range and of a choice
* `Condition.dual` — the opposite of a condition

## Main Statements

* `Formula.eval_dual` — the dual is the complement if each atom is replaced by its complement
* `Sql.negate_compareTruth` — the opposite of a comparison is its complement
* `Test.truth_opposite?`, `Atom.truth_dual` — so are the opposites of tests
* `Condition.dual_complements` — the opposite of a condition is its complement

## Design Notes

A range and a choice have no single test as their opposite.  That of a range is to lie below or
above it, which is its complement only if both bounds can be compared with the same values; that
of a choice is to differ from all values, which says nothing of a missing value if there are
none.  `Atom.isRegular` rules out the other ranges and choices.
-/

namespace RecordQuery

universe u

/-! ## Formulas -/

theorem Connective.negate_join (c : Connective) (ts : List Truth) :
    (c.join ts).negate = c.dual.join (ts.map Truth.negate) := by
  cases c with
  | conj => exact Truth.negate_all ts
  | disj => exact Truth.negate_any ts

namespace Formula

variable {α : Type u}

mutual

/-- The formula with the other connective for each junction and a given formula for each atom.
A complement is what it is the complement of. -/
def dual (g : α → Formula α) : Formula α → Formula α
  | atom a => g a
  | junction c ts => junction c.dual (dualEach g ts)
  | not f => f

/-- The dual of each formula of a list. -/
def dualEach (g : α → Formula α) : List (Formula α) → List (Formula α)
  | [] => []
  | f :: fs => dual g f :: dualEach g fs

end

@[simp] theorem dualEach_eq_map (g : α → Formula α) (fs : List (Formula α)) :
    dualEach g fs = fs.map (dual g) := by
  induction fs with
  | nil => rfl
  | cons f fs ih => simp [dualEach, ih]

@[simp] theorem dual_junction (g : α → Formula α) (c : Connective) (ts : List (Formula α)) :
    (junction c ts).dual g = junction c.dual (ts.map (dual g)) := by
  rw [dual, dualEach_eq_map]

/-- **The dual is the complement** if each atom is replaced by its complement. -/
theorem eval_dual {truth : α → Truth} {g : α → Formula α} {f : Formula α}
    (h : ∀ a ∈ f.atoms, (g a).eval truth = (truth a).negate) :
    (f.dual g).eval truth = (f.eval truth).negate := by
  induction f using induct with
  | atom a => exact h a (List.mem_singleton_self a)
  | not f => exact (Truth.negate_negate _).symm
  | junction c ts ih =>
    have hterms : ∀ t ∈ ts, (t.dual g).eval truth = (t.eval truth).negate := by
      intro t ht
      refine ih t ht fun a ha => h a ?_
      rw [atoms_junction]
      exact List.mem_flatMap.2 ⟨t, ht, ha⟩
    rw [dual_junction, eval_junction, eval_junction, Connective.negate_join, List.map_map,
      List.map_map]
    exact congrArg c.dual.join (List.map_congr_left hterms)

end Formula

/-! ## Tests -/

/-- The comparison that holds where another one fails. -/
def Comparison.opposite : Comparison → Comparison
  | eq => ne
  | ne => eq
  | lt => ge
  | le => gt
  | gt => le
  | ge => lt

theorem Comparison.holds_opposite (op : Comparison) (order : Ordering) :
    op.opposite.holds order = !op.holds order := by
  cases op <;> cases order <;> rfl

theorem Truth.either_no (t : Truth) : either t no = t := by cases t <;> rfl

theorem Truth.negate_ofOption (b? : Option Bool) :
    (ofOption b?).negate = ofOption (b?.map (!·)) := by
  cases b? with
  | none => rfl
  | some b => exact negate_ofBool b

/-- The opposite of a comparison is its complement, also where it is unknown. -/
theorem Sql.negate_compareTruth (op : Comparison) (value? : Option Json) (s : Scalar) :
    (compareTruth op value? s).negate = compareTruth op.opposite value? s := by
  have hholds : op.opposite.holds = (fun b => !b) ∘ op.holds :=
    funext fun order => op.holds_opposite order
  unfold compareTruth
  rw [Truth.negate_ofOption, Option.map_bind, hholds]
  refine congrArg Truth.ofOption (congrArg value?.bind (funext fun value => ?_))
  exact Option.map_map _ _ _

namespace Test

/-- The one test that is the opposite of another: with the opposite comparison, or the other way
round.  Of ranges and choices there is none. -/
def opposite? : Test → Option Test
  | compare op v => some (compare op.opposite v)
  | between _ _ => none
  | oneOf _ => none
  | isNull negated => some (isNull !negated)
  | isBool b => some (isBool !b)
  | like pattern escape negated => some (like pattern escape !negated)

/-- The opposite of a test of a column: one test if there is one, below or above of a range, and
different from each value of a choice. -/
def dual (c : Column) : Test → Condition
  | between low high =>
    .junction .disj [.atom (.column c (compare .lt low)), .atom (.column c (compare .gt high))]
  | oneOf values => .junction .conj (values.map fun v => .atom (.column c (compare .ne v)))
  | test => .atom (.column c (test.opposite?.getD test))

theorem truth_compare (op : Comparison) (v : Scalar) (value? : Option Json) :
    (compare op v).truth value? = Sql.compareTruth op value? v := by
  cases value? <;> rfl

/-- **The opposite of a test is its complement** at every value, missing ones included. -/
theorem truth_opposite? {test opposite : Test} (h : test.opposite? = some opposite)
    (value? : Option Json) : opposite.truth value? = (test.truth value?).negate := by
  cases test with
  | between low high => exact absurd h (Option.some_ne_none _).symm
  | oneOf values => exact absurd h (Option.some_ne_none _).symm
  | compare op v =>
    obtain rfl := Option.some.inj h
    rw [truth_compare, truth_compare, Sql.negate_compareTruth]
  | isNull negated =>
    obtain rfl := Option.some.inj h
    rw [truth, truth, Truth.negate_ofBool, Bool.bne_not]
  | isBool b =>
    obtain rfl := Option.some.inj h
    have hother : ∀ other b : Bool, (other == !b) = !(other == b) := by decide
    cases value? with
    | none => rfl
    | some value =>
      rw [truth, truth, Truth.negate_ofOption, Option.map_map]
      exact congrArg (fun f => Truth.ofOption (value.bool?.map f))
        (funext fun other => hother other b)
  | like pattern escape negated =>
    obtain rfl := Option.some.inj h
    cases value? with
    | none => rfl
    | some value =>
      rw [truth, truth, Truth.negate_ofOption]
      refine congrArg Truth.ofOption ?_
      cases htext : value.text? with
      | none => rfl
      | some text =>
        cases hfits : like? text pattern (escape.getD defaultEscape) with
        | none => simp [hfits]
        | some fits => simp [hfits]

theorem dual_of_opposite? {test opposite : Test} (h : test.opposite? = some opposite)
    (c : Column) :
    test.dual c = .atom (.column c opposite) := by
  cases test <;> cases h <;> rfl

/-- The opposite of a test at a column is its complement there, if its values fit together. -/
theorem truth_dual (binding : Binding) (c : Column) {test : Test} (h : test.isRegular = true) :
    (test.dual c).truth binding = (test.truth (binding.column? c)).negate := by
  cases hopposite : test.opposite? with
  | some opposite =>
    rw [dual_of_opposite? hopposite]
    exact truth_opposite? hopposite _
  | none =>
    cases test with
    | between low high =>
      rw [truth_between h, Truth.negate_both, Sql.negate_compareTruth, Sql.negate_compareTruth]
      simp only [dual, Condition.truth, Formula.eval_junction, List.map_cons, List.map_nil,
        Formula.eval_atom, Atom.truth, truth_compare, Connective.join, Truth.any,
        Truth.either_no]
      rfl
    | oneOf values =>
      rw [truth_oneOf h, Truth.negate_any, dual, Condition.truth, Formula.eval_junction,
        List.map_map, List.map_map]
      refine congrArg Truth.all (List.map_congr_left fun v _ => ?_)
      rw [Function.comp_apply, Function.comp_apply, Sql.negate_compareTruth]
      exact truth_compare .ne v _
    | compare op v => cases hopposite
    | isNull negated => cases hopposite
    | isBool b => cases hopposite
    | like pattern escape negated => cases hopposite

end Test

/-- The test of a collection that holds where another one fails. -/
def Presence.opposite : Presence → Presence
  | empty negated => empty !negated
  | member key negated => member key !negated

theorem Presence.holds_opposite (keyColumn : String) (rows : List Json) (presence : Presence) :
    presence.opposite.holds keyColumn rows = !presence.holds keyColumn rows := by
  cases presence with
  | empty negated => exact Bool.bne_not _ negated
  | member key negated => exact Bool.bne_not _ negated

/-! ## Conditions -/

namespace Atom

/-- The opposite of a test where it is made. -/
def dual : Atom → Condition
  | column c test => test.dual c
  | related r presence => .atom (related r presence.opposite)

theorem truth_opposite_related (binding : Binding) (r : Related) (presence : Presence) :
    (related r presence.opposite).truth binding
      = ((related r presence).truth binding).negate := by
  rw [truth, truth, Truth.negate_ofOption, Option.map_map]
  exact congrArg (fun f => Truth.ofOption ((binding.related? r).map f))
    (funext fun rows => presence.holds_opposite _ rows)

theorem truth_dual (binding : Binding) {a : Atom} (h : a.isRegular = true) :
    (a.dual).truth binding = (a.truth binding).negate := by
  cases a with
  | column c test => exact Test.truth_dual binding c h
  | related r presence => exact truth_opposite_related binding r presence

end Atom

/-- Two conditions of one truth at every binding hold on the same records. -/
theorem Selection.accepts_congr {condition condition' : Condition}
    (h : ∀ binding, condition.truth binding = condition'.truth binding) (joins : List Join)
    (record : Json) :
    Selection.accepts ⟨some condition, joins⟩ record
      = Selection.accepts ⟨some condition', joins⟩ record := by
  show condition.holdsBelow ⟨record, []⟩ joins = condition'.holdsBelow ⟨record, []⟩ joins
  rw [Condition.holdsBelow_eq_any, Condition.holdsBelow_eq_any]
  simp only [h]

/-- The one test that is the opposite of another is the complement of it in a filter, whatever
joins lead to the column. -/
theorem Filter.accepts_opposite_column (table : Table) (path : Path 0) {test opposite : Test}
    (h : test.opposite? = some opposite) (record : Json) :
    (restricted (.column path opposite)).accepts table record
      = (~~~(restricted (.column path test))).accepts table record := by
  let c : Column :=
    ⟨(path.base.resolve table Scope.empty 0).1.source, path.embedded, path.field⟩
  have htruth : ∀ binding, Condition.truth (.atom (.column c opposite)) binding
      = Condition.truth (.not (.atom (.column c test))) binding :=
    fun binding => Test.truth_opposite? h (binding.column? c)
  exact Selection.accepts_congr htruth (path.base.resolve table Scope.empty 0).2 record

theorem Filter.accepts_opposite_related (table : Table) (base : Base 0)
    (collection : Collection) (presence : Presence) (record : Json) :
    (restricted (.related base collection presence.opposite)).accepts table record
      = (~~~(restricted (.related base collection presence))).accepts table record := by
  let r : Related := collection.seenFrom (base.resolve table Scope.empty 0).1
  have htruth : ∀ binding, Condition.truth (.atom (.related r presence.opposite)) binding
      = Condition.truth (.not (.atom (.related r presence))) binding :=
    fun binding => Atom.truth_opposite_related binding r presence
  exact Selection.accepts_congr htruth (base.resolve table Scope.empty 0).2 record

namespace Condition

/-- The opposite of a condition. -/
def dual (condition : Condition) : Condition := Formula.dual Atom.dual condition

theorem truth_dual {condition : Condition} (h : ∀ a ∈ condition.atoms, a.isRegular = true)
    (binding : Binding) : condition.dual.truth binding = (condition.truth binding).negate :=
  Formula.eval_dual fun a ha => Atom.truth_dual binding (h a ha)

/-- **The opposite of a condition is its complement**, if the values of its tests fit together:
it has the truth of the complement at every binding, so it is unknown exactly where the
condition is, and with any joins it finds the same records as the complement.  A single test
that is the opposite of another one finds the records that the complement of the other one
finds, of a column as well as of a collection. -/
theorem dual_complements (condition : Condition)
    (hregular : ∀ a ∈ condition.atoms, a.isRegular = true) :
    (∀ binding, condition.dual.truth binding = Condition.truth (.not condition) binding ∧
      (condition.dual.truth binding = .unknown ↔ condition.truth binding = .unknown)) ∧
    (∀ joins record, Selection.accepts ⟨some condition.dual, joins⟩ record
      = Selection.accepts ⟨some (.not condition), joins⟩ record) ∧
    (∀ table path test opposite, test.opposite? = some opposite → ∀ record,
      (Filter.restricted (.column path opposite)).accepts table record
        = (~~~(Filter.restricted (.column path test))).accepts table record) ∧
    ∀ table base collection presence record,
      (Filter.restricted (.related base collection presence.opposite)).accepts table record
        = (~~~Filter.restricted (.related base collection presence)).accepts table record := by
  have htruth : ∀ binding,
      condition.dual.truth binding = Condition.truth (.not condition) binding :=
    truth_dual hregular
  refine ⟨fun binding => ⟨htruth binding, ?_⟩, Selection.accepts_congr htruth,
    fun table path _ _ hopposite => Filter.accepts_opposite_column table path hopposite,
    Filter.accepts_opposite_related⟩
  rw [truth_dual hregular binding]
  cases condition.truth binding <;> decide

/-- A show that was not released in a range of years and has none of some titles: a release
outside the range contradicts that or one of the titles does, and neither is known of a show
without both. -/
theorem dual_complements_released :
    let year : Column := ⟨.root, [], "year"⟩
    let title : Column := ⟨.root, [], "title"⟩
    let condition : Condition := .junction .conj
      [.atom (.column year (.between (.int 2010) (.int 2019))),
        .not (.atom (.column title (.oneOf [.text "Dark", .text "Lost"])))]
    let record (year : Json) : Json := .object [("year", year)]
    (∀ a ∈ condition.atoms, a.isRegular = true) ∧
      condition.dual = .junction .disj
        [.junction .disj [.atom (.column year (.compare .lt (.int 2010))),
          .atom (.column year (.compare .gt (.int 2019)))],
          .atom (.column title (.oneOf [.text "Dark", .text "Lost"]))] ∧
      Condition.truth (.not condition) ⟨record (.number (.integer 2004)), []⟩ = .yes ∧
      condition.dual.truth ⟨record (.number (.integer 2004)), []⟩ = .yes ∧
      condition.truth ⟨record .null, []⟩ = .unknown ∧
      condition.dual.truth ⟨record .null, []⟩ = .unknown := by
  intro year title condition record
  have hregular : ∀ a ∈ condition.atoms, a.isRegular = true := by
    simp only [condition, Formula.atoms_junction]
    decide
  obtain ⟨hcomplement, -⟩ := dual_complements condition hregular
  have hyes : condition.dual.truth ⟨record (.number (.integer 2004)), []⟩ = .yes := by
    decide +kernel
  have hunknown : condition.truth ⟨record .null, []⟩ = .unknown := by decide +kernel
  exact ⟨hregular, rfl, (hcomplement _).1.symm.trans hyes, hyes, hunknown,
    (hcomplement _).2.2 hunknown⟩

end Condition

end RecordQuery
