import RecordQuery.Proofs.Binding
import RecordQuery.Proofs.Number.Binary64
import RecordQuery.Proofs.Numbering
import RecordQuery.Proofs.Sql.Evaluation

/-!
# Agreement of the two readings of a condition

A condition is decided on the rows of a binding, or it is written out as SQL and a database
evaluates the text.  Both give the same of the three outcomes.

## Main Definitions

* `Atom.isRegular` — a choice is among some values, and the bounds of a range are of one kind
* `Condition.Unambiguous` — references with the same text denote the same
* `Sql.World.Reads` — a text is evaluated on the rows of a binding, with the values bound
* `Sql.World.ofBinding` — the world that a binding makes

## Main Statements

* `Test.eval_search`, `Presence.eval_search` — the written test is as true as the test
* `Condition.evaluate_clause` — the written condition is as true as the condition

## Design Notes

A range is read as two comparisons.  Where just one of them can be made, the conjunction may be
definite while the test is unknown; bounds of one kind, neither of them a NaN, rule that out.  A
choice among no values is written as the constant false, but is unknown of a missing value.
-/

namespace RecordQuery

/-! ## Regular tests -/

/-- Whether two scalars are values of one type. -/
def Scalar.sameKind : Scalar → Scalar → Bool
  | bool _, bool _ => true
  | int _, int _ => true
  | float _, float _ => true
  | text _, text _ => true
  | decimal _, decimal _ => true
  | instant _, instant _ => true
  | uuid _, uuid _ => true
  | _, _ => false

/-- Whether the scalar is none of the numbers. -/
def Scalar.isNaN : Scalar → Bool
  | float x => x.isNaN
  | _ => false

/-- Whether the values of a test fit together: a choice is among some values, and the bounds of
a range are of one kind and can be compared with. -/
def Test.isRegular : Test → Bool
  | between low high => low.sameKind high && !low.isNaN && !high.isNaN
  | oneOf values => !values.isEmpty
  | _ => true

/-- Whether the values of an atom fit together. -/
def Atom.isRegular : Atom → Bool
  | column _ test => test.isRegular
  | related _ _ => true

theorem Json.Number.isSome_compareTo? (number : Number) (n : Int64) :
    (number.compareTo? n).isSome = (number.int64?.isSome || !number.toBinary64.isNaN) := by
  cases h : number.int64? with
  | some i => rw [compareTo?, h]; rfl
  | none =>
    rw [compareTo?, h, Binary64.isSome_compare?, Binary64.isNaN_ofInt, Bool.not_false,
      Bool.and_true]
    rfl

/-- Whether a value can be compared with a scalar is settled by the kind of the scalar. -/
theorem Json.isSome_compareTo?_congr {low high : Scalar} (hkind : low.sameKind high = true)
    (hlow : low.isNaN = false) (hhigh : high.isNaN = false) (value : Json) :
    (value.compareTo? low).isSome = (value.compareTo? high).isSome := by
  cases low <;> cases high <;> first | exact absurd hkind Bool.false_ne_true | skip
  case int.int m n =>
    cases hnumber : value.number? with
    | none => simp [compareTo?, hnumber]
    | some number => simp only [compareTo?, hnumber, Option.bind_some, number.isSome_compareTo?]
  case float.float x y =>
    cases hnumber : value.number? with
    | none => simp [compareTo?, hnumber]
    | some number =>
      have hx : x.isNaN = false := hlow
      have hy : y.isNaN = false := hhigh
      simp [compareTo?, hnumber, Binary64.isSome_compare?, hx, hy]
  all_goals simp only [compareTo?, Option.isSome_map]

/-- A range is the conjunction of its two comparisons. -/
theorem Test.truth_between {low high : Scalar} (h : (between low high).isRegular = true)
    (value? : Option Json) :
    (between low high).truth value?
      = (Sql.compareTruth .ge value? low).both (Sql.compareTruth .le value? high) := by
  obtain ⟨⟨hkind, hlow⟩, hhigh⟩ : (low.sameKind high = true ∧ low.isNaN = false)
      ∧ high.isNaN = false := by simpa [isRegular] using h
  cases value? with
  | none => rfl
  | some value =>
    -- either both bounds can be compared with the value or none can
    have hsome := value.isSome_compareTo?_congr hkind hlow hhigh
    cases hl : value.compareTo? low <;> cases hh : value.compareTo? high <;>
      simp only [hl, hh, Option.isSome_none, Option.isSome_some, Bool.false_eq_true,
        Bool.true_eq_false] at hsome
    · simp [truth, Sql.compareTruth, hl, hh, Truth.ofOption, Truth.both]
    · rename_i atLow atHigh
      have hboth : ∀ a b : Bool,
          Truth.ofBool (a && b) = (Truth.ofBool a).both (Truth.ofBool b) := by decide
      simp [truth, Sql.compareTruth, hl, hh, Truth.ofOption, hboth]

theorem Truth.any_map_unknown {α : Type} {xs : List α} (h : xs ≠ []) :
    Truth.any (xs.map fun _ => unknown) = unknown := by
  induction xs with
  | nil => exact absurd rfl h
  | cons x xs ih =>
    cases xs with
    | nil => rfl
    | cons y ys => rw [List.map_cons, Truth.any, ih (List.cons_ne_nil y ys)]; rfl

/-- A choice among some values is the disjunction of the equalities. -/
theorem Test.truth_oneOf {values : List Scalar} (h : (oneOf values).isRegular = true)
    (value? : Option Json) :
    (oneOf values).truth value? = Truth.any (values.map (Sql.compareTruth .eq value?)) := by
  have hne : values ≠ [] := by simpa [isRegular] using h
  cases value? with
  | none => exact (Truth.any_map_unknown hne).symm
  | some value => rfl

/-! ## Tests -/

namespace Sql

theorem Predicate.expr_oneOf (c : ColumnName) {values : List Int32} (h : values ≠ []) :
    (Predicate.oneOf c values).expr = .oneOf c.qualified (values.map parameterOperand) := by
  obtain ⟨v, vs, rfl⟩ := List.exists_cons_of_ne_nil h
  rfl

theorem toInt_add_ofNat {n : Int32} {i : Nat} (h : n.toInt + i < 2 ^ 31) :
    (n + Int32.ofNat i).toInt = n.toInt + i := by
  have hle := n.le_toInt
  rw [Int32.toInt_add, Int32.toInt_ofNat', Int.add_bmod_bmod]
  exact Int.bmod_eq_of_le (by simp at *; omega) (by simp at *; omega)

/-- The placeholders from `n` on stand for given values, and all of them can be numbered. -/
structure World.Binds (world : World) (n : Int32) (values : List Scalar) : Prop where
  lt : n.toInt + values.length < 2 ^ 31
  parameter : ∀ i < values.length, world.parameter (n.toInt + i) = values[i]?

/-- A placeholder stands for the value at its place. -/
theorem World.Binds.operand? {world : World} {n : Int32} {values : List Scalar}
    (h : world.Binds n values) {i : Nat} {v : Scalar} (hv : values[i]? = some v) :
    world.operand? (parameterOperand (n + Int32.ofNat i)) = some v := by
  obtain ⟨hi, -⟩ := List.getElem?_eq_some_iff.1 hv
  have hplace : (n + Int32.ofNat i).toInt = n.toInt + i := by
    have := h.lt
    exact toInt_add_ofNat (by omega)
  rw [parameterOperand, World.operand?, hplace, h.parameter i hi, hv]

/-- The first placeholder stands for the first value. -/
theorem World.Binds.operand?_zero {world : World} {n : Int32} {v : Scalar}
    {values : List Scalar}
    (h : world.Binds n (v :: values)) : world.operand? (parameterOperand n) = some v := by
  have hzero : n + Int32.ofNat 0 = n := Int32.add_zero n
  rw [← hzero]
  exact h.operand? rfl

/-- The placeholders of a choice stand for its values. -/
theorem World.Binds.mapM_operand? {world : World} {n : Int32} {values : List Scalar}
    (h : world.Binds n values) :
    (((List.range values.length).map fun i => n + Int32.ofNat i).map parameterOperand).mapM
      world.operand? = some values := by
  refine mapM_eq_some_of_map (List.ext_getElem (by simp) fun i hi hi' => ?_)
  have hv := h.operand? (List.getElem?_eq_getElem (l := values) (by simpa using hi'))
  simpa using hv

end Sql

open Sql in
/-- A written pattern is as true as the pattern; the complement is taken of what it comes to,
and an unknown outcome stays unknown. -/
theorem Test.eval_like {world : World} {c : ColumnName} {n : Int32} {pattern : String}
    (hpattern : world.operand? (parameterOperand n) = some (.text pattern))
    (escape : Option Char) (negated : Bool) :
    (Predicate.like c n escape negated).expr.eval world
      = some ((like pattern escape negated).truth (world.column c.qualified)) := by
  have hescape : escapeChar? (escape.map String.singleton)
      = some (escape.getD defaultEscape) := by
    cases escape with
    | none => rfl
    | some e => simp [escapeChar?]
  have hlike : (Expr.like c.qualified (parameterOperand n)
      (escape.map String.singleton)).eval world
        = some (likeTruth (world.column c.qualified) pattern (escape.getD defaultEscape)) := by
    simp [Expr.eval, hpattern, hescape]
  rw [Predicate.expr, eval_negateIf negated hlike]
  congr 1
  cases world.column c.qualified with
  | none => cases negated <;> rfl
  | some value =>
    simp only [truth, likeTruth, Option.bind_some]
    cases value.text? with
    | none => cases negated <;> rfl
    | some text =>
      cases hfits : like? text pattern (escape.getD defaultEscape) with
      | none => cases negated <;> simp [hfits, Truth.ofOption, Truth.negate]
      | some fits => cases negated <;> simp [hfits, Truth.ofOption]

open Sql in
/-- **A written test is as true as the test** at the value of its column. -/
theorem Test.eval_search {world : World} {c : ColumnName} {n : Int32} {test : Test}
    (hregular : test.isRegular = true) (hbinds : world.Binds n test.parameters) :
    (test.search c n).expr.eval world = some (test.truth (world.column c.qualified)) := by
  cases test with
  | compare op v =>
    have hv := hbinds.operand?_zero
    rw [search, Predicate.expr, Expr.eval, hv]
    cases world.column c.qualified <;> rfl
  | between low high =>
    have hlow := hbinds.operand?_zero
    have hhigh : world.operand? (parameterOperand (n + 1)) = some high :=
      hbinds.operand? (i := 1) rfl
    rw [search, Predicate.expr, Expr.eval, hlow, hhigh, truth_between hregular]
    rfl
  | oneOf values =>
    have hne : (List.range values.length).map (fun i => n + Int32.ofNat i) ≠ [] := by
      simpa [isRegular] using hregular
    have hvalues : World.Binds world n values := hbinds
    rw [search, Predicate.expr_oneOf c hne, Expr.eval, hvalues.mapM_operand?,
      truth_oneOf hregular]
    rfl
  | isNull negated =>
    rw [search, Predicate.expr, eval_negateIf negated rfl, truth]
    cases negated <;> cases world.column c.qualified <;> rfl
  | isBool b =>
    have hcompare : ∀ other : Bool, (Ord.compare other b == .eq) = (other == b) := by
      cases b <;> decide
    rw [search, Predicate.expr, Expr.eval, World.operand?]
    cases world.column c.qualified with
    | none => rfl
    | some value =>
      simp [compareTruth, truth, Json.compareTo?, Comparison.holds, hcompare, Function.comp_def]
  | like pattern escape negated => exact eval_like hbinds.operand?_zero escape negated

/-! ## Tests of collections -/

/-- The rows of a collection as a subquery asks for them. -/
def Related.inStatement (schema : Option String) (related : Related) : Sql.RelatedRows :=
  ⟨schema, related.collection.target.name, related.collection.foreignKey,
    Sql.ColumnName.qualified ⟨related.owner.rowAlias, related.ownerKey⟩⟩

theorem Json.compareTo?_null (s : Scalar) : null.compareTo? s = none := by
  cases s <;> rfl

/-- A row with a value in a column is a row with that key: the null key equals no value. -/
theorem Sql.hasValue_eq_hasKey (column : String) (s : Scalar) (row : Json) :
    hasValue column s row = Presence.hasKey column s row := by
  unfold hasValue Presence.hasKey Json.present? compareTruth Json.equals?
  cases row.field? column with
  | none => rfl
  | some value =>
    cases hvalue : value.compareTo? s with
    | none => cases value <;> simp_all [Json.isNull, Truth.ofOption, Option.filter]
    | some order =>
      have hnull : value.isNull = false := by
        cases value <;> simp_all [Json.isNull, Json.compareTo?_null]
      cases order <;>
        simp [Option.filter, hnull, hvalue, Comparison.holds, Truth.ofOption, Truth.ofBool]

open Sql in
/-- **A written test of a collection is as true as the test** of its rows. -/
theorem Presence.eval_search {world : World} {schema : Option String} {related : Related}
    {n : Int32} {presence : Presence} (hbinds : world.Binds n presence.parameters) :
    (presence.search schema related n).expr.eval world
      = some (Truth.ofBool (presence.holds related.collection.target.primaryKey
          (world.related (related.inStatement schema)))) := by
  have hrows : ∀ key,
      (related.subquery schema key).related = related.inStatement schema := fun _ => rfl
  cases presence with
  | empty negated =>
    -- being empty is written as the complement of `EXISTS`
    rw [search, Predicate.expr, hrows, eval_negateIf _ rfl, holds]
    cases negated <;> simp
  | member key negated =>
    have hkey := hbinds.operand?_zero
    have hexists : (Expr.exists (related.inStatement schema)
        (some (related.collection.target.primaryKey, parameterOperand n))).eval world
          = some (Truth.ofBool ((world.related (related.inStatement schema)).any
              (hasKey related.collection.target.primaryKey key))) := by
      have hvalue : hasValue related.collection.target.primaryKey key
          = hasKey related.collection.target.primaryKey key :=
        funext fun row => hasValue_eq_hasKey _ key row
      simp [Expr.eval, hkey, hvalue]
    rw [search, Predicate.expr, hrows]
    refine (eval_negateIf negated hexists).trans ?_
    rw [holds]
    cases negated <;> simp

/-! ## Worlds of a binding -/

/-- The text of a column in a statement. -/
def Column.text (column : Column) : String :=
  Sql.render column.inStatement.lexemes

/-- The text of the rows of a collection in a statement. -/
def Related.text (schema : Option String) (related : Related) : String :=
  Sql.render (related.subquery schema none).lexemes

theorem Column.text_congr {c c' : Column}
    (h : c.inStatement.qualified = c'.inStatement.qualified) : c.text = c'.text := by
  obtain ⟨hrow, hcolumn⟩ := Sql.QualifiedName.mk.inj h
  simp [Column.text, Sql.render, Sql.renderChars, Sql.ColumnName.lexemes, Sql.Lexeme.chars,
    hrow, hcolumn]

theorem Related.text_congr {schema : Option String} {r r' : Related}
    (h : r.inStatement schema = r'.inStatement schema) : r.text schema = r'.text schema := by
  obtain ⟨-, htable, hforeignKey, howner⟩ := Sql.RelatedRows.mk.inj h
  obtain ⟨hrow, hkey⟩ := Sql.QualifiedName.mk.inj howner
  dsimp only at hrow hkey
  simp [Related.text, Sql.render, Sql.renderChars, Related.subquery, Sql.Subquery.lexemes,
    Sql.Lexeme.words, List.intercalate_cons_cons, Sql.ColumnName.lexemes, Sql.Lexeme.chars,
    htable, hforeignKey, hrow, hkey]

/-- References of a condition with the same text denote the same at a binding. -/
structure Condition.Unambiguous (schema : Option String) (binding : Binding)
    (condition : Condition) : Prop where
  column : ∀ c t c' t', Atom.column c t ∈ condition.atoms →
    Atom.column c' t' ∈ condition.atoms → c.text = c'.text →
      binding.column? c = binding.column? c'
  related : ∀ r p r' p', Atom.related r p ∈ condition.atoms →
    Atom.related r' p' ∈ condition.atoms → r.text schema = r'.text schema →
      binding.related? r = binding.related? r'

namespace Sql.World

/-- The references of a condition stand for what they denote at a binding. -/
structure Reads (schema : Option String) (binding : Binding) (condition : Condition)
    (world : World) : Prop where
  column : ∀ c t, Atom.column c t ∈ condition.atoms →
    world.column c.inStatement.qualified = binding.column? c
  related : ∀ r p, Atom.related r p ∈ condition.atoms →
    some (world.related (r.inStatement schema)) = binding.related? r

/-- The world that a binding makes: a reference stands for what the first atom with its text
reads. -/
def ofBinding (schema : Option String) (binding : Binding) (condition : Condition)
    (first : Int32) : World where
  column q := (condition.atoms.findSome? fun
    | .column c _ => if c.inStatement.qualified = q then some (binding.column? c) else none
    | .related _ _ => none).getD none
  related q := (condition.atoms.findSome? fun
    | .column _ _ => none
    | .related r _ => if r.inStatement schema = q then binding.related? r else none).getD []
  parameter k := condition.parameters[(k - first.toInt).toNat]?

/-- What is found for a reference is what the reference denotes if all that is found is. -/
theorem getD_findSome?_eq {α β : Type} {f : α → Option β} {as : List α} {a : α} {b : β} {d : β}
    (ha : a ∈ as) (hf : f a = some b) (hsame : ∀ a' ∈ as, ∀ b', f a' = some b' → b' = b) :
    (as.findSome? f).getD d = b := by
  have hfound : (as.findSome? f).isSome := by
    rw [List.findSome?_isSome_iff]
    exact ⟨a, ha, by rw [hf]; rfl⟩
  obtain ⟨b', hb'⟩ := Option.isSome_iff_exists.1 hfound
  obtain ⟨a', ha', hf'⟩ := List.exists_of_findSome?_eq_some hb'
  rw [hb', Option.getD_some, hsame a' ha' b' hf']

theorem reads_ofBinding {schema : Option String} {binding : Binding} {condition : Condition}
    (hbound : ∀ a ∈ condition.atoms, a.source.IsBelow binding.rows.length)
    (hsame : condition.Unambiguous schema binding) (first : Int32) :
    (ofBinding schema binding condition first).Reads schema binding condition where
  column c t hc := by
    refine getD_findSome?_eq hc (if_pos rfl) fun a ha v hv => ?_
    cases a with
    | related r p => simp at hv
    | column c' t' =>
      simp only [Option.ite_none_right_eq_some, Option.some.injEq] at hv
      obtain ⟨hname, rfl⟩ := hv
      exact hsame.column c' t' c t ha hc (Column.text_congr hname)
  related r p hr := by
    obtain ⟨rows, hrows⟩ : ∃ rows, binding.related? r = some rows := by
      have hrow := Binding.isSome_row?_iff.2 (hbound _ hr)
      obtain ⟨row, hrow⟩ := Option.isSome_iff_exists.1 hrow
      exact ⟨_, congrArg (Option.map _) hrow⟩
    rw [hrows]
    refine congrArg some (getD_findSome?_eq hr ((if_pos rfl).trans hrows) fun a ha v hv => ?_)
    cases a with
    | column c t => simp at hv
    | related r' p' =>
      simp only [Option.ite_none_right_eq_some] at hv
      obtain ⟨hname, hv⟩ := hv
      have hrelated := hsame.related r' p' r p ha hr (Related.text_congr hname)
      rw [hrows, hv] at hrelated
      exact Option.some.inj hrelated

theorem binds_ofBinding (schema : Option String) (binding : Binding) {condition : Condition}
    {first : Int32} (hfirst : first.toInt + condition.parameters.length < 2 ^ 31) :
    (ofBinding schema binding condition first).Binds first condition.parameters where
  lt := hfirst
  parameter i hi := by
    have hplace : (first.toInt + i - first.toInt).toNat = i := by omega
    exact congrArg (condition.parameters[·]?) hplace

end Sql.World

/-! ## Conditions -/

namespace Condition

variable {schema : Option String} {condition : Condition}

theorem correlated_of_mem_search {first : Int32} {p : Sql.Predicate}
    (hp : p ∈ Formula.atoms (condition.search schema first)) : p.Correlated := by
  rw [atoms_search] at hp
  obtain ⟨⟨k, a⟩, -, rfl⟩ := List.mem_map.1 hp
  have howner : ∀ s : Source, s.rowAlias ≠ .inner := by
    intro s
    cases s <;> exact nofun
  cases a with
  | column c test => cases test <;> trivial
  | related r presence => cases presence <;> exact howner r.owner

/-- The values of a placed atom are bound to the placeholders from its place on. -/
theorem binds_of_mem_placed {world : Sql.World} {first : Int32}
    (h : world.Binds first condition.parameters) {k : Nat} {a : Atom}
    (hk : (k, a) ∈ placed Atom.arity 0 condition.atoms) :
    world.Binds (first + Int32.ofNat k) a.parameters := by
  have hle : k + a.parameters.length ≤ condition.parameters.length :=
    add_arity_le_of_mem_placed hk
  have hlt := h.lt
  have hplace : (first + Int32.ofNat k).toInt = first.toInt + k :=
    Sql.toInt_add_ofNat (by omega)
  refine ⟨by omega, fun i hi => ?_⟩
  have hvalue := h.parameter (k + i) (by omega)
  rw [hplace, Int.add_assoc, ← Int.natCast_add, hvalue, parameters_of_mem_placed hk hi]

/-- **A written atom is as true as the atom** at the binding that the world reads. -/
theorem eval_search_of_mem {binding : Binding} {world : Sql.World} {first : Int32} {k : Nat}
    {a : Atom} (hreads : world.Reads schema binding condition) (ha : a ∈ condition.atoms)
    (hregular : a.isRegular = true)
    (hbinds : world.Binds (first + Int32.ofNat k) a.parameters) :
    (a.search schema (first + Int32.ofNat k)).expr.eval world = some (a.truth binding) := by
  cases a with
  | column c test =>
    rw [Atom.search, Test.eval_search hregular hbinds, hreads.column c test ha, Atom.truth]
  | related r presence =>
    rw [Atom.search, Presence.eval_search hbinds, Atom.truth, ← hreads.related r presence ha]
    rfl

/-- **The text of a condition is as true as the condition**, for a condition whose sources are
bound and whose tests are regular, at every binding: in every world that reads the rows of the
binding and binds the values, and there is such a world. -/
theorem evaluate_clause (schema : Option String) (first : Int32) (condition : Condition)
    (binding : Binding)
    (hbound : ∀ a ∈ condition.atoms, a.source.IsBelow binding.rows.length)
    (hregular : ∀ a ∈ condition.atoms, a.isRegular = true)
    (hfirst : first.toInt + condition.parameters.length < 2 ^ 31)
    (hsame : condition.Unambiguous schema binding) :
    (∃ world : Sql.World, world.Reads schema binding condition ∧
      world.Binds first (condition.clause schema first).parameters) ∧
    ∀ world : Sql.World, world.Reads schema binding condition →
      world.Binds first (condition.clause schema first).parameters →
        Sql.evaluate world (condition.clause schema first).text
          = some (condition.truth binding) := by
  rw [clause_eq]
  refine ⟨⟨Sql.World.ofBinding schema binding condition first,
    Sql.World.reads_ofBinding hbound hsame first,
    Sql.World.binds_ofBinding schema binding hfirst⟩, fun world hreads hbinds => ?_⟩
  have hatom : ∀ k a, (k, a) ∈ placed Atom.arity 0 condition.atoms →
      (a.search schema (first + Int32.ofNat k)).expr.eval world = some (a.truth binding) :=
    fun k a hk =>
      have ha := mem_of_mem_placed hk
      eval_search_of_mem hreads ha (hregular a ha) (binds_of_mem_placed hbinds hk)
  -- the truth of a written test, where it has one
  let truth (p : Sql.Predicate) : Truth := (p.expr.eval world).getD .unknown
  have htests : ∀ p ∈ Formula.atoms (condition.search schema first),
      p.expr.eval world = some (truth p) := by
    intro p hp
    rw [atoms_search] at hp
    obtain ⟨⟨k, a⟩, hk, rfl⟩ := List.mem_map.1 hp
    simp only [truth, hatom k a hk, Option.getD_some]
  calc Sql.evaluate world
        (Sql.render (Sql.SearchCondition.lexemes (condition.search schema first)))
      = (Sql.SearchCondition.expr (condition.search schema first)).eval world :=
        Sql.evaluate_render world fun p hp => correlated_of_mem_search hp
    _ = some (Formula.eval truth (condition.search schema first)) :=
        Sql.SearchCondition.eval_expr truth _ htests
    _ = some (condition.truth binding) := by
        refine congrArg some (Formula.eval_number condition 0 fun k a hk => ?_)
        simp only [truth, hatom k a hk, Option.getD_some]

/-- A number beyond a range is not matched by a pattern either, but that stays unknown. -/
theorem evaluate_clause_unknown :
    let column : Column := ⟨.root, [], "n"⟩
    let condition : Condition := .not (.junction .disj
      [.atom (.column column (.between (.int 1) (.int 2))),
        .atom (.column column (.like "a%" (some '!') false))])
    let binding : Binding := ⟨.object [("n", .number (.integer 3))], []⟩
    (condition.clause none 1).text
        = "NOT ((t0.\"n\" BETWEEN $1 AND $2) OR (t0.\"n\" LIKE $3 ESCAPE '!'))" ∧
      (∃ world : Sql.World, world.Reads none binding condition ∧
        world.Binds 1 (condition.clause none 1).parameters) ∧
      ∀ world : Sql.World, world.Reads none binding condition →
        world.Binds 1 (condition.clause none 1).parameters →
          Sql.evaluate world (condition.clause none 1).text = some .unknown := by
  intro column condition binding
  have hatoms : condition.atoms = [.column column (.between (.int 1) (.int 2)),
      .column column (.like "a%" (some '!') false)] := rfl
  have hcolumns : ∀ c t, Atom.column c t ∈ condition.atoms → c = column := by
    intro c t hc
    simp only [hatoms, List.mem_cons, Atom.column.injEq, List.not_mem_nil, or_false] at hc
    exact hc.elim And.left And.left
  refine ⟨by decide +kernel, evaluate_clause none 1 condition binding ?_ ?_ (by decide) ?_⟩
  · rw [hatoms]
    simp [Atom.source, Source.IsBelow, column]
  · rw [hatoms]
    decide
  · refine ⟨fun c t c' t' hc hc' _ => ?_, fun r p r' p' hr => ?_⟩
    · rw [hcolumns c t hc, hcolumns c' t' hc']
    · simp [hatoms] at hr

end Condition

end RecordQuery
