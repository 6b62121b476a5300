import RecordQuery.Proofs.Sql.ReadBack

/-!
# Evaluating conditions

What the text of a condition means: the truth of the expression that it spells, by the
three-valued connectives of SQL.

## Main Definitions

* `Sql.World` — what the columns, the subqueries and the placeholders of a text stand for
* `Sql.Expr.eval` — the truth of an expression
* `Sql.evaluate` — the truth of a text

## Main Statements

* `Sql.SearchCondition.eval_expr` — the expression of a search condition is as
  true as the search condition
* `Sql.evaluate_render` — so is its text

## Design Notes

`none` is an error: the text is no condition, a placeholder is not bound, or a pattern
is no text.  `BETWEEN` is the conjunction of the two comparisons and `IN` the
disjunction of the equalities.
-/

namespace RecordQuery

namespace Sql

/-- What the parts of a text stand for. -/
structure World where
  /-- The value of a column, `none` where it is null. -/
  column : QualifiedName → Option Json
  /-- The rows of a table that point at a row outside. -/
  related : RelatedRows → List Json
  /-- The value that is bound to a placeholder. -/
  parameter : Int → Option Scalar

/-- The value of an operand. -/
def World.operand? (world : World) : Operand → Option Scalar
  | .parameter n => world.parameter n
  | .bool b => some (.bool b)

/-- The truth of a comparison, unknown if a value is null or the two have no common order. -/
def compareTruth (op : Comparison) (value? : Option Json) (s : Scalar) : Truth :=
  Truth.ofOption (value?.bind fun value => (value.compareTo? s).map op.holds)

/-- The escape character that a text names, the backslash without a text. -/
def escapeChar? : Option String → Option Char
  | none => some '\\'
  | some s =>
    match s.toList with
    | [c] => some c
    | _ => none

/-- The truth of a pattern match. -/
def likeTruth (value? : Option Json) (pattern : String) (escape : Char) : Truth :=
  Truth.ofOption
    (value?.bind fun value => value.text?.bind fun text => like? text pattern escape)

/-- Whether a row has a given value in a column. -/
def hasValue (column : String) (s : Scalar) (row : Json) : Bool :=
  compareTruth .eq (row.present? column) s == .yes

/-- The truth of an expression. -/
def Expr.eval (world : World) : Expr → Option Truth
  | constant b => some (Truth.ofBool b)
  | compare c op value => do
    let value ← world.operand? value
    return compareTruth op (world.column c) value
  | between c low high => do
    let low ← world.operand? low
    let high ← world.operand? high
    return (compareTruth .ge (world.column c) low).both (compareTruth .le (world.column c) high)
  | oneOf c values => do
    let values ← values.mapM world.operand?
    return Truth.any (values.map (compareTruth .eq (world.column c)))
  | isNull c => some (Truth.ofBool (world.column c).isNone)
  | like c pattern escape => do
    let .text pattern ← world.operand? pattern | none
    let escape ← escapeChar? escape
    return likeTruth (world.column c) pattern escape
  | .exists rows none => some (Truth.ofBool !(world.related rows).isEmpty)
  | .exists rows (some (column, value)) => do
    let value ← world.operand? value
    return Truth.ofBool ((world.related rows).any (hasValue column value))
  | not x => (x.eval world).map Truth.negate
  | both x y => do
    let s ← x.eval world
    let t ← y.eval world
    return s.both t
  | either x y => do
    let s ← x.eval world
    let t ← y.eval world
    return s.either t

/-- The truth of a text: of the expression that its tokens spell. -/
def evaluate (world : World) (text : String) : Option Truth :=
  ((tokenize? text.toList).bind parse?).bind (Expr.eval world)

theorem mapM_eq_some_of_map {α β : Type} {f : α → Option β} {xs : List α} {ys : List β}
    (h : xs.map f = ys.map some) : xs.mapM f = some ys := by
  induction xs generalizing ys with
  | nil =>
    obtain rfl : ys = [] := by simpa using h.symm
    rfl
  | cons x xs ih =>
    cases ys with
    | nil => simp at h
    | cons y ys =>
      obtain ⟨hx, hxs⟩ := List.cons.inj h
      simp [List.mapM_cons, hx, ih hxs]

variable {world : World}

/-- A complement spells the negation. -/
theorem eval_negateIf (negated : Bool) {x : Expr} {t : Truth} (h : x.eval world = some t) :
    (x.negateIf negated).eval world = some (if negated then t.negate else t) := by
  cases negated
  · exact h
  · simp [Expr.negateIf, Expr.eval, h]

/-! ## Search conditions -/

/-- A chain is as true as the junction of its parts. -/
theorem eval_chain (c : Connective) {x : Expr} {xs : List Expr} {t : Truth} {ts : List Truth}
    (hx : x.eval world = some t) (hxs : xs.map (Expr.eval world) = ts.map some) :
    (chain (connect c) x xs).eval world = some (c.join (t :: ts)) := by
  induction xs generalizing x t ts with
  | nil =>
    obtain rfl : ts = [] := by simpa using hxs.symm
    rw [chain, hx]
    cases c <;> cases t <;> rfl
  | cons y ys ih =>
    cases ts with
    | nil => simp at hxs
    | cons s ts =>
      obtain ⟨hy, hys⟩ := List.cons.inj hxs
      have hrest := ih hy hys
      cases c <;>
      · rw [connect] at hrest
        simp only [chain, connect, Expr.eval, hx, hrest]
        rfl

/-- **A search condition spells an expression of its truth**, given that its tests do. -/
theorem SearchCondition.eval_expr (truth : Predicate → Truth) (f : SearchCondition)
    (h : ∀ p ∈ f.atoms, p.expr.eval world = some (truth p)) :
    (SearchCondition.expr f).eval world = some (Formula.eval truth f) := by
  induction f using Formula.induct with
  | atom p => exact h p (by simp [Formula.atoms])
  | not f ih =>
    rw [SearchCondition.expr, Expr.eval, ih h]
    rfl
  | junction c ts ih =>
    have hts : ∀ t ∈ ts, (SearchCondition.expr t).eval world = some (Formula.eval truth t) :=
      fun t ht => ih t ht fun p hp => h p (by
        simpa [Formula.atoms] using List.mem_flatMap.2 ⟨t, ht, hp⟩)
    cases ts with
    | nil => cases c <;> rfl
    | cons t ts =>
      rw [SearchCondition.expr, SearchCondition.exprEach_eq_map, Formula.eval_junction,
        List.map_cons]
      refine eval_chain c (hts t List.mem_cons_self) ?_
      rw [List.map_map, List.map_map]
      exact List.map_congr_left fun s hs => hts s (List.mem_cons_of_mem t hs)

/-- The text of a search condition is read as its expression. -/
theorem evaluate_render (world : World) {f : SearchCondition}
    (hf : ∀ p ∈ f.atoms, p.Correlated) :
    evaluate world (render (SearchCondition.lexemes f))
      = (SearchCondition.expr f).eval world := by
  rw [evaluate, render, String.toList_ofList,
    tokenize?_renderChars (separated_searchCondition f), Option.bind_some, parse?_tokens f hf,
    Option.bind_some]

end Sql

end RecordQuery
