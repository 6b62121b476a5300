import RecordQuery.Proofs.Sql.Gathering
import RecordQuery.Proofs.Sql.QueryReadBack

/-!
# Placeholders

The placeholders of a text from left to right, and what each of them stands for in the condition
that the text spells.

## Main Definitions

* `Sql.placeholders` — the numbers of the placeholders among tokens
* `Sql.Slot` — a part of a test that a value is put in for
* `Sql.Expr.uses` — the placeholders of an expression, each with its slot

## Main Statements

* `Sql.SearchCondition.placeholders_tokens` — the placeholders in the text of a search condition
  are those of the expression that it spells, in the same order
* `Sql.Query.placeholders_tokens` — after those of its condition a query has those of its window

## Design Notes

The placeholders of a text are found among its tokens and the slots in its expression, so the
two sides know nothing of each other: that a placeholder stands where its slot is takes a proof.
-/

namespace RecordQuery

namespace Sql

/-- The number of a placeholder. -/
def Token.placeholder? : Token → Option Int
  | placeholder n => some n
  | _ => none

/-- The numbers of the placeholders among tokens, from left to right. -/
def placeholders (ts : List Token) : List Int := ts.filterMap Token.placeholder?

/-- A part of a test that a value is put in for. -/
inductive Slot
  /-- What a column is compared with. -/
  | compared (c : QualifiedName) (op : Comparison)
  /-- The lower end of the range of a column. -/
  | lowest (c : QualifiedName)
  /-- The upper end of the range of a column. -/
  | highest (c : QualifiedName)
  /-- One of the choices for a column. -/
  | choice (c : QualifiedName)
  /-- The pattern that a column is matched with. -/
  | pattern (c : QualifiedName)
  /-- What a column of the rows of a subquery has to equal. -/
  | key (rows : RelatedRows) (column : String)
  deriving DecidableEq, Repr

/-- The placeholder that an operand is, with a slot for it. -/
def Operand.uses (slot : Slot) : Operand → List (Slot × Int)
  | parameter n => [(slot, n)]
  | bool _ => []

/-- The placeholders of an expression from left to right, each with its slot. -/
def Expr.uses : Expr → List (Slot × Int)
  | constant _ => []
  | compare c op value => value.uses (.compared c op)
  | between c low high => low.uses (.lowest c) ++ high.uses (.highest c)
  | oneOf c values => values.flatMap (Operand.uses (.choice c))
  | isNull _ => []
  | like c pattern _ => pattern.uses (.pattern c)
  | .exists _ none => []
  | .exists rows (some (column, value)) => value.uses (.key rows column)
  | not x => x.uses
  | both x y => x.uses ++ y.uses
  | either x y => x.uses ++ y.uses

/-! ## Tokens -/

@[simp] theorem placeholders_nil : placeholders [] = [] := rfl

@[simp] theorem placeholders_append (ts us : List Token) :
    placeholders (ts ++ us) = placeholders ts ++ placeholders us := List.filterMap_append

@[simp] theorem placeholders_cons (t : Token) (ts : List Token) :
    placeholders (t :: ts) = t.placeholder?.toList ++ placeholders ts := by
  cases h : t.placeholder? <;> simp [placeholders, h]

/-- The placeholders of a text are gathered lexeme by lexeme. -/
theorem placeholders_tokens_eq_flatMap (ls : List Lexeme) :
    placeholders (tokens ls) = ls.flatMap fun l => placeholders l.token?.toList := by
  induction ls with
  | nil => rfl
  | cons l ls ih => rw [tokens_cons, placeholders_append, ih, List.flatMap_cons]

theorem skips_placeholders : Skips fun l => placeholders l.token?.toList :=
  ⟨rfl, fun _ => rfl, fun _ => rfl⟩

@[simp] theorem placeholders_commas (groups : List (List Lexeme)) :
    placeholders (tokens (Lexeme.commas groups))
      = groups.flatMap fun g => placeholders (tokens g) := by
  simp only [placeholders_tokens_eq_flatMap, skips_placeholders.commas]

@[simp] theorem placeholders_tableLexemes (schema : Option String) (table : String) :
    placeholders (tokens (tableLexemes schema table)) = [] := by
  cases schema <;> rfl

theorem placeholders_negation (negated : Bool) :
    placeholders ((negation negated).flatMap tokens) = [] := by
  cases negated <;> rfl

theorem placeholders_choices (values : List Int32) :
    placeholders (tokens (Lexeme.commas (values.map fun n => [.placeholder n])))
      = values.map Int32.toInt := by
  have hvalue : ∀ n : Int32, placeholders (tokens [.placeholder n]) = [n.toInt] := fun _ => rfl
  rw [placeholders_commas, List.flatMap_map]
  simp only [hvalue, List.map_eq_flatMap]

/-! ## Conditions -/

theorem Expr.uses_negateIf (negated : Bool) (x : Expr) :
    (x.negateIf negated).uses = x.uses := by
  cases negated <;> rfl

theorem flatMap_uses_parameterOperand (slot : Slot) (values : List Int32) :
    (values.map parameterOperand).flatMap (Operand.uses slot)
      = values.map fun n => (slot, n.toInt) := by
  rw [List.flatMap_map, List.map_eq_flatMap]
  rfl

/-- The placeholders in the text of a test are those that it uses. -/
theorem Predicate.placeholders_tokens (p : Predicate) :
    placeholders (tokens p.lexemes) = p.expr.uses.map Prod.snd := by
  cases p with
  | compare c op value =>
    simp [lexemes, expr, Expr.uses, Operand.uses, parameterOperand, Lexeme.token?,
      Token.placeholder?]
  | between c low high =>
    simp [lexemes, expr, Expr.uses, Operand.uses, parameterOperand, Lexeme.token?,
      Token.placeholder?]
  | oneOf c values =>
    cases values with
    | nil => rfl
    | cons v vs =>
      have huses : (Predicate.oneOf c (v :: vs)).expr.uses.map Prod.snd
          = (v :: vs).map Int32.toInt := by
        rw [expr, Expr.uses, flatMap_uses_parameterOperand, List.map_map]
        rfl
      rw [huses, ← placeholders_choices, lexemes, tokens_words]
      simp [Lexeme.token?, Token.placeholder?]
  | isNull c negated =>
    rw [expr, Expr.uses_negateIf]
    simp [lexemes, placeholders_negation, Expr.uses, Lexeme.token?, Token.placeholder?]
  | isBool c b =>
    cases b <;> simp [lexemes, expr, Expr.uses, Operand.uses, Lexeme.token?, Token.placeholder?,
      constantLexeme]
  | like c pattern escape negated =>
    rw [expr, Expr.uses_negateIf]
    cases escape <;>
      simp [lexemes, placeholders_negation, Expr.uses, Operand.uses, parameterOperand,
        Lexeme.token?, Token.placeholder?]
  | «exists» rows negated =>
    rw [expr, Expr.uses_negateIf, lexemes]
    obtain ⟨schema, table, foreignKey, owner, key⟩ := rows
    cases key <;>
      simp [tokens_subquery, placeholders_negation, Expr.uses, Operand.uses, parameterOperand,
        Lexeme.token?, Token.placeholder?]

/-- A chain uses what its parts use. -/
theorem uses_chain (c : Connective) (x : Expr) (xs : List Expr) :
    (chain (connect c) x xs).uses = (x :: xs).flatMap Expr.uses := by
  induction xs generalizing x with
  | nil => simp [chain]
  | cons y ys ih =>
    have hboth : (connect c x (chain (connect c) y ys)).uses
        = x.uses ++ (chain (connect c) y ys).uses := by cases c <;> rfl
    rw [chain, hboth, ih]
    exact List.flatMap_cons.symm

namespace SearchCondition

/-- A search condition uses what its tests use. -/
theorem uses_expr (f : SearchCondition) :
    (SearchCondition.expr f).uses = (Formula.atoms f).flatMap fun p => p.expr.uses := by
  induction f using Formula.induct with
  | atom p => simp [expr]
  | not f ih => exact ih
  | junction c ts ih =>
    rw [Formula.atoms_junction, List.flatMap_assoc]
    cases ts with
    | nil => cases c <;> rfl
    | cons t ts =>
      rw [expr, exprEach_eq_map, uses_chain, ← List.map_cons, List.flatMap_map]
      exact congrArg List.flatten (List.map_congr_left ih)

/-- **The placeholders in the text of a search condition** are those of the expression that it
spells, in the same order. -/
theorem placeholders_tokens (f : SearchCondition) :
    placeholders (tokens (SearchCondition.lexemes f))
      = (SearchCondition.expr f).uses.map Prod.snd := by
  rw [uses_expr, List.map_flatMap, placeholders_tokens_eq_flatMap,
    skips_placeholders.searchCondition f]
  simp only [← placeholders_tokens_eq_flatMap, Predicate.placeholders_tokens]

end SearchCondition

/-! ## Queries -/

theorem placeholders_orderLexemes (sorting : Sorting) :
    placeholders (tokens (orderLexemes sorting)) = [] := by
  rw [orderLexemes, placeholders_commas]
  simp [tokens_sortKeyLexemes, Token.placeholder?]

theorem JoinClause.placeholders_tokens (schema : Option String) (clause : JoinClause) :
    placeholders ((clause.lexemes schema).flatMap tokens) = [] := by
  simp [clause.flatMap_tokens_lexemes, Token.placeholder?]

namespace Query

/-- The numbers of the placeholders of the window, the limit first. -/
def windowNumbers (query : Query) : List Int :=
  match query.window with
  | none => []
  | some (limit, offset) => [limit.toInt, offset.toInt]

/-- **The placeholders in the text of a query** are those of its condition and then those of its
window. -/
theorem placeholders_tokens (query : Query) :
    placeholders (tokens query.lexemes)
      = ((query.condition.map fun f => (SearchCondition.expr f).uses.map Prod.snd).getD [])
          ++ query.windowNumbers := by
  have hopening : placeholders query.projection.opening = [] := by
    cases query.projection with
    | rows distinct => cases distinct <;> rfl
    | count column => cases column <;> rfl
    | existence => rfl
  have hclosing : placeholders query.projection.closing = [] := by
    cases query.projection <;> rfl
  have hjoins : placeholders (query.joins.flatMap fun clause =>
      (clause.lexemes query.schema).flatMap tokens) = [] := by
    induction query.joins with
    | nil => rfl
    | cons clause joins ih =>
      rw [List.flatMap_cons, placeholders_append, clause.placeholders_tokens, ih,
        List.append_nil]
  have hwhere : placeholders query.whereTokens
      = (query.condition.map fun f => (SearchCondition.expr f).uses.map Prod.snd).getD [] := by
    unfold whereTokens
    cases query.condition with
    | none => rfl
    | some f => simp [SearchCondition.placeholders_tokens, Token.placeholder?]
  have horder : placeholders query.orderTokens = [] := by
    unfold orderTokens
    split
    · rfl
    · simp [placeholders_orderLexemes, Token.placeholder?]
  have hwindow : placeholders query.windowTokens = query.windowNumbers := by
    unfold windowTokens windowNumbers
    cases query.window <;> rfl
  have hbody : placeholders query.bodyTokens
      = placeholders query.whereTokens ++ placeholders query.windowTokens := by
    rw [bodyTokens, List.flatMap_append, flatMap_tokens_sourceLexemes,
      flatMap_tokens_orderingLexemes]
    simp [hjoins, horder, Token.placeholder?]
  rw [tokens_lexemes, placeholders_append, placeholders_append, hopening, hclosing, hbody,
    hwhere, hwindow, List.nil_append, List.append_nil]

end Query

end Sql

end RecordQuery
