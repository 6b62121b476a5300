import RecordQuery.Proofs.Reading
import RecordQuery.Proofs.Sql.Database

/-!
# Answers to the statements of a filter

The statements for the rows, for their number and for whether there are any are about the same
rows.  A join may repeat a row, and each statement makes up for it in a way of its own: the rows
are made distinct, their different keys are counted, and nothing is done.

## Main Definitions

* `Selection.fromWhere` — the text of the tables and of the condition
* `Filter.SameRows` — what the three statements of a filter have in common, and what they answer

## Main Statements

* `Sql.Query.infix_words_lexemes` — the tables and the condition are part of every text
* `Condition.exists_eval_search` — a written condition has a truth once its values are bound
* `Inquiry.run?_statement` — the answer to a statement is the answer to the query that it spells
* `Filter.sameRows_statements` — the three statements of a filter are about the same rows

## Design Notes

Whether rows are repeated is told from the joins that were made, not from the condition: a join
that no test reads from repeats rows as well.
-/

namespace RecordQuery

/-! ## One text -/

namespace Sql

namespace Lexeme

theorem prefix_words_append (groups after : List (List Lexeme)) :
    words groups <+: words (groups ++ after) := by
  induction groups with
  | nil => exact List.nil_prefix
  | cons g groups ih =>
    cases groups with
    | nil =>
      cases after with
      | nil => exact List.prefix_rfl
      | cons h after =>
        rw [words, words, List.singleton_append, List.intercalate_cons_cons,
          List.intercalate_singleton, List.append_assoc]
        exact List.prefix_append _ _
    | cons h hs =>
      rw [words, words] at ih ⊢
      rw [List.cons_append, List.cons_append, List.intercalate_cons_cons,
        List.intercalate_cons_cons]
      exact (List.prefix_append_right_inj _).2 ih

theorem suffix_words_append (before groups : List (List Lexeme)) :
    words groups <:+ words (before ++ groups) := by
  induction before with
  | nil => exact List.suffix_rfl
  | cons g before ih =>
    rw [List.cons_append]
    -- there is a blank behind the first group only if another one follows
    cases hrest : before ++ groups with
    | nil =>
      obtain ⟨-, rfl⟩ := List.append_eq_nil_iff.1 hrest
      exact List.nil_suffix
    | cons h hs =>
      rw [hrest] at ih
      have hwords : words (g :: h :: hs) = g ++ [blank] ++ words (h :: hs) :=
        List.intercalate_cons_cons
      rw [hwords]
      exact ih.trans (List.suffix_append _ _)

/-- Groups that stand among others stand there as they would by themselves. -/
theorem infix_words_append (before groups after : List (List Lexeme)) :
    words groups <:+: words (before ++ groups ++ after) :=
  (suffix_words_append before groups).isInfix.trans
    (prefix_words_append (before ++ groups) after).isInfix

end Lexeme

/-- **The tables and the condition are part of every text**, whatever is asked of the rows. -/
theorem Query.infix_words_lexemes (query : Query) :
    Lexeme.words query.sourceLexemes <:+: query.lexemes := by
  rw [lexemes]
  cases query.projection with
  | rows distinct => exact Lexeme.infix_words_append _ _ _
  | count column => cases column <;> exact Lexeme.infix_words_append _ _ _
  | existence =>
    have hinner := Lexeme.infix_words_append [[.keyword .select], [.one]] query.sourceLexemes
      query.orderingLexemes
    have hparens : ∀ ls : List Lexeme, ls <:+: Lexeme.parens ls := fun ls =>
      ⟨[.symbol .open], [.symbol .close], rfl⟩
    have houter := Lexeme.suffix_words_append [[.keyword .select], [.keyword .exists]]
      [Lexeme.parens (Lexeme.words ([[.keyword .select], [.one]] ++ query.sourceLexemes
        ++ query.orderingLexemes))]
    rw [Lexeme.words, List.intercalate_singleton] at houter
    exact (hinner.trans (hparens _)).trans houter.isInfix

end Sql

/-- The text of the tables and of the condition of a selection. -/
def Selection.fromWhere (selection : Selection) (schema : Option String) (table : Table) :
    List Char :=
  Sql.renderChars (Sql.Lexeme.words
    (selection.query schema table .existence).sourceLexemes)

namespace Inquiry

theorem sourceLexemes_query (q : Inquiry) :
    q.statement.query.sourceLexemes
      = (q.selection.query q.schema q.table .existence).sourceLexemes := by
  rw [statement_eq]
  rfl

theorem infix_fromWhere_text (q : Inquiry) :
    q.selection.fromWhere q.schema q.table <:+: q.statement.text.toList := by
  rw [Sql.Statement.text, Sql.Query.text, Sql.render, String.toList_ofList, Selection.fromWhere,
    ← sourceLexemes_query]
  obtain ⟨before, after, hlexemes⟩ := q.statement.query.infix_words_lexemes
  refine ⟨Sql.renderChars before, Sql.renderChars after, ?_⟩
  rw [← hlexemes, Sql.renderChars, Sql.renderChars, Sql.renderChars, Sql.renderChars,
    List.flatMap_append, List.flatMap_append]

/-- The common text is read as the tables and the condition of the statement. -/
theorem parseTableExpr?_fromWhere (q : Inquiry) :
    (Sql.tokenize? (q.selection.fromWhere q.schema q.table)).bind Sql.parseTableExpr?
      = some q.source := by
  rw [Selection.fromWhere, ← sourceLexemes_query,
    Sql.tokenize?_renderChars (Sql.separated_words q.statement.query.separated_sourceLexemes),
    Option.bind_some, Sql.tokens_words,
    q.statement.query.parseTableExpr?_tokens q.correlated_query, tableExpr_query]

end Inquiry

/-! ## The condition -/

open Sql in
/-- A written atom has a truth once its values are bound. -/
theorem Atom.exists_eval_search {world : World} (schema : Option String) {n : Int32} {a : Atom}
    (hbinds : world.Binds n a.parameters) :
    ∃ t, (a.search schema n).expr.eval world = some t := by
  cases a with
  | related r presence => exact ⟨_, Presence.eval_search hbinds⟩
  | column c test =>
    cases test with
    | compare op v =>
      have hv := hbinds.operand?_zero
      exact ⟨_, by rw [search, Test.search, Predicate.expr, Expr.eval, hv]; rfl⟩
    | between low high =>
      have hlow := hbinds.operand?_zero
      have hhigh : world.operand? (parameterOperand (n + 1)) = some high :=
        hbinds.operand? (i := 1) rfl
      exact ⟨_, by rw [search, Test.search, Predicate.expr, Expr.eval, hlow, hhigh]; rfl⟩
    | oneOf values =>
      by_cases hvalues : values = []
      · subst hvalues
        exact ⟨_, rfl⟩
      · have hne : (List.range values.length).map (fun i => n + Int32.ofNat i) ≠ [] := by
          simpa using hvalues
        have hall : World.Binds world n values := hbinds
        exact ⟨_, by
          rw [search, Test.search, Predicate.expr_oneOf _ hne, Expr.eval, hall.mapM_operand?]
          rfl⟩
    | isNull negated => exact ⟨_, eval_negateIf negated rfl⟩
    | isBool b => exact ⟨_, rfl⟩
    | like pattern escape negated =>
        exact ⟨_, Test.eval_like hbinds.operand?_zero escape negated⟩

/-- **A written condition has a truth once its values are bound.** -/
theorem Condition.exists_eval_search {world : Sql.World} (schema : Option String)
    {first : Int32} {condition : Condition} (hbinds : world.Binds first condition.parameters) :
    ∃ t, (Sql.SearchCondition.expr (condition.search schema first)).eval world = some t := by
  refine ⟨_, Sql.SearchCondition.eval_expr (fun p => (p.expr.eval world).getD .unknown) _ ?_⟩
  intro p hp
  rw [atoms_search] at hp
  obtain ⟨⟨k, a⟩, hk, rfl⟩ := List.mem_map.1 hp
  obtain ⟨t, ht⟩ := Atom.exists_eval_search schema (binds_of_mem_placed hbinds hk)
  rw [ht, Option.getD_some]

theorem Sql.Database.binds_world (db : Sql.Database) {parameters : List Scalar}
    (hlength : parameters.length + 1 < 2 ^ 31) (rows : Sql.Combination) :
    (db.world parameters rows).Binds 1 parameters where
  lt := by
    show (1 : Int) + parameters.length < 2 ^ 31
    omega
  parameter i _ := by
    have hpos : (0 : Int) < 1 + i := by omega
    have hplace : ((1 : Int) + i - 1).toNat = i := by omega
    show (if (0 : Int) < 1 + i then parameters[((1 : Int) + i - 1).toNat]? else none) = _
    rw [if_pos hpos, hplace]

/-! ## Answers -/

/-- The answer to a statement is the answer to the query that it spells. -/
theorem Inquiry.run?_statement (db : Sql.Database) {q : Inquiry} (hpage : q.page? = none) :
    db.run? q.statement
      = db.answer? q.selection.parameters
          ⟨q.statement.query.projection.expr, q.source,
            q.statement.query.sorting.map Sql.sortKeyExpr, none⟩ := by
  rw [Sql.Database.run?, tokenize?_text, Option.bind_some, parseQuery?_tokens, Option.bind_some,
    Sql.Query.expr, tableExpr_query, window_query, parameters_statement, hpage]
  simp

namespace Filter

variable (db : Sql.Database) (table : Table) (schema : Option String) (filter : Filter)

/-- The rows of a table that are part of a combination for which a filter holds. -/
def matchedRows : List Json :=
  db.matched (filter.selection table).parameters ((filter.selection table).source schema table)

variable {db table schema}

theorem joins_source_eq_nil (h : (filter.selection table).joins.isEmpty = true) :
    ((filter.selection table).source schema table).joins = [] := by
  rw [Selection.source, Selection.joinClauses, List.isEmpty_iff.1 h]
  rfl

/-- **The statement for the rows** answers with the matched rows, each once. -/
theorem run?_select (hkeys : db.HasKeys schema table) {options : QueryOptions}
    (hpage : options.page = none) :
    db.run? (filter.select table schema options)
      = some (.rows (filter.matchedRows db table schema)) := by
  have hrun := Inquiry.run?_statement db (q := ⟨table, schema, filter, .rows options⟩) hpage
  have hjoins : (!(filter.selection table).joins.isEmpty) = false →
      ((filter.selection table).source schema table).joins = [] :=
    fun h => filter.joins_source_eq_nil (by simpa using h)
  exact hrun.trans (db.answer?_rows rfl _ hkeys hjoins)

/-- **The statement for their number** answers with the number of the matched rows. -/
theorem run?_countStatement (hkeys : db.HasKeys schema table) :
    db.run? (filter.countStatement table schema)
      = some (.number (filter.matchedRows db table schema).length) := by
  have hrun := Inquiry.run?_statement db (q := ⟨table, schema, filter, .count⟩) rfl
  refine hrun.trans ?_
  show db.answer? _ ⟨Sql.Projection.expr (.count (if (filter.selection table).joins.isEmpty
    then none else some table.primaryKey)), _, _, none⟩ = _
  by_cases hjoins : (filter.selection table).joins.isEmpty
  · rw [if_pos hjoins]
    exact db.answer?_count rfl _ (filter.joins_source_eq_nil hjoins)
  · rw [if_neg hjoins]
    exact db.answer?_countDistinct rfl _ hkeys

/-- **The statement for whether there are any** answers whether there are matched rows. -/
theorem run?_existsStatement :
    db.run? (filter.existsStatement table schema)
      = some (.truth !(filter.matchedRows db table schema).isEmpty) := by
  have hrun := Inquiry.run?_statement db (q := ⟨table, schema, filter, .existence⟩) rfl
  exact hrun.trans (db.answer?_existence _)

variable (db table schema)

/-- What the three statements of a filter have in common, and what they answer.  They
share the text of their tables and of their condition, `body`, which spells `source`,
and are about `rows`. -/
structure SameRows (options : QueryOptions) (body : List Char) (source : Sql.TableExpr)
    (rows : List Json) : Prop where
  /-- The statements have their tables and their condition in the same words. -/
  select_text : body <:+: (filter.select table schema options).text.toList
  count_text : body <:+: (filter.countStatement table schema).text.toList
  exists_text : body <:+: (filter.existsStatement table schema).text.toList
  parse : (Sql.tokenize? body).bind Sql.parseTableExpr? = some source
  /-- They have the same values for the condition. -/
  exists_parameters : (filter.existsStatement table schema).parameters
    = (filter.countStatement table schema).parameters
  select_parameters : (filter.select table schema options).parameters
    = (filter.countStatement table schema).parameters
      ++ (options.page.map fun page => [.int page.limit, .int page.offset]).getD []
  /-- As long as these can be numbered, the condition has a truth at every combination. -/
  defined : (filter.countStatement table schema).parameters.length + 1 < 2 ^ 31 →
    ∀ combination : Sql.Combination, ∀ e ∈ source.condition,
      ∃ t,
        e.eval (db.world (filter.countStatement table schema).parameters combination) = some t
  /-- The rows are rows of the table, and none is there twice. -/
  sublist : rows.Sublist (db.rows schema table.name)
  nodup : rows.Nodup
  /-- They are those that are part of a combination for which the conditions are true. -/
  mem : ∀ row, row ∈ rows ↔ ∃ combination ∈
    db.kept (filter.countStatement table schema).parameters source,
      combination.lookup Sql.Alias.root.text = some row
  /-- The answers are the rows, their number, and whether the number is not zero. -/
  select : options.page = none →
    db.run? (filter.select table schema options) = some (.rows rows)
  count : db.run? (filter.countStatement table schema) = some (.number rows.length)
  existence : db.run? (filter.existsStatement table schema) = some (.truth (rows.length != 0))

variable {db table schema}

/-- **The three statements of a filter are about the same rows**, whatever is in the tables, as
long as the rows have keys that tell them apart. -/
theorem sameRows_statements (hkeys : db.HasKeys schema table) (filter : Filter)
    (options : QueryOptions) :
    ∃ body source rows, filter.SameRows db table schema options body source rows := by
  refine ⟨(filter.selection table).fromWhere schema table,
    (filter.selection table).source schema table, filter.matchedRows db table schema, ?_⟩
  have hlength : (!(filter.matchedRows db table schema).isEmpty)
      = ((filter.matchedRows db table schema).length != 0) := by
    cases filter.matchedRows db table schema <;> rfl
  have hcounted : (filter.countStatement table schema).parameters
      = (filter.selection table).parameters := by
    rw [countStatement_eq]
  exact
    { select_text := Inquiry.infix_fromWhere_text ⟨table, schema, filter, .rows options⟩
      count_text := Inquiry.infix_fromWhere_text ⟨table, schema, filter, .count⟩
      exists_text := Inquiry.infix_fromWhere_text ⟨table, schema, filter, .existence⟩
      parse := Inquiry.parseTableExpr?_fromWhere ⟨table, schema, filter, .existence⟩
      exists_parameters := by rw [hcounted, existsStatement_eq]
      select_parameters := by
        rw [hcounted]
        exact Inquiry.parameters_statement ⟨table, schema, filter, .rows options⟩
      defined := by
        intro hnumber combination e he
        obtain ⟨condition, hcondition, rfl⟩ := Option.map_eq_some_iff.1 he
        rw [hcounted, Selection.parameters, hcondition] at hnumber ⊢
        exact condition.exists_eval_search schema (db.binds_world hnumber combination)
      sublist := List.filter_sublist
      nodup := hkeys.nodup.sublist List.filter_sublist
      mem := by
        rw [hcounted]
        exact fun row => db.mem_matched
      select := filter.run?_select hkeys
      count := filter.run?_countStatement hkeys
      existence := by rw [run?_existsStatement, hlength] }

open Classical in
/-- A show with two ratings that fit is there once. -/
theorem sameRows_statements_ratings :
    let db : Sql.Database :=
      { columns := fun _ _ => ["id", "show_id", "stars"]
        rows := fun _ table =>
          if table = "shows" then
            [.object [("id", .number (.integer 1))], .object [("id", .number (.integer 2))]]
          else
            [.object [("show_id", .number (.integer 1)), ("stars", .number (.integer 4))],
              .object [("show_id", .number (.integer 1)), ("stars", .number (.integer 5))]]
        equals := fun x y => decide (x = y)
        equals_self := fun _ => decide_eq_true rfl
        equals_comm := fun _ _ => decide_eq_decide.2 eq_comm }
    let filter : Filter := .restricted (.column
      ⟨.joined .root (.collection ⟨"ratings", "show_id", ⟨"ratings", "id"⟩⟩), [], "stars"⟩
      (.compare .gt (.int 3)))
    db.HasKeys none ⟨"shows", "id"⟩ ∧
      (filter.select ⟨"shows", "id"⟩ none {}).text
        = "SELECT DISTINCT t0.* FROM \"shows\" t0 " ++
        "INNER JOIN \"ratings\" j1 ON j1.\"show_id\" = t0.\"id\" WHERE j1.\"stars\" > $1" ∧
      ∃ body source rows, filter.SameRows db ⟨"shows", "id"⟩ none {} body source rows := by
  intro db filter
  have hkeys : db.HasKeys none ⟨"shows", "id"⟩ := by
    refine ⟨by simp [db], ?_, ?_⟩
    · simp [db, Json.present?, Json.field?, Json.isNull]
    · simp [db, Json.present?, Json.field?, Json.isNull, Sql.Database.agree, Option.filter]
  exact ⟨hkeys, by decide +kernel, sameRows_statements hkeys filter {}⟩

end Filter

end RecordQuery
