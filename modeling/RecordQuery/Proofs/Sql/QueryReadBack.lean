import RecordQuery.Proofs.Sql.QueryGrammar
import RecordQuery.Proofs.Sql.ReadBack

/-!
# Reading queries back

A query that is written out, split into tokens and read by the grammar comes back as what it
spells: the question, the tables with their joins, the condition, the order and the window.

## Main Definitions

* `Sql.Query.tableExpr`, `Sql.Query.expr` — what a query spells

## Main Statements

* `Sql.readJoins_tokens`, `Sql.Query.readTableExpr_tokens`, `Sql.Query.readOrder_tokens` — its
  parts are read one after the other
* `Sql.Query.parseQuery?_tokens` — a query is read as what it spells
* `Sql.Query.parseTableExpr?_tokens` — so are its tables and its condition by themselves
-/

namespace RecordQuery

namespace Sql

/-! ## What a query spells -/

/-- The join that a join clause spells. -/
def JoinClause.expr (schema : Option String) (clause : JoinClause) : JoinedTable :=
  ⟨⟨schema, clause.table, clause.joined.row.text⟩, clause.joined.qualified,
    clause.owner.qualified⟩

/-- The question that a projection spells. -/
def Projection.expr : Projection → SelectList
  | rows distinct => .rows distinct Alias.root.text
  | count none => .count
  | count (some column) => .countDistinct ⟨Alias.root.text, column⟩
  | existence => .existence

/-- The column to sort by that a sort key spells. -/
def sortKeyExpr (key : SortKey) : QualifiedName × Direction :=
  (⟨Alias.root.text, key.column⟩, key.direction)

namespace Query

/-- The tables and the condition that a query spells. -/
def tableExpr (query : Query) : TableExpr :=
  ⟨⟨query.schema, query.table, Alias.root.text⟩, query.joins.map (JoinClause.expr query.schema),
    query.condition.map SearchCondition.expr⟩

/-- What a query spells. -/
def expr (query : Query) : QueryExpr where
  select := query.projection.expr
  source := query.tableExpr
  order := query.sorting.map sortKeyExpr
  window := query.window.map fun (limit, offset) =>
    (parameterOperand limit, parameterOperand offset)

/-- Whether the subqueries in the condition of a query refer to rows outside of them. -/
def Correlated (query : Query) : Prop :=
  ∀ f ∈ query.condition, ∀ p ∈ Formula.atoms f, p.Correlated

end Query

/-! ## Tables and joins -/

theorem readNamedTable_tokens (schema : Option String) (table row : String) (ts : List Token) :
    readNamedTable (tokens (tableLexemes schema table) ++ .word row :: ts)
      = some (⟨schema, table, row⟩, ts) := by
  rw [readNamedTable, readTable_tableLexemes]
  rfl

/-- The tokens of a join. -/
theorem JoinClause.flatMap_tokens_lexemes (schema : Option String) (clause : JoinClause) :
    (clause.lexemes schema).flatMap tokens
      = .keyword .inner :: .keyword .join :: (tokens (tableLexemes schema clause.table) ++
          .word clause.joined.row.text :: .keyword .on :: (tokens clause.joined.lexemes ++
            .symbol .eq :: tokens clause.owner.lexemes)) := by
  simp [lexemes, Lexeme.token?]

theorem readJoins_nil {rest : List Token} (hrest : rest.head? ≠ some (.keyword .inner))
    (n : Nat) :
    readJoins (n + 1) rest = some ([], rest) := by
  rw [readJoins]
  rintro ts rfl
  exact hrest rfl

/-- **Joins are read one after the other**, up to a token that starts no join. -/
theorem readJoins_tokens (schema : Option String) (joins : List JoinClause) {rest : List Token}
    (hrest : rest.head? ≠ some (.keyword .inner)) {n : Nat} (hn : joins.length < n) :
    readJoins n
        (joins.flatMap (fun clause => (clause.lexemes schema).flatMap tokens) ++ rest)
      = some (joins.map (JoinClause.expr schema), rest) := by
  induction joins generalizing n with
  | nil =>
    obtain ⟨n, rfl⟩ := Nat.exists_eq_succ_of_ne_zero (Nat.ne_zero_of_lt hn)
    exact readJoins_nil hrest n
  | cons clause joins ih =>
    obtain ⟨n, rfl⟩ := Nat.exists_eq_succ_of_ne_zero (Nat.ne_zero_of_lt hn)
    have hjoins := ih (Nat.lt_of_succ_lt_succ hn)
    rw [List.flatMap_cons, clause.flatMap_tokens_lexemes]
    simp only [List.cons_append, List.append_assoc, readJoins, readNamedTable_tokens, expect,
      readColumn_columnName, hjoins, if_true, Option.bind_eq_bind, Option.bind_some]
    rfl

/-! ## The condition -/

theorem readWhere_none {rest : List Token} (hrest : rest.head? ≠ some (.keyword .where))
    (n : Nat) : readWhere n rest = some (none, rest) := by
  rw [readWhere]
  rintro ts rfl
  exact hrest rfl

namespace Query

variable {query : Query} {rest : List Token}

/-- The tokens of the condition of a query, after the word in front of it. -/
def whereTokens (query : Query) : List Token :=
  match query.condition with
  | none => []
  | some f => .keyword .where :: tokens (SearchCondition.lexemes f)

theorem readWhere_tokens (hquery : query.Correlated) (hrest : Closes rest) {n : Nat}
    (hn : query.whereTokens.length ≤ n) :
    readWhere n (query.whereTokens ++ rest)
      = some (query.condition.map SearchCondition.expr, rest) := by
  unfold whereTokens at hn ⊢
  cases hcondition : query.condition with
  | none => exact readWhere_none (hrest.head?_ne (by decide)) n
  | some f =>
    rw [hcondition] at hn
    have hf : ∀ p ∈ Formula.atoms f, p.Correlated := hquery f hcondition
    have hread := readCondition_tokens f hf (Nat.le_of_succ_le hn) hrest
    simp [readWhere, hread]

/-! ## The tables -/

/-- The tokens of the tables and of the condition of a query. -/
theorem flatMap_tokens_sourceLexemes (query : Query) :
    query.sourceLexemes.flatMap tokens
      = .keyword .from :: (tokens (tableLexemes query.schema query.table) ++
          .word Alias.root.text :: (query.joins.flatMap
            (fun clause => (clause.lexemes query.schema).flatMap tokens)
              ++ query.whereTokens)) := by
  rw [sourceLexemes, List.flatMap_append, List.flatMap_append, List.flatMap_assoc, whereTokens]
  cases query.condition <;> simp [Lexeme.token?]

/-- No join is without a token. -/
theorem length_joins_le (query : Query) :
    query.joins.length ≤ (query.joins.flatMap
      (fun clause => (clause.lexemes query.schema).flatMap tokens)).length := by
  induction query.joins with
  | nil => exact Nat.le_refl _
  | cons clause joins ih =>
    rw [List.flatMap_cons, List.length_append, clause.flatMap_tokens_lexemes]
    simp only [List.length_cons]
    omega

/-- **The tables and the condition of a query are read as a whole.** -/
theorem readTableExpr_tokens (hquery : query.Correlated) (hrest : Closes rest) {n : Nat}
    (hn : (query.sourceLexemes.flatMap tokens).length ≤ n) :
    readTableExpr n (query.sourceLexemes.flatMap tokens ++ rest)
      = some (query.tableExpr, rest) := by
  have hjoinsLength := query.length_joins_le
  rw [flatMap_tokens_sourceLexemes] at hn ⊢
  simp only [List.length_cons, List.length_append] at hn
  -- what follows the joins starts none
  have hnoJoin : (query.whereTokens ++ rest).head? ≠ some (.keyword .inner) := by
    unfold whereTokens
    cases query.condition with
    | none => exact hrest.head?_ne (by decide)
    | some f => simp
  have hjoins := readJoins_tokens query.schema query.joins hnoJoin (n := n) (by omega)
  have hwhere := readWhere_tokens hquery hrest (n := n) (by omega)
  simp only [List.cons_append, List.append_assoc, readTableExpr, expect, readNamedTable_tokens,
    hjoins, hwhere, if_true, Option.bind_eq_bind, Option.bind_some]
  rfl

end Query

/-! ## Order and window -/

/-- What may follow a query: the end, or a closing bracket. -/
def EndsQuery (ts : List Token) : Prop := ∀ t ∈ ts.head?, t = .symbol .close

theorem EndsQuery.head?_ne {ts : List Token} (h : EndsQuery ts) {t : Token}
    (ht : t ≠ .symbol .close) : ts.head? ≠ some t :=
  fun hhead => ht (h t hhead)

theorem EndsQuery.closes {ts : List Token} (h : EndsQuery ts) : Closes ts := by
  intro t ht
  rw [h t ht]
  decide

theorem readDirection_keyword (direction : Direction) (ts : List Token) :
    readDirection (.keyword (directionKeyword direction) :: ts) = some (direction, ts) := by
  cases direction <;> rfl

theorem tokens_sortKeyLexemes (key : SortKey) :
    tokens (sortKeyLexemes key)
      = tokens (ColumnName.lexemes ⟨.root, key.column⟩)
          ++ [.keyword (directionKeyword key.direction)] := by
  simp [sortKeyLexemes, Lexeme.token?]

theorem tokens_orderLexemes_cons (key next : SortKey) (keys : Sorting) :
    tokens (orderLexemes (key :: next :: keys))
      = tokens (sortKeyLexemes key)
        ++ .symbol .comma :: tokens (orderLexemes (next :: keys)) := by
  simp [orderLexemes, Lexeme.commas, List.intercalate_cons_cons, Lexeme.token?]

/-- Comma by comma, the columns to sort by are read. -/
theorem readSortKeys_tokens (key : SortKey) (keys : Sorting) {rest : List Token}
    (hrest : rest.head? ≠ some (.symbol .comma)) {n : Nat} (hn : keys.length < n) :
    readSortKeys n (tokens (orderLexemes (key :: keys)) ++ rest)
      = some ((key :: keys).map sortKeyExpr, rest) := by
  induction keys generalizing key n with
  | nil =>
    obtain ⟨n, rfl⟩ := Nat.exists_eq_succ_of_ne_zero (Nat.ne_zero_of_lt hn)
    have hkey : tokens (orderLexemes [key]) = tokens (sortKeyLexemes key) := rfl
    rw [hkey, tokens_sortKeyLexemes, readSortKeys, List.append_assoc, readColumn_columnName]
    simp [readDirection_keyword, hrest, sortKeyExpr, ColumnName.qualified]
  | cons next keys ih =>
    obtain ⟨n, rfl⟩ := Nat.exists_eq_succ_of_ne_zero (Nat.ne_zero_of_lt hn)
    have hkeys := ih next (Nat.lt_of_succ_lt_succ hn)
    rw [tokens_orderLexemes_cons, tokens_sortKeyLexemes, readSortKeys, List.append_assoc,
      List.append_assoc, readColumn_columnName]
    simp [readDirection_keyword, hkeys, sortKeyExpr, ColumnName.qualified]

theorem length_le_length_tokens_orderLexemes (keys : Sorting) :
    keys.length ≤ (tokens (orderLexemes keys)).length := by
  induction keys with
  | nil => exact Nat.zero_le _
  | cons key keys ih =>
    cases keys with
    | nil =>
      have hkey : tokens (orderLexemes [key]) = tokens (sortKeyLexemes key) := rfl
      simp [hkey, tokens_sortKeyLexemes]
    | cons next keys =>
      rw [tokens_orderLexemes_cons, List.length_append, List.length_cons]
      simp only [List.length_cons] at ih ⊢
      omega

namespace Query

variable {query : Query} {rest : List Token}

/-- The tokens of the order of a query. -/
def orderTokens (query : Query) : List Token :=
  if query.sorting.isEmpty then []
  else .keyword .order :: .keyword .by :: tokens (orderLexemes query.sorting)

/-- The tokens of the window of a query. -/
def windowTokens (query : Query) : List Token :=
  match query.window with
  | none => []
  | some (limit, offset) =>
    [.keyword .limit, .placeholder limit.toInt, .keyword .offset, .placeholder offset.toInt]

theorem flatMap_tokens_orderingLexemes (query : Query) :
    query.orderingLexemes.flatMap tokens = query.orderTokens ++ query.windowTokens := by
  rw [orderingLexemes, List.flatMap_append, orderTokens, windowTokens]
  congr 1
  · split
    · rfl
    · simp [Lexeme.token?]
  · cases query.window <;> simp [Lexeme.token?]

theorem readOrder_none {rest : List Token} (hrest : rest.head? ≠ some (.keyword .order))
    (n : Nat) : readOrder n rest = some ([], rest) := by
  rw [readOrder]
  rintro ts rfl
  exact hrest rfl

theorem readWindow_none {rest : List Token} (hrest : rest.head? ≠ some (.keyword .limit)) :
    readWindow rest = some (none, rest) := by
  rw [readWindow]
  rintro limit offset ts rfl
  exact hrest rfl

/-- **The order of a query is read as a whole.** -/
theorem readOrder_tokens (query : Query) (horder : rest.head? ≠ some (.keyword .order))
    (hcomma : rest.head? ≠ some (.symbol .comma)) {n : Nat}
    (hn : query.orderTokens.length ≤ n) :
    readOrder n (query.orderTokens ++ rest) = some (query.sorting.map sortKeyExpr, rest) := by
  unfold orderTokens at hn ⊢
  cases hsorting : query.sorting with
  | nil => exact readOrder_none horder n
  | cons key keys =>
    have hlength := length_le_length_tokens_orderLexemes (key :: keys)
    rw [hsorting] at hn
    simp only [List.isEmpty_cons, Bool.false_eq_true, if_false,
      List.length_cons] at hn hlength ⊢
    exact readSortKeys_tokens key keys hcomma (by omega)

theorem readWindow_tokens (hrest : EndsQuery rest) :
    readWindow (query.windowTokens ++ rest)
      = some (query.window.map fun (limit, offset) =>
          (parameterOperand limit, parameterOperand offset), rest) := by
  unfold windowTokens
  cases query.window with
  | none => exact readWindow_none (hrest.head?_ne (by simp))
  | some window => rfl

/-- The order and the window follow a condition. -/
theorem closes_ordering (query : Query) (hrest : EndsQuery rest) :
    Closes (query.orderTokens ++ (query.windowTokens ++ rest)) := by
  unfold orderTokens windowTokens
  split
  · cases query.window with
    | none => exact hrest.closes
    | some window => exact closes_cons (by decide) _
  · exact closes_cons (by decide) _

/-- **What follows the question is read as a whole.** -/
theorem readBody_tokens (hquery : query.Correlated) (select : SelectList)
    (hrest : EndsQuery rest) {n : Nat}
    (hn : ((query.sourceLexemes ++ query.orderingLexemes).flatMap tokens).length ≤ n) :
    readBody n select ((query.sourceLexemes ++ query.orderingLexemes).flatMap tokens ++ rest)
      = some ({ query.expr with select }, rest) := by
  have hwindow : ∀ t, t ≠ .symbol .close → t ≠ .keyword .limit →
      (query.windowTokens ++ rest).head? ≠ some t := by
    intro t hclose hlimit
    unfold windowTokens
    cases query.window with
    | none => exact hrest.head?_ne hclose
    | some window => simpa using hlimit.symm
  rw [List.flatMap_append, flatMap_tokens_orderingLexemes] at hn ⊢
  simp only [List.length_append] at hn
  have hsource := readTableExpr_tokens (n := n) hquery (query.closes_ordering hrest) (by omega)
  have horder := query.readOrder_tokens (n := n)
    (hwindow (.keyword .order) (by simp) (by simp))
    (hwindow (.symbol .comma) (by simp) (by simp)) (by omega)
  simp only [List.append_assoc, readBody, hsource, horder, readWindow_tokens hrest,
    Option.bind_eq_bind, Option.bind_some]
  rfl

/-- The tokens of the tables, the condition, the order and the window of a query. -/
def bodyTokens (query : Query) : List Token :=
  (query.sourceLexemes ++ query.orderingLexemes).flatMap tokens

end Query

/-! ## Queries -/

/-- The tokens of a query up to its tables. -/
def Projection.opening : Projection → List Token
  | rows distinct =>
    .keyword .select :: (if distinct then [.keyword .distinct] else [])
      ++ [.word Alias.root.text, .symbol .dot, .symbol .star]
  | count none =>
      [.keyword .select, .keyword .count, .symbol .open, .symbol .star, .symbol .close]
  | count (some column) =>
    .keyword .select :: .keyword .count :: .symbol .open :: .keyword .distinct ::
      tokens (ColumnName.lexemes ⟨.root, column⟩) ++ [.symbol .close]
  | existence =>
    [.keyword .select, .keyword .exists, .symbol .open, .keyword .select, .numeral 1]

/-- The tokens of a query after its body. -/
def Projection.closing : Projection → List Token
  | existence => [.symbol .close]
  | _ => []

namespace Query

theorem tokens_lexemes (query : Query) :
    tokens query.lexemes
      = query.projection.opening ++ (query.bodyTokens ++ query.projection.closing) := by
  rw [lexemes, bodyTokens, List.flatMap_append]
  cases query.projection with
  | rows distinct =>
    cases distinct <;>
      simp [Projection.opening, Projection.closing, Lexeme.token?, rootRow]
  | count column =>
    cases column <;> simp [Projection.opening, Projection.closing, Lexeme.token?]
  | existence => simp [Projection.opening, Projection.closing, Lexeme.token?]

/-- **A query is read as what it spells.** -/
theorem parseQuery?_tokens (query : Query) (hquery : query.Correlated) :
    parseQuery? (tokens query.lexemes) = some query.expr := by
  have hlength : query.bodyTokens.length ≤ (tokens query.lexemes).length := by
    simp only [tokens_lexemes, List.length_append]
    omega
  have hclosing : EndsQuery query.projection.closing := by
    cases query.projection <;> simp [Projection.closing, EndsQuery]
  have hbody := readBody_tokens hquery query.projection.expr hclosing hlength
  have hread : readQuery (tokens query.lexemes).length (tokens query.lexemes)
      = some (query.expr, []) := by
    generalize (tokens query.lexemes).length = n at hbody ⊢
    rw [tokens_lexemes]
    rw [← bodyTokens] at hbody
    have hself : { query.expr with select := query.projection.expr } = query.expr := rfl
    rw [hself] at hbody
    cases hprojection : query.projection with
    | rows distinct =>
      rw [hprojection] at hbody
      cases distinct <;> exact hbody
    | count column =>
      rw [hprojection] at hbody
      cases column <;> exact hbody
    | existence =>
      rw [hprojection] at hbody
      show (readBody n .existence (query.bodyTokens ++ [.symbol .close])).bind _ = _
      rw [show readBody n .existence (query.bodyTokens ++ [.symbol .close])
        = some (query.expr, [.symbol .close]) from hbody]
      rfl
  rw [parseQuery?, readAll?, hread]

/-- The tables and the condition of a query, by themselves, are read as what they spell. -/
theorem parseTableExpr?_tokens (query : Query) (hquery : query.Correlated) :
    parseTableExpr? (query.sourceLexemes.flatMap tokens) = some query.tableExpr := by
  have hread := readTableExpr_tokens hquery closes_nil (Nat.le_refl _)
  rw [List.append_nil] at hread
  rw [parseTableExpr?, readAll?, hread]

end Query

end Sql

end RecordQuery
