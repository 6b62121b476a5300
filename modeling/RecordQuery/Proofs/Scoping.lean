import RecordQuery.Proofs.Reading
import RecordQuery.Proofs.SharedRoot
import RecordQuery.Proofs.Sql.Scope

/-!
# Scopes of statements

Every statement introduces the row of its table as `t0` and those of its joins as `j1`, `j2` and
so on.  Wherever a row is referred to, in the join conditions, in the condition and in the
order, it has been introduced before.

## Main Definitions

* `rowNames` — the names of the rows of a query, in the order in which they are introduced
* `Relation.joinedTable` — the join that follows a relation, with the columns on both sides
* `Inquiry.WellScoped` — a statement that keeps to its own rows

## Main Statements

* `Inquiry.scoped_query` — each row of a statement has a name of its own,
  introduced before its use
* `Inquiry.wellScoped_statement` — every statement is well scoped

## Design Notes

It all rests on how joins are wired: the join at a position has that position for its index and
follows a relation from the root or from a join at a smaller one, and the alias of a source is
made of nothing but its index.
-/

namespace RecordQuery

/-! ## Names of rows -/

theorem Sql.Alias.text_injective : Function.Injective Alias.text := by
  have htext : ∀ i, (join i).text.toList = 'j' :: Nat.toDigits 10 (i + 1) := by
    intro i
    have hj : "j".toList = ['j'] := rfl
    rw [text, String.toList_append, Nat.toString_eq_ofList_toDigits, hj, String.toList_ofList,
      List.singleton_append]
  have hjoin : ∀ (i : Nat) (s : String), (join i).text = s → s.toList.head? = some 'j' := by
    rintro i s rfl
    rw [htext, List.head?_cons]
  intro a b h
  cases a with
  | root =>
    cases b with
    | root => rfl
    | inner => exact absurd h (by decide)
    | join j => exact absurd (hjoin j "t0" h.symm) (by decide)
  | inner =>
    cases b with
    | root => exact absurd h (by decide)
    | inner => rfl
    | join j => exact absurd (hjoin j "m" h.symm) (by decide)
  | join i =>
    cases b with
    | root => exact absurd (hjoin i "t0" h) (by decide)
    | inner => exact absurd (hjoin i "m" h) (by decide)
    | join j =>
      have hdigits : Nat.toDigits 10 (i + 1) = Nat.toDigits 10 (j + 1) := by
        have hlist := congrArg String.toList h
        rw [htext, htext] at hlist
        exact (List.cons.inj hlist).2
      have hnumber : i + 1 = j + 1 := by
        rw [← Nat.ofDigitChars_ten_toDigits (n := i + 1), hdigits,
          Nat.ofDigitChars_ten_toDigits]
      rw [Nat.succ.inj hnumber]

/-- The names of the rows of a query with `n` joins, in the order in which they are
introduced. -/
def rowNames (n : Nat) : List String :=
  Sql.Alias.root.text :: (List.range n).map fun i => (Sql.Alias.join i).text

theorem nodup_rowNames (n : Nat) : (rowNames n).Nodup := by
  refine List.nodup_cons.2 ⟨?_, ?_⟩
  · intro hroot
    obtain ⟨i, -, htext⟩ := List.mem_map.1 hroot
    exact absurd (Sql.Alias.text_injective htext) nofun
  · refine List.nodup_range.map fun i j htext => ?_
    exact Sql.Alias.join.inj (Sql.Alias.text_injective htext)

theorem inner_notMem_rowNames (n : Nat) : Sql.Alias.inner.text ∉ rowNames n := by
  intro hinner
  rcases List.mem_cons.1 hinner with htext | hinner
  · exact absurd (Sql.Alias.text_injective htext) nofun
  · obtain ⟨i, -, htext⟩ := List.mem_map.1 hinner
    exact absurd (Sql.Alias.text_injective htext) nofun

theorem take_rowNames {i n : Nat} (h : i ≤ n) : (rowNames n).take (i + 1) = rowNames i := by
  rw [rowNames, List.take_succ_cons, ← List.map_take, List.take_range, Nat.min_eq_left h,
    rowNames]

/-- The root and the first joins have names. -/
theorem Source.IsBelow.text_mem_rowNames {n : Nat} {source : Source} (h : source.IsBelow n) :
    source.rowAlias.text ∈ rowNames n := by
  cases source with
  | root => exact List.mem_cons_self
  | join index =>
    exact List.mem_cons_of_mem _ (List.mem_map.2 ⟨index, List.mem_range.2 h, rfl⟩)

/-! ## Joins -/

/-- The join that follows a relation from a row of a table: the foreign key of a
collection is on the joined side and that of a reference on the other, each with the
primary key across from it. -/
def Relation.joinedTable (schema : Option String) (row ownerRow : String) (owner : Table) :
    Relation → Sql.JoinedTable
  | collection c =>
    { table := ⟨schema, c.target.name, row⟩
      left := ⟨row, c.foreignKey⟩
      right := ⟨ownerRow, owner.primaryKey⟩ }
  | reference r =>
    { table := ⟨schema, r.target.name, row⟩
      left := ⟨row, r.target.primaryKey⟩
      right := ⟨ownerRow, r.foreignKey⟩ }

theorem Relation.expr_clause_seenFrom (schema : Option String) (i : Nat) (owner : Place)
    (r : Relation) :
    (Join.mk i (r.seenFrom owner)).clause.expr schema
      = r.joinedTable schema (Sql.Alias.join i).text owner.source.rowAlias.text
        owner.table := by
  cases r <;> rfl

namespace Selection

variable {selection : Selection} (schema : Option String) {table : Table}

/-- The joins introduce their rows by their positions. -/
theorem map_row_joinClauses (hwired : IsWired table selection.joins) :
    selection.joinClauses.map (fun clause => clause.joined.row.text)
      = (List.range selection.joins.length).map fun i => (Sql.Alias.join i).text := by
  rw [joinClauses, List.map_map, ← hwired.map_index, List.map_map]
  rfl

/-- The tables of a query: that of the root and those of the joins. -/
theorem tables_source :
    (selection.source schema table).tables
      = ⟨schema, table.name, Sql.Alias.root.text⟩ ::
          selection.joins.map fun join =>
            ⟨schema, join.table.name, (Sql.Alias.join join.index).text⟩ := by
  rw [Sql.TableExpr.tables, source, joinClauses, List.map_map, List.map_map]
  rfl

theorem map_row_tables_source (hwired : IsWired table selection.joins) :
    (selection.source schema table).tables.map Sql.NamedTable.row
      = rowNames selection.joins.length := by
  rw [Sql.TableExpr.tables, source, List.map_cons, List.map_map, List.map_map, rowNames,
    ← map_row_joinClauses hwired]
  rfl

/-- A place on the root is the row of a table that has been introduced. -/
theorem mem_tables_source (hwired : IsWired table selection.joins) {place : Place} {i : Nat}
    (h : place.IsOn table (selection.joins.take i)) :
    ⟨schema, place.table.name, place.source.rowAlias.text⟩
      ∈ (selection.source schema table).tables.take (i + 1) := by
  obtain ⟨source, target⟩ := place
  rw [tables_source, List.take_succ_cons]
  cases source with
  | root =>
    obtain rfl : table = target := Option.some.inj h
    exact List.mem_cons_self
  | join index =>
    obtain ⟨join, hjoin, rfl⟩ := Option.map_eq_some_iff.1 h
    rw [List.getElem?_take, Option.ite_none_right_eq_some] at hjoin
    obtain rfl := hwired.index_eq hjoin.2
    refine List.mem_cons_of_mem _ (List.mem_of_getElem? (i := join.index) ?_)
    rw [List.getElem?_take, if_pos hjoin.1, List.getElem?_map, hjoin.2]
    rfl

end Selection

/-! ## Statements -/

namespace Inquiry

theorem isWired_joins (q : Inquiry) : IsWired q.table q.selection.joins :=
  q.filter.isWired_selection q.table

theorem rowNames_query (q : Inquiry) :
    q.statement.query.rowNames = rowNames q.selection.joins.length := by
  rw [Sql.Query.rowNames, joins_query, Selection.map_row_joinClauses q.isWired_joins, rowNames]

/-- **Each row of a statement has a name of its own and is introduced before it is used.** -/
theorem scoped_query (q : Inquiry) : q.statement.query.Scoped where
  nodup := by
    rw [rowNames_query]
    exact nodup_rowNames _
  inner := by
    rw [rowNames_query]
    exact inner_notMem_rowNames _
  owner i clause hclause := by
    rw [joins_query, Selection.joinClauses, List.getElem?_map] at hclause
    obtain ⟨join, hjoin, rfl⟩ := Option.map_eq_some_iff.1 hclause
    have hi : i < q.selection.joins.length := (List.getElem?_eq_some_iff.1 hjoin).1
    rw [rowNames_query, take_rowNames (Nat.le_of_lt hi)]
    exact (q.isWired_joins.isBelow_owner hjoin).text_mem_rowNames
  condition f hf p hp := by
    rw [condition_query] at hf
    obtain ⟨condition, hcondition, rfl⟩ := Option.map_eq_some_iff.1 hf
    rw [Condition.atoms_search] at hp
    obtain ⟨⟨k, a⟩, hk, rfl⟩ := List.mem_map.1 hp
    have hsource : a.source ∈ q.selection.sources := by
      refine List.mem_append_left _ (List.mem_map_of_mem ?_)
      rw [hcondition, Option.toList_some, List.flatMap_singleton]
      exact mem_of_mem_placed hk
    have hbelow := q.filter.isBelow_sources q.table a.source hsource
    have hrow : ∀ n, (a.search q.schema n).row = a.source.rowAlias := by
      intro n
      cases a with
      | column c test => cases test <;> rfl
      | related r presence => cases presence <;> rfl
    rw [rowNames_query, hrow]
    exact hbelow.text_mem_rowNames

/-- A statement that keeps to its own rows, given the tokens of its text and the query that they
spell. -/
structure WellScoped (q : Inquiry) (ts : List Sql.Token) (query : Sql.QueryExpr) : Prop where
  tokenize : Sql.tokenize? q.statement.text.toList = some ts
  parse : Sql.parseQuery? ts = some query
  /-- The tables introduce the rows `t0`, `j1` and so on, in this order. -/
  names : query.source.tables.map Sql.NamedTable.row = rowNames q.selection.joins.length
  /-- No two rows have one name, and none has that of a row of a subquery. -/
  nodup : (rowNames q.selection.joins.length ++ [Sql.Alias.inner.text]).Nodup
  /-- Each join follows a relation from the root or from a join before it. -/
  wired : IsWired q.table q.selection.joins
  /-- Each join is made by the columns of its relation, from a row of the owner's table that is
  introduced before. -/
  joins : ∀ i joined, query.source.joins[i]? = some joined →
    ∃ (owner : Place) (relation : Relation),
      q.selection.joins[i]? = some ⟨i, relation.seenFrom owner⟩ ∧
      owner.IsOn q.table (q.selection.joins.take i) ∧
      ⟨q.schema, owner.table.name, owner.source.rowAlias.text⟩
        ∈ query.source.tables.take (i + 1) ∧
      joined = relation.joinedTable q.schema (Sql.Alias.join i).text
        owner.source.rowAlias.text owner.table
  /-- From the tables on every row is in scope where it is used; between brackets no row is
  introduced but that of a subquery. -/
  scopes : ∃ opening body closing, ts = opening ++ (body ++ closing) ∧
    body.head? = some (.keyword .from) ∧ .keyword .from ∉ opening ∧
    (∀ w, .word w ∈ opening → w = Sql.Alias.root.text) ∧ (∀ w, .word w ∉ closing) ∧
    ∃ s, Sql.Scopes.start.after? body = some s ∧
      s.frames = [(rowNames q.selection.joins.length).reverse] ∧
      ∀ frame ∈ s.closed, frame = [] ∨ frame = [Sql.Alias.inner.text]
  /-- The order is by columns of the root. -/
  order : ∀ key ∈ query.order, key.1.row = Sql.Alias.root.text

/-- **Every statement is well scoped.** -/
theorem wellScoped_statement (q : Inquiry) : ∃ ts query, q.WellScoped ts query := by
  have hsource : q.statement.query.expr.source = q.selection.source q.schema q.table :=
    q.tableExpr_query
  refine ⟨_, _, q.tokenize?_text, q.parseQuery?_tokens, ?_, ?_, q.isWired_joins, ?_, ?_, ?_⟩
  · rw [hsource, Selection.map_row_tables_source q.schema q.isWired_joins]
  · refine List.Nodup.append (nodup_rowNames _) (List.nodup_singleton _) ?_
    simpa using inner_notMem_rowNames _
  · intro i joined hjoined
    rw [hsource] at hjoined ⊢
    rw [Selection.source, Selection.joinClauses, List.getElem?_map, List.getElem?_map,
      Option.map_map] at hjoined
    obtain ⟨join, hjoin, rfl⟩ := Option.map_eq_some_iff.1 hjoined
    obtain ⟨owner, relation, howner, rfl⟩ := q.isWired_joins.follows hjoin
    exact ⟨owner, relation, hjoin, howner,
      Selection.mem_tables_source q.schema q.isWired_joins howner,
      relation.expr_clause_seenFrom q.schema i owner⟩
  · obtain ⟨s, hafter, hframes, hclosed⟩ := Sql.Query.after?_bodyTokens q.scoped_query
    rw [rowNames_query] at hframes
    refine ⟨_, _, _, q.statement.query.tokens_lexemes, ?_, ?_, ?_, ?_, s, hafter,
      hframes, hclosed⟩
    · rw [Sql.Query.bodyTokens, List.flatMap_append, Sql.Query.flatMap_tokens_sourceLexemes]
      rfl
    · exact fun hfrom => (Sql.Projection.of_mem_opening hfrom).1 rfl
    · exact fun w hw => (Sql.Projection.of_mem_opening hw).2 w rfl
    · exact q.statement.query.projection.word_notMem_closing
  · intro key hkey
    obtain ⟨key, -, rfl⟩ := List.mem_map.1 hkey
    rfl

end Inquiry

end RecordQuery
