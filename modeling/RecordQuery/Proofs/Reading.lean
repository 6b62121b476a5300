import RecordQuery.Proofs.Agreement
import RecordQuery.Proofs.Inquiry
import RecordQuery.Proofs.Sql.QueryReadBack

/-!
# Statements read back

What the statement of an inquiry spells.  Whatever is asked of the rows, the tables and the
condition are those of the selection; the order and the window are those of the options.

## Main Definitions

* `Inquiry.source` — the tables and the condition that the statement spells

## Main Statements

* `Inquiry.parseQuery?_tokens` — the statement is read as a query
* `Inquiry.tableExpr_query` — its tables and its condition do not depend on the purpose
* `Inquiry.parameters_statement`, `Inquiry.window_query` — the page comes last
-/

namespace RecordQuery

namespace Selection

/-- The tables and the condition that a query over the rows of a selection spells. -/
def source (selection : Selection) (schema : Option String) (table : Table) : Sql.TableExpr :=
  ⟨⟨schema, table.name, Sql.Alias.root.text⟩,
    selection.joinClauses.map (Sql.JoinClause.expr schema),
    selection.condition.map fun condition =>
      Sql.SearchCondition.expr (condition.search schema 1)⟩

theorem tableExpr_query (selection : Selection) (schema : Option String) (table : Table)
    (projection : Sql.Projection) :
    (selection.query schema table projection).tableExpr = selection.source schema table := by
  rw [Sql.Query.tableExpr, query, Option.map_map]
  rfl

end Selection

namespace Inquiry

/-- The tables and the condition that the statement spells. -/
def source (q : Inquiry) : Sql.TableExpr := q.selection.source q.schema q.table

/-- The tables and the condition do not depend on what is asked of the rows. -/
theorem tableExpr_query (q : Inquiry) : q.statement.query.tableExpr = q.source := by
  rw [statement_eq]
  exact q.selection.tableExpr_query q.schema q.table q.projection

theorem joins_query (q : Inquiry) : q.statement.query.joins = q.selection.joinClauses := by
  rw [statement_eq]
  rfl

/-- The condition of a statement is that of the selection, with placeholders from one on. -/
theorem condition_query (q : Inquiry) :
    q.statement.query.condition = q.selection.condition.map (Condition.search q.schema 1) := by
  rw [statement_eq]
  rfl

/-- The limit and the offset have the placeholders after those of the condition. -/
theorem window_query (q : Inquiry) :
    q.statement.query.window = q.page?.map fun _ =>
      (1 + Int32.ofNat q.selection.parameters.length,
        1 + Int32.ofNat q.selection.parameters.length + 1) := by
  rw [statement_eq]

/-- The limit and the offset are the last parameters. -/
theorem parameters_statement (q : Inquiry) :
    q.statement.parameters = q.selection.parameters
      ++ (q.page?.map fun page => [.int page.limit, .int page.offset]).getD [] := by
  rw [statement_eq]

/-- A page takes two parameters. -/
theorem length_parameters {q : Inquiry} {page : Page} (hpage : q.page? = some page) :
    q.statement.parameters.length = q.selection.parameters.length + 2 := by
  rw [parameters_statement, hpage, List.length_append]
  rfl

/-- The subqueries of a statement refer to rows outside of them. -/
theorem correlated_query (q : Inquiry) : q.statement.query.Correlated := by
  intro f hf p hp
  rw [condition_query] at hf
  obtain ⟨condition, -, rfl⟩ := Option.map_eq_some_iff.1 hf
  exact Condition.correlated_of_mem_search hp

/-- **A statement is read as the query that it spells.** -/
theorem parseQuery?_tokens (q : Inquiry) :
    Sql.parseQuery? (Sql.tokens q.statement.query.lexemes) = some q.statement.query.expr :=
  q.statement.query.parseQuery?_tokens q.correlated_query

end Inquiry

end RecordQuery
