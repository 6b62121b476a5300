import RecordQuery.Filter
import RecordQuery.Sql.Query

/-!
# Statements

The statements that a filter amounts to, with the values for their placeholders.

## Main Definitions

* `Sql.Statement` — a query and its parameters, the first one for the placeholder one
* `Sql.Clause` — a condition by itself
* `Filter.select`, `Filter.countStatement`, `Filter.existsStatement` — the statements

## Design Notes

Joins multiply rows.  Where there are any, the rows are therefore made distinct and the number
is that of the different primary keys; whether there is a row at all needs no such care.
-/

namespace RecordQuery

namespace Sql

/-- A query with the values for its placeholders, in the order of their numbers from one on. -/
structure Statement where
  query : Query
  parameters : List Scalar

/-- The text of a statement. -/
def Statement.text (statement : Statement) : String := statement.query.text

/-- A condition by itself, with its values and the number of the placeholder after the last. -/
structure Clause where
  condition : SearchCondition
  parameters : List Scalar
  next : Int32

/-- The text of a clause. -/
def Clause.text (clause : Clause) : String := render clause.condition.lexemes

end Sql

/-- The clause of a condition with placeholders from `first` on. -/
def Condition.clause (schema : Option String) (first : Int32) (condition : Condition) :
    Sql.Clause :=
  let (search, slots) := (condition.inStatement schema).run ⟨first, []⟩
  { condition := search, parameters := slots.parameters, next := slots.next }

/-- The join as it stands in a statement. -/
def Join.clause (join : Join) : Sql.JoinClause :=
  { table := join.table.name
    joined := ⟨.join join.index, join.joinedColumn⟩
    owner := ⟨join.owner.rowAlias, join.ownerColumn⟩ }

/-- The joins of a selection as they stand in a statement. -/
def Selection.joinClauses (selection : Selection) : List Sql.JoinClause :=
  selection.joins.map Join.clause

/-- The query over the rows of a selection, as it stands in a statement. -/
def Selection.inStatement (selection : Selection) (schema : Option String) (table : Table)
    (projection : Sql.Projection) : StateM Sql.Slots Sql.Query := do
  let condition ← selection.condition.mapM (Condition.inStatement schema)
  return {
    projection
    schema
    table := table.name
    joins := selection.joinClauses
    condition
    sorting := []
    window := none }

/-- The limit and the offset of a page, as they stand in a statement. -/
def Page.inStatement (page : Page) : StateM Sql.Slots (Int32 × Int32) :=
  return (← Sql.Slots.push (.int page.limit), ← Sql.Slots.push (.int page.offset))

/-- The statement of a query whose placeholders are numbered from one on. -/
def Sql.Statement.of (query : StateM Sql.Slots Sql.Query) : Sql.Statement :=
  let (query, slots) := query.run ⟨1, []⟩
  { query, parameters := slots.parameters }

namespace Filter

/-- The statement for the matching rows, in the order and the window asked for.  The limit and
the offset are its last parameters. -/
def select (table : Table) (schema : Option String) (options : QueryOptions) (filter : Filter) :
    Sql.Statement :=
  .of do
    let selection := filter.selection table
    let query ← selection.inStatement schema table (.rows !selection.joins.isEmpty)
    let window ← options.page.mapM Page.inStatement
    return { query with sorting := options.sorting, window }

/-- The statement for the number of matching rows. -/
def countStatement (table : Table) (schema : Option String) (filter : Filter) : Sql.Statement :=
  let selection := filter.selection table
  let column := if selection.joins.isEmpty then none else some table.primaryKey
  .of (selection.inStatement schema table (.count column))

/-- The statement for whether any row matches. -/
def existsStatement (table : Table) (schema : Option String) (filter : Filter) :
    Sql.Statement :=
  .of ((filter.selection table).inStatement schema table .existence)

end Filter

end RecordQuery
