import RecordQuery.Proofs.Sql.Grammar
import RecordQuery.Sorting

/-!
# The grammar of queries

Reads the tokens of a query by the grammar of SQL: what is asked of the rows, the tables that
they are taken from, the condition on them, their order and the window of them that is wanted.

## Main Definitions

* `Sql.SelectList` — what is asked of the rows
* `Sql.TableExpr` — the tables, how they are joined, and the condition on their rows
* `Sql.QueryExpr` — a query as it is read
* `Sql.readTableExpr`, `Sql.readQuery` — read the parts
* `Sql.parseQuery?` — the query that tokens spell

## Design Notes

As in the grammar of conditions the number of tokens bounds the recursion of the readers.  The
tables of a join are introduced from left to right, each under a name of its own; whether a name
stands for a table that is there is not a question of grammar.
-/

namespace RecordQuery

namespace Sql

/-- A table, and the name that its row goes by. -/
structure NamedTable where
  schema : Option String
  table : String
  row : String
  deriving DecidableEq, Repr

/-- A table that is joined where two columns are equal. -/
structure JoinedTable where
  table : NamedTable
  left : QualifiedName
  right : QualifiedName
  deriving DecidableEq, Repr

/-- Rows of a table and of the tables joined to it, as far as a condition holds. -/
structure TableExpr where
  table : NamedTable
  joins : List JoinedTable
  condition : Option Expr
  deriving DecidableEq, Repr

/-- The tables from left to right, each with the name that its row goes by. -/
def TableExpr.tables (source : TableExpr) : List NamedTable :=
  source.table :: source.joins.map JoinedTable.table

/-- What is asked of the rows. -/
inductive SelectList
  /-- All columns of the row with a name, equal rows once only if so asked. -/
  | rows (distinct : Bool) (row : String)
  /-- The number of the rows. -/
  | count
  /-- The number of different values in a column. -/
  | countDistinct (c : QualifiedName)
  /-- Whether there are any. -/
  | existence
  deriving DecidableEq, Repr

/-- A query as it is read. -/
structure QueryExpr where
  select : SelectList
  source : TableExpr
  order : List (QualifiedName × Direction)
  /-- The greatest number of rows and the number of rows to skip. -/
  window : Option (Operand × Operand)
  deriving DecidableEq, Repr

/-! ## Tables -/

/-- Reads a table with a name for its row. -/
def readNamedTable : Reader NamedTable := fun ts => do
  let ((schema, table), ts) ← readTable ts
  match ts with
  | .word row :: ts => return (⟨schema, table, row⟩, ts)
  | _ => none

/-- Reads joins, as many as there are but fewer than a given number. -/
def readJoins : Nat → Reader (List JoinedTable)
  | 0, _ => none
  | n + 1, .keyword .inner :: .keyword .join :: ts => do
    let (table, ts) ← readNamedTable ts
    let ((), ts) ← expect (.keyword .on) ts
    let (left, ts) ← readColumn ts
    let ((), ts) ← expect (.symbol .eq) ts
    let (right, ts) ← readColumn ts
    let (joins, ts) ← readJoins n ts
    return (⟨table, left, right⟩ :: joins, ts)
  | _ + 1, ts => some ([], ts)

/-- Reads a condition on the rows, if there is one. -/
def readWhere (n : Nat) : Reader (Option Expr)
  | .keyword .where :: ts => do
    let (x, ts) ← readCondition (readTerm n) n ts
    return (some x, ts)
  | ts => some (none, ts)

/-- Reads the tables and the condition on their rows. -/
def readTableExpr (n : Nat) : Reader TableExpr := fun ts => do
  let ((), ts) ← expect (.keyword .from) ts
  let (table, ts) ← readNamedTable ts
  let (joins, ts) ← readJoins n ts
  let (condition, ts) ← readWhere n ts
  return (⟨table, joins, condition⟩, ts)

/-! ## Order and window -/

/-- Reads the direction of a sort. -/
def readDirection : Reader Direction
  | .keyword .asc :: ts => some (.ascending, ts)
  | .keyword .desc :: ts => some (.descending, ts)
  | _ => none

/-- Reads the columns to sort by, at most so many. -/
def readSortKeys : Nat → Reader (List (QualifiedName × Direction))
  | 0, _ => none
  | n + 1, ts => do
    let (c, ts) ← readColumn ts
    let (direction, ts) ← readDirection ts
    if ts.head? = some (.symbol .comma) then
      let (keys, ts) ← readSortKeys n ts.tail
      return ((c, direction) :: keys, ts)
    else return ([(c, direction)], ts)

/-- Reads the order, if there is one. -/
def readOrder (n : Nat) : Reader (List (QualifiedName × Direction))
  | .keyword .order :: .keyword .by :: ts => readSortKeys n ts
  | ts => some ([], ts)

/-- Reads the window, if there is one. -/
def readWindow : Reader (Option (Operand × Operand))
  | .keyword .limit :: limit :: .keyword .offset :: offset :: ts => do
    let limit ← limit.operand?
    let offset ← offset.operand?
    return (some (limit, offset), ts)
  | ts => some (none, ts)

/-! ## Queries -/

/-- Reads what is asked of the rows, apart from the question whether there are any. -/
def readSelectList : Reader SelectList
  | .keyword .distinct :: .word row :: .symbol .dot :: .symbol .star :: ts =>
    some (.rows true row, ts)
  | .word row :: .symbol .dot :: .symbol .star :: ts => some (.rows false row, ts)
  | .keyword .count :: .symbol .open :: .symbol .star :: .symbol .close :: ts =>
      some (.count, ts)
  | .keyword .count :: .symbol .open :: .keyword .distinct :: ts => do
    let (c, ts) ← readColumn ts
    let ((), ts) ← expect (.symbol .close) ts
    return (.countDistinct c, ts)
  | _ => none

/-- Reads what follows the question: the tables, the order and the window. -/
def readBody (n : Nat) (select : SelectList) : Reader QueryExpr := fun ts => do
  let (source, ts) ← readTableExpr n ts
  let (order, ts) ← readOrder n ts
  let (window, ts) ← readWindow ts
  return (⟨select, source, order, window⟩, ts)

/-- Reads a query. -/
def readQuery (n : Nat) : Reader QueryExpr
  | .keyword .select :: .keyword .exists :: .symbol .open :: .keyword .select :: .numeral 1 ::
      ts => do
    let (query, ts) ← readBody n .existence ts
    let ((), ts) ← expect (.symbol .close) ts
    return (query, ts)
  | .keyword .select :: ts => do
    let (select, ts) ← readSelectList ts
    readBody n select ts
  | _ => none

/-- What a reader finds in tokens, given their number, if it takes all of them. -/
def readAll? {α : Type} (read : Nat → Reader α) (ts : List Token) : Option α :=
  match read ts.length ts with
  | some (x, []) => some x
  | _ => none

/-- The query that tokens spell. -/
def parseQuery? : List Token → Option QueryExpr := readAll? readQuery

/-- The tables and the condition that tokens spell. -/
def parseTableExpr? : List Token → Option TableExpr := readAll? readTableExpr

end Sql

end RecordQuery
