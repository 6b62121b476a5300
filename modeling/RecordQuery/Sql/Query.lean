import RecordQuery.QueryOptions
import RecordQuery.Sql.SearchCondition

/-!
# Queries

Queries over a table, the tables joined to it and a condition, and how they are written.

## Main Definitions

* `Sql.Projection` — what is asked of the rows: the rows, their number, or whether there are any
* `Sql.JoinClause` — an inner join
* `Sql.Query`, `Sql.Query.text` — a query and its text
* `Sql.orderBy?` — the text of the order alone
-/

namespace RecordQuery

namespace Sql

/-- What a query asks of its rows. -/
inductive Projection
  /-- The root rows, each once if so asked. -/
  | rows (distinct : Bool)
  /-- Their number; with a column, the number of its different values. -/
  | count (distinctColumn : Option String)
  /-- Whether there are any. -/
  | existence
  deriving DecidableEq, Repr

/-- An inner join: the joined row and the column of it that has to equal
one of an earlier row. -/
structure JoinClause where
  table : String
  joined : ColumnName
  owner : ColumnName
  deriving DecidableEq, Repr

/-- A query. -/
structure Query where
  projection : Projection
  schema : Option String
  table : String
  joins : List JoinClause
  condition : Option SearchCondition
  sorting : Sorting
  /-- The placeholders of the greatest number of rows and of the number of rows to skip. -/
  window : Option (Int32 × Int32)

/-- The keyword of a direction. -/
def directionKeyword : Direction → Keyword
  | .ascending => .asc
  | .descending => .desc

/-- The lexemes of a sort key. -/
def sortKeyLexemes (key : SortKey) : List Lexeme :=
  ColumnName.lexemes ⟨.root, key.column⟩ ++ [.blank, .keyword (directionKeyword key.direction)]

/-- The lexemes of the order. -/
def orderLexemes (sorting : Sorting) : List Lexeme :=
  Lexeme.commas (sorting.map sortKeyLexemes)

/-- The text of the order, if there is one. -/
def orderBy? (sorting : Sorting) : Option String :=
  if sorting.isEmpty then none else some (render (orderLexemes sorting))

/-- The lexemes of a join. -/
def JoinClause.lexemes (schema : Option String) (clause : JoinClause) : List (List Lexeme) :=
  [[.keyword .inner], [.keyword .join], tableLexemes schema clause.table,
    [.row clause.joined.row], [.keyword .on], clause.joined.lexemes, [.symbol .eq],
    clause.owner.lexemes]

namespace Query

/-- The lexemes of the tables and of the condition on their rows. -/
def sourceLexemes (query : Query) : List (List Lexeme) :=
  [[.keyword .from], tableLexemes query.schema query.table, [.row .root]] ++
    query.joins.flatMap (JoinClause.lexemes query.schema) ++
    match query.condition with
    | none => []
    | some condition => [[.keyword .where], condition.lexemes]

/-- The lexemes of the order and of the window. -/
def orderingLexemes (query : Query) : List (List Lexeme) :=
  (if query.sorting.isEmpty then []
    else [[.keyword .order], [.keyword .by], orderLexemes query.sorting]) ++
    match query.window with
    | none => []
    | some (limit, offset) =>
      [[.keyword .limit], [.placeholder limit], [.keyword .offset], [.placeholder offset]]

/-- All columns of the root row. -/
def rootRow : List Lexeme := [.row .root, .symbol .dot, .symbol .star]

/-- The lexemes of a query. -/
def lexemes (query : Query) : List Lexeme :=
  let source := query.sourceLexemes
  match query.projection with
  | .rows distinct =>
    Lexeme.words ([[.keyword .select]] ++ (if distinct then [[.keyword .distinct]] else []) ++
      [rootRow] ++ source ++ query.orderingLexemes)
  | .count none =>
    Lexeme.words ([[.keyword .select], .keyword .count :: Lexeme.parens [.symbol .star]] ++
      source ++ query.orderingLexemes)
  | .count (some column) =>
    Lexeme.words ([[.keyword .select], .keyword .count :: Lexeme.parens
      (Lexeme.words [[.keyword .distinct], ColumnName.lexemes ⟨.root, column⟩])] ++
      source ++ query.orderingLexemes)
  | .existence =>
    Lexeme.words [[.keyword .select], [.keyword .exists],
      Lexeme.parens (Lexeme.words ([[.keyword .select], [.one]] ++ source ++
        query.orderingLexemes))]

/-- The text of a query. -/
def text (query : Query) : String := render query.lexemes

end Query

end Sql

end RecordQuery
