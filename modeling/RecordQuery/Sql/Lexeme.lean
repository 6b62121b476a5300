import RecordQuery.Sql.Identifier

/-!
# Lexemes of statements

Statements are written as sequences of lexemes.  Names and texts occur only inside quotation
marks, and values do not occur at all: a numbered placeholder stands for each.

## Main Definitions

* `Sql.Lexeme` — keywords, aliases, quoted names and texts, placeholders, symbols and blanks
* `Sql.Lexeme.chars` — the characters of a lexeme
* `Sql.render` — the text of a sequence of lexemes

## Design Notes

Blanks are lexemes of their own, so the text is nothing but the lexemes side by side.
-/

namespace RecordQuery

namespace Sql

/-- The words of statements. -/
inductive Keyword
  | and
  | asc
  | between
  | by
  | count
  | desc
  | distinct
  | escape
  | exists
  | false
  | from
  | in
  | inner
  | is
  | join
  | like
  | limit
  | not
  | null
  | offset
  | on
  | or
  | order
  | select
  | true
  | where
  deriving DecidableEq, Repr

/-- The text of a keyword. -/
def Keyword.text : Keyword → String
  | .and => "AND"
  | .asc => "ASC"
  | .between => "BETWEEN"
  | .by => "BY"
  | .count => "COUNT"
  | .desc => "DESC"
  | .distinct => "DISTINCT"
  | .escape => "ESCAPE"
  | .exists => "EXISTS"
  | .false => "FALSE"
  | .from => "FROM"
  | .in => "IN"
  | .inner => "INNER"
  | .is => "IS"
  | .join => "JOIN"
  | .like => "LIKE"
  | .limit => "LIMIT"
  | .not => "NOT"
  | .null => "NULL"
  | .offset => "OFFSET"
  | .on => "ON"
  | .or => "OR"
  | .order => "ORDER"
  | .select => "SELECT"
  | .true => "TRUE"
  | .where => "WHERE"

/-- The names under which statements refer to rows. -/
inductive Alias
  /-- The root row. -/
  | root
  /-- The row of the join at a position. -/
  | join (index : Nat)
  /-- The row of a subquery. -/
  | inner
  deriving DecidableEq, Repr

/-- The text of an alias; joins are numbered from one. -/
def Alias.text : Alias → String
  | root => "t0"
  | join index => "j" ++ toString (index + 1)
  | inner => "m"

/-- The symbols of statements. -/
inductive Symbol
  | dot
  | comma
  | open
  | close
  | star
  | eq
  | ne
  | lt
  | le
  | gt
  | ge
  deriving DecidableEq, Repr

/-- The text of a symbol. -/
def Symbol.text : Symbol → String
  | .dot => "."
  | .comma => ","
  | .open => "("
  | .close => ")"
  | .star => "*"
  | .eq => "="
  | .ne => "<>"
  | .lt => "<"
  | .le => "<="
  | .gt => ">"
  | .ge => ">="

/-- A part of a statement. -/
inductive Lexeme
  | blank
  | keyword (k : Keyword)
  | row (a : Alias)
  | symbol (s : Symbol)
  /-- A quoted name. -/
  | name (s : String)
  /-- A quoted text. -/
  | literal (s : String)
  /-- The place of a parameter, by its number. -/
  | placeholder (n : Int32)
  /-- The numeral one. -/
  | one
  deriving DecidableEq, Repr

namespace Lexeme

/-- The characters of a lexeme. -/
def chars : Lexeme → List Char
  | blank => [' ']
  | keyword k => k.text.toList
  | row a => a.text.toList
  | symbol s => s.text.toList
  | name s => quoted '"' s.toList
  | literal s => quoted '\'' s.toList
  | placeholder n => '$' :: (toString n.toInt).toList
  | one => ['1']

/-- Groups of lexemes with a blank between any two. -/
def words (groups : List (List Lexeme)) : List Lexeme :=
  [blank].intercalate groups

/-- Groups of lexemes with a comma and a blank between any two. -/
def commas (groups : List (List Lexeme)) : List Lexeme :=
  [symbol .comma, blank].intercalate groups

/-- Lexemes in parentheses. -/
def parens (lexemes : List Lexeme) : List Lexeme :=
  symbol .open :: lexemes ++ [symbol .close]

end Lexeme

/-- The characters of a sequence of lexemes. -/
def renderChars (lexemes : List Lexeme) : List Char :=
  lexemes.flatMap Lexeme.chars

/-- The text of a sequence of lexemes. -/
def render (lexemes : List Lexeme) : String :=
  String.ofList (renderChars lexemes)

/-- A table, in its schema if one is given. -/
def tableLexemes (schema : Option String) (table : String) : List Lexeme :=
  match schema with
  | some schema => [.name schema, .symbol .dot, .name table]
  | none => [.name table]

/-- A column of the row with an alias. -/
structure ColumnName where
  row : Alias
  column : String
  deriving DecidableEq, Repr

/-- The lexemes of a column. -/
def ColumnName.lexemes (c : ColumnName) : List Lexeme :=
  [.row c.row, .symbol .dot, .name c.column]

end Sql

end RecordQuery
