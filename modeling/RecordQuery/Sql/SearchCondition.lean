import RecordQuery.Condition
import RecordQuery.Sql.Lexeme

/-!
# Search conditions

Conditions in the form that stands in a statement: columns have their aliases and placeholders
stand for the values.

## Main Definitions

* `Sql.Predicate`, `Sql.SearchCondition` — tests with placeholders, and combinations of them
* `Sql.SearchCondition.lexemes` — how a search condition is written
* `Sql.Slots` — the number of the next placeholder, and the values of those before
* `Condition.inStatement` — the search condition of a condition

## Design Notes

A value gets its placeholder where it stands: the number of the next placeholder and
the list of the values go through the whole condition, and `Sql.Slots.push` is the
only step that changes them.

Every part of a junction and of a complement is written in parentheses, so the precedence of the
connectives does not matter.  A junction without parts and a choice among no values are written
as the constant that they amount to.
-/

namespace RecordQuery

/-- The symbol of a comparison. -/
def Comparison.symbol : Comparison → Sql.Symbol
  | eq => .eq
  | ne => .ne
  | lt => .lt
  | le => .le
  | gt => .gt
  | ge => .ge

/-- The alias of a source. -/
def Source.rowAlias : Source → Sql.Alias
  | root => .root
  | join index => .join index

namespace Sql

/-- The rows of a table that point at an owner, or the one of them with a given key. -/
structure Subquery where
  schema : Option String
  table : String
  foreignKey : String
  owner : ColumnName
  /-- The column of the key, and the placeholder that it has to equal. -/
  key : Option (String × Int32)
  deriving DecidableEq, Repr

/-- A test with placeholders for its values. -/
inductive Predicate
  | compare (c : ColumnName) (op : Comparison) (value : Int32)
  | between (c : ColumnName) (low high : Int32)
  | oneOf (c : ColumnName) (values : List Int32)
  | isNull (c : ColumnName) (negated : Bool)
  | isBool (c : ColumnName) (b : Bool)
  | like (c : ColumnName) (pattern : Int32) (escape : Option Char) (negated : Bool)
  | exists (rows : Subquery) (negated : Bool)
  deriving DecidableEq, Repr

/-- A combination of tests with placeholders. -/
abbrev SearchCondition := Formula Predicate

/-- The constant true or false. -/
def constantLexeme (b : Bool) : Lexeme :=
  .keyword (if b then .true else .false)

/-- The connective between the parts of a junction. -/
def connectiveLexeme : Connective → Lexeme
  | .conj => .keyword .and
  | .disj => .keyword .or

/-- The lexemes of a subquery. -/
def Subquery.lexemes (rows : Subquery) : List Lexeme :=
  let inner (column : String) := ColumnName.lexemes ⟨.inner, column⟩
  Lexeme.words ([
    [.keyword .select], [.one], [.keyword .from], tableLexemes rows.schema rows.table,
    [.row .inner], [.keyword .where],
    inner rows.foreignKey, [.symbol .eq], rows.owner.lexemes] ++
    match rows.key with
    | none => []
    | some (column, value) =>
      [[.keyword .and], inner column, [.symbol .eq], [.placeholder value]])

/-- The word for a complement, if there is one. -/
def negation (negated : Bool) : List (List Lexeme) :=
  if negated then [[.keyword .not]] else []

/-- The lexemes of a test. -/
def Predicate.lexemes : Predicate → List Lexeme
  | compare c op value => Lexeme.words [c.lexemes, [.symbol op.symbol], [.placeholder value]]
  | between c low high =>
    Lexeme.words [c.lexemes, [.keyword .between], [.placeholder low], [.keyword .and],
      [.placeholder high]]
  | oneOf _ [] => [constantLexeme false]
  | oneOf c (v :: vs) =>
    Lexeme.words [c.lexemes, [.keyword .in],
      Lexeme.parens (Lexeme.commas ((v :: vs).map fun n => [.placeholder n]))]
  | isNull c negated =>
    Lexeme.words ([c.lexemes, [.keyword .is]] ++ negation negated ++ [[.keyword .null]])
  | isBool c b => Lexeme.words [c.lexemes, [.symbol .eq], [constantLexeme b]]
  | like c pattern escape negated =>
    Lexeme.words ([c.lexemes] ++ negation negated ++
      [[.keyword .like], [.placeholder pattern]] ++
      match escape with
      | none => []
      | some e => [[.keyword .escape], [.literal (String.singleton e)]])
  | .exists rows negated =>
    Lexeme.words (negation negated ++ [[.keyword .exists], Lexeme.parens rows.lexemes])

mutual

/-- The lexemes of a search condition. -/
def SearchCondition.lexemes : SearchCondition → List Lexeme
  | .atom p => p.lexemes
  | .junction c [] => [constantLexeme c.identity]
  | .junction c (t :: ts) =>
    [.blank, connectiveLexeme c, .blank].intercalate (SearchCondition.partLexemes (t :: ts))
  | .not f => .keyword .not :: .blank :: Lexeme.parens (SearchCondition.lexemes f)

/-- The lexemes of the parts of a junction, each in parentheses. -/
def SearchCondition.partLexemes : List SearchCondition → List (List Lexeme)
  | [] => []
  | f :: fs => Lexeme.parens (SearchCondition.lexemes f) :: SearchCondition.partLexemes fs

end

/-- The placeholders handed out so far: the number of the next one, and the values of those. -/
structure Slots where
  next : Int32
  parameters : List Scalar

/-- Hands out the next placeholder, for a value. -/
def Slots.push (value : Scalar) : StateM Slots Int32 :=
  modifyGet fun slots =>
    (slots.next, { next := slots.next + 1, parameters := slots.parameters ++ [value] })

end Sql

/-- The column as it is called in a statement. -/
def Column.inStatement (column : Column) : Sql.ColumnName :=
  ⟨column.source.rowAlias, column.name⟩

/-- The rows of a collection, or the one of them with a given key. -/
def Related.subquery (schema : Option String) (related : Related)
    (key : Option (String × Int32)) : Sql.Subquery :=
  { schema
    table := related.collection.target.name
    foreignKey := related.collection.foreignKey
    owner := ⟨related.owner.rowAlias, related.ownerKey⟩
    key }

/-- The test of a column as it stands in a statement. -/
def Test.inStatement (c : Sql.ColumnName) : Test → StateM Sql.Slots Sql.Predicate
  | compare op value => return .compare c op (← Sql.Slots.push value)
  | between low high => return .between c (← Sql.Slots.push low) (← Sql.Slots.push high)
  | oneOf values => return .oneOf c (← values.mapM Sql.Slots.push)
  | isNull negated => return .isNull c negated
  | isBool b => return .isBool c b
  | like pattern escape negated =>
    return .like c (← Sql.Slots.push (.text pattern)) escape negated

/-- The test of a collection as it stands in a statement.  Being empty is not to exist. -/
def Presence.inStatement (schema : Option String) (related : Related) :
    Presence → StateM Sql.Slots Sql.Predicate
  | empty negated => return .exists (related.subquery schema none) (!negated)
  | member key negated => do
    let placeholder ← Sql.Slots.push key
    let key := (related.collection.target.primaryKey, placeholder)
    return .exists (related.subquery schema (some key)) negated

/-- The atom as it stands in a statement. -/
def Atom.inStatement (schema : Option String) : Atom → StateM Sql.Slots Sql.Predicate
  | column c test => test.inStatement c.inStatement
  | related r presence => presence.inStatement schema r

/-- The condition as it stands in a statement: its atoms take their placeholders from left to
right. -/
def Condition.inStatement (schema : Option String) (condition : Condition) :
    StateM Sql.Slots Sql.SearchCondition :=
  condition.mapM (Atom.inStatement schema)

end RecordQuery
