import RecordQuery.Logic.Formula
import RecordQuery.Relation
import RecordQuery.Scalar.Comparison
import RecordQuery.Text.LikePattern

/-!
# Conditions

Conditions on the rows of a query: Boolean combinations of tests of columns and of collections.

## Main Definitions

* `Test` — a test of the value of a column
* `Presence` — a test of the rows of a collection
* `Atom`, `Condition` — tests at their columns and collections, and combinations of them
* `Binding` — a record and the rows chosen for the joins so far
* `Condition.truth` — the truth of a condition at a binding

## Design Notes

A test sees nothing but the value of its column, `none` where the value is null or missing.  All
tests of a missing value are unknown but for the tests whether it is missing.
-/

namespace RecordQuery

/-- The ways to compare a column with a scalar. -/
inductive Comparison
  | eq
  | ne
  | lt
  | le
  | gt
  | ge
  deriving DecidableEq, Repr

/-- Whether a comparison holds, given the order of its sides. -/
def Comparison.holds : Comparison → Ordering → Bool
  | eq, order => order == .eq
  | ne, order => order != .eq
  | lt, order => order == .lt
  | le, order => order != .gt
  | gt, order => order == .gt
  | ge, order => order != .lt

/-- A test of the value of a column. -/
inductive Test
  | compare (op : Comparison) (value : Scalar)
  | between (low high : Scalar)
  | oneOf (values : List Scalar)
  | isNull (negated : Bool)
  | isBool (b : Bool)
  | like (pattern : String) (escape : Option Char) (negated : Bool)
  deriving DecidableEq

/-- A test of the rows of a collection. -/
inductive Presence
  | empty (negated : Bool)
  | member (key : Scalar) (negated : Bool)
  deriving DecidableEq

namespace Test

/-- The escape character of a pattern that names none. -/
def defaultEscape : Char := '\\'

/-- Whether a value equals one of the given ones; unknown if none does and some cannot be
compared with it. -/
def oneOfTruth (value : Json) (values : List Scalar) : Truth :=
  Truth.any (values.map fun v => Truth.ofOption (value.equals? v))

/-- The truth of a test at the value of its column. -/
def truth : Test → Option Json → Truth
  | isNull negated, value? => Truth.ofBool (value?.isNone != negated)
  | _, none => .unknown
  | compare op v, some value => Truth.ofOption ((value.compareTo? v).map op.holds)
  | between low high, some value =>
    Truth.ofOption do
      let atLow ← value.compareTo? low
      let atHigh ← value.compareTo? high
      return Comparison.ge.holds atLow && Comparison.le.holds atHigh
  | oneOf values, some value => oneOfTruth value values
  | isBool b, some value => Truth.ofOption (value.bool?.map (· == b))
  | like pattern escape negated, some value =>
    Truth.ofOption do
      let text ← value.text?
      let fits ← like? text pattern (escape.getD defaultEscape)
      return fits != negated

end Test

namespace Presence

/-- Whether a row has the given key; a key that cannot be compared does not count. -/
def hasKey (keyColumn : String) (key : Scalar) (row : Json) : Bool :=
  ((row.field? keyColumn).bind fun value => value.equals? key).getD false

/-- The outcome of a test of the rows of a collection; `keyColumn` is their primary key. -/
def holds (keyColumn : String) (rows : List Json) : Presence → Bool
  | empty negated => rows.isEmpty != negated
  | member key negated => rows.any (hasKey keyColumn key) != negated

end Presence

/-- A test where it is made. -/
inductive Atom
  | column (column : Column) (test : Test)
  | related (related : Related) (presence : Presence)
  deriving DecidableEq

/-- A condition on the rows of a query. -/
abbrev Condition := Formula Atom

/-- A record and the rows chosen for the first joins of a query. -/
structure Binding where
  record : Json
  rows : List Json

namespace Binding

/-- The row that a source stands for. -/
def row? (binding : Binding) : Source → Option Json
  | .root => some binding.record
  | .join index => binding.rows[index]?

/-- The value object that is nested in a row as given. -/
def nested? (row : Json) : List Embedding → Option Json
  | [] => some row
  | e :: es => (row.field? e.property).bind fun value => nested? value es

/-- The value of a column; `none` if it is null or missing, or lies in a missing object. -/
def column? (binding : Binding) (column : Column) : Option Json :=
  ((binding.row? column.source).bind fun row => nested? row column.embedded).bind
    (Json.present? column.field)

/-- The rows of a collection, or `none` if its owner is not bound. -/
def related? (binding : Binding) (related : Related) : Option (List Json) :=
  (binding.row? related.owner).map (Json.rows related.collection.property)

end Binding

/-- The truth of a test at a binding. -/
def Atom.truth (binding : Binding) : Atom → Truth
  | column c test => test.truth (binding.column? c)
  | related r presence =>
    Truth.ofOption ((binding.related? r).map fun rows =>
      presence.holds r.collection.target.primaryKey rows)

/-- The truth of a condition at a binding. -/
def Condition.truth (condition : Condition) (binding : Binding) : Truth :=
  condition.eval (Atom.truth binding)

end RecordQuery
