import RecordQuery.Number.Binary64

/-!
# Records

Records are values of the JSON data model: what an entity shows of itself to be filtered.

## Main Definitions

* `Json.Number` — a number of a record, an integer or a finite binary one
* `Json` — a value of a record
* `Json.field?` — the value that an object has under a name
* `Json.rows` — the entries of an array

## Design Notes

Integers are exact.  A number of a record is an integer only if it is written as one; a binary
number is none, even where its value is whole.  Of two fields of one name the first one counts.
-/

namespace RecordQuery

/-- A number of a record. -/
inductive Json.Number
  | integer (n : Int)
  | real (x : Binary64) (finite : x.isFinite = true)
  deriving DecidableEq

/-- A value of a record. -/
inductive Json
  | null
  | bool (b : Bool)
  | number (n : Json.Number)
  | text (s : String)
  | array (entries : List Json)
  | object (fields : List (String × Json))

namespace Json

namespace Number

/-- The integer of a number, if it is one and fits a signed word of 64 bits. -/
def int64? : Number → Option Int
  | integer n => if -2 ^ 63 ≤ n ∧ n < 2 ^ 63 then some n else none
  | real _ _ => none

/-- The binary number nearest to a number. -/
def toBinary64 : Number → Binary64
  | integer n => Binary64.ofInt n
  | real x _ => x

end Number

/-- A binary number as a value of a record; one that is not finite is left out. -/
def ofBinary64 (x : Binary64) : Json :=
  if h : x.isFinite = true then number (.real x h) else null

/-- Whether the value is missing. -/
def isNull : Json → Bool
  | null => true
  | _ => false

/-- The truth value that the value is. -/
def bool? : Json → Option Bool
  | bool b => some b
  | _ => none

/-- The number that the value is. -/
def number? : Json → Option Number
  | number n => some n
  | _ => none

/-- The text that the value is. -/
def text? : Json → Option String
  | text s => some s
  | _ => none

/-- The entries, if the value is an array. -/
def array? : Json → Option (List Json)
  | array entries => some entries
  | _ => none

/-- The value under a name, if the value is an object that has one. -/
def field? (name : String) : Json → Option Json
  | object fields => fields.lookup name
  | _ => none

/-- The value under a name, if there is one that is not null. -/
def present? (name : String) (record : Json) : Option Json :=
  (record.field? name).filter fun value => !value.isNull

/-- The related rows under a name: the entries of an array, and no rows otherwise. -/
def rows (name : String) (record : Json) : List Json :=
  ((record.field? name).bind array?).getD []

end Json

end RecordQuery
