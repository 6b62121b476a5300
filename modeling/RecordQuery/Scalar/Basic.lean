import RecordQuery.Json
import RecordQuery.Number.Decimal.Text
import RecordQuery.Time.Timestamp
import RecordQuery.Uuid

/-!
# Scalars

The typed values that columns are compared with.

## Main Definitions

* `Scalar` — a value of one of the seven column types
* `Scalar.toJson` — the value as it stands in a record
-/

namespace RecordQuery

/-- A typed value to compare a column with. -/
inductive Scalar
  | bool (b : Bool)
  | int (n : Int64)
  | float (x : Binary64)
  | text (s : String)
  | decimal (x : Decimal)
  | instant (t : Instant)
  | uuid (x : Uuid)
  deriving DecidableEq

namespace Scalar

/-- The value as it stands in a record.  Decimals, instants and identifiers are texts there, and
a binary number that is not finite has no form at all. -/
def toJson : Scalar → Json
  | bool b => .bool b
  | int n => .number (.integer n.toInt)
  | float x => .ofBinary64 x
  | text s => .text s
  | decimal x => .text x.text
  | instant t => .text t.text
  | uuid x => .text x.text

end Scalar

end RecordQuery
