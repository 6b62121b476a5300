import RecordQuery.Number.Decimal.Binary
import RecordQuery.Scalar.Basic

/-!
# Comparing records with scalars

## Main Definitions

* `Json.decimal?` — a value of a record, read as a decimal
* `Json.compareTo?` — the order of a value of a record relative to a scalar
* `Json.equals?` — whether a value of a record equals a scalar

## Design Notes

The scalar fixes how the value is read.  A value that cannot be read so is not comparable, which
is `none`; a test of it is unknown then.  Integers are compared exactly where both sides fit a
signed word of 64 bits, and as binary numbers otherwise.
-/

namespace RecordQuery

namespace Json

/-- A value of a record as a decimal: the text of one, or a number. -/
def decimal? : Json → Option Decimal
  | text s => Decimal.read? s
  | number n =>
    match n.int64? with
    | some i => Decimal.ofInt? i
    | none => Decimal.ofBinary64? n.toBinary64
  | _ => none

/-- The order of a number of a record relative to a signed word of 64 bits. -/
def Number.compareTo? (number : Number) (n : Int64) : Option Ordering :=
  match number.int64? with
  | some i => some (compare i n.toInt)
  | none => number.toBinary64.compare? (Binary64.ofInt n.toInt)

/-- The order of a value of a record relative to a scalar, if they can be compared. -/
def compareTo? (value : Json) : Scalar → Option Ordering
  | .bool b => value.bool?.map fun other => compare other b
  | .int n => value.number?.bind fun other => other.compareTo? n
  | .float x => value.number?.bind fun other => other.toBinary64.compare? x
  | .text s => value.text?.map fun other => compare other s
  | .decimal x => value.decimal?.map fun other => other.compare x
  | .instant t => (value.text?.bind Instant.read?).map fun other => other.compare t
  | .uuid x => (value.text?.bind Uuid.read?).map fun other => other.compare x

/-- Whether a value of a record equals a scalar, if they can be compared. -/
def equals? (value : Json) (scalar : Scalar) : Option Bool :=
  (value.compareTo? scalar).map (· == .eq)

end Json

end RecordQuery
