import RecordQuery.RecordFault
import RecordQuery.Sql.Identifier

/-!
# Errors

Making and combining filters never fails.  Errors arise when a filter is put to a store or to a
database, or from the settings of the latter.
-/

namespace RecordQuery

/-- Why a query has no answer. -/
inductive QueryError
  /-- The schema named in the settings is no plain name. -/
  | invalidSchema (error : Sql.IdentifierError)
  /-- The settings allow no connection at all. -/
  | noConnections
  /-- The address of the database names no scheme. -/
  | addressWithoutScheme
  /-- The database did not carry out a statement. -/
  | statementFailed
  /-- An entity has no record. -/
  | unserializable (fault : RecordFault)
  /-- There are more results than asked for. -/
  | incorrectResultSize (expected actual : Nat)
  deriving DecidableEq, Repr

/-- The text of an error. -/
def QueryError.message : QueryError → String
  | invalidSchema error => "Validation error: " ++ error.message
  | noConnections => "Validation error: max_connections must be at least 1"
  | addressWithoutScheme =>
    "Connection error: Database connection failed: error with configuration: " ++
      "relative URL without a base"
  | statementFailed => "SQL error"
  | unserializable fault => "JSON serialization error: " ++ fault.text
  | incorrectResultSize expected actual =>
    "Incorrect result size: expected at most " ++ toString expected ++
      ", got " ++ toString actual

end RecordQuery
