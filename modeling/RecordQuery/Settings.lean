import RecordQuery.QueryError

/-!
# Settings

The settings of the access to a database.

## Main Definitions

* `Settings` — the address, the schema, and the bounds on connections
* `Setting`, `Settings.ofList` — settings given one after the other, the
  last one of a kind counts
* `Settings.check` — whether the settings can be used, or why not
-/

namespace RecordQuery

/-- The settings of the access to a database. -/
structure Settings where
  address : String
  /-- The schema of all tables; without one the database looks for them itself. -/
  schema : Option String := none
  /-- The greatest number of open connections. -/
  maxConnections : UInt32 := 5
  /-- How many milliseconds to wait for a connection. -/
  acquireTimeout : Nat := 30000
  deriving DecidableEq, Repr

/-- One setting. -/
inductive Setting
  | schema (name : String)
  | maxConnections (n : UInt32)
  | acquireTimeout (milliseconds : Nat)
  deriving DecidableEq, Repr

namespace Settings

/-- Changes one setting. -/
def apply (settings : Settings) : Setting → Settings
  | .schema name => { settings with schema := some name }
  | .maxConnections n => { settings with maxConnections := n }
  | .acquireTimeout milliseconds => { settings with acquireTimeout := milliseconds }

/-- The settings for an address, with the given ones made in their order. -/
def ofList (address : String) (changes : List Setting) : Settings :=
  changes.foldl apply { address }

/-- Checks the settings: the schema first, which has to be a plain name as it becomes part of
statements, and then that there may be a connection at all. -/
def check (settings : Settings) : Except QueryError Unit :=
  match settings.schema.map Sql.checkIdentifier with
  | some (.error error) => .error (.invalidSchema error)
  | _ => if settings.maxConnections = 0 then .error .noConnections else .ok ()

/-- Whether an address starts with a scheme: a letter, then letters, digits and `+`, `-`, `.`,
up to a colon. -/
def hasScheme (address : String) : Bool :=
  match address.toList with
  | [] => false
  | c :: cs =>
    c.isAlpha &&
      (cs.dropWhile fun d => d.isAlphanum || d == '+' || d == '-' || d == '.').head? == some ':'

end Settings

end RecordQuery
