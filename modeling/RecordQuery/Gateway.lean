import RecordQuery.Settings
import RecordQuery.Sql.Statement

/-!
# Gateways to a database

A gateway turns requests into statements and reports each statement before it is carried out.

## Main Definitions

* `Gateway` — settings that passed their check
* `Gateway.ofSettings`, `Gateway.connectBy` — a gateway over given connections, or over its own
* `Request` — what may be asked with a filter
* `Gateway.statement` — the statement for a request
* `Event` — what a gateway reports
* `Gateway.attempt` — a request to a database that cannot be reached
-/

namespace RecordQuery

/-- Access to a database: settings that can be used. -/
structure Gateway where
  settings : Settings
  check_eq_ok : settings.check = .ok ()

/-- What may be asked with a filter. -/
inductive Request
  | all
  | allWith (options : QueryOptions)
  | one
  | count
  | exists
  deriving DecidableEq

/-- What a gateway reports. -/
inductive Event
  /-- A statement with so many parameters is about to be carried out. -/
  | executing (statement : String) (parameters : Nat)
  /-- These are its parameters. -/
  | bound (parameters : List Json)

namespace Event

/-- How much an event matters. -/
def level : Event → String
  | executing _ _ => "DEBUG"
  | bound _ => "TRACE"

/-- What an event says. -/
def message : Event → String
  | executing _ _ => "Executing specification query"
  | bound _ => "Bound specification parameters"

end Event

namespace Gateway

/-- The gateway over connections made elsewhere. -/
def ofSettings (settings : Settings) : Except QueryError Gateway :=
  match h : settings.check with
  | .ok () => .ok ⟨settings, h⟩
  | .error error => .error error

/-- The gateway over connections of its own.  The first one is opened with `dial`, once the
settings have passed their check. -/
def connectBy {m : Type → Type} [Monad m] (dial : Settings → m (Except QueryError Unit))
    (settings : Settings) : m (Except QueryError Gateway) :=
  match ofSettings settings with
  | .error error => pure (.error error)
  | .ok gateway => do
    let dialed ← dial settings
    return dialed.map fun () => gateway

/-- What comes of an address before a database is involved: it has to name a scheme. -/
def resolve (settings : Settings) : Except QueryError Unit :=
  if Settings.hasScheme settings.address then .ok () else .error .addressWithoutScheme

/-- The gateway over connections of its own, where every address that names a scheme answers. -/
def connect (settings : Settings) : Except QueryError Gateway :=
  Id.run (connectBy (fun settings => pure (resolve settings)) settings)

/-- The statement for a request. -/
def statement (gateway : Gateway) (table : Table) (filter : Filter) : Request → Sql.Statement
  | .all => filter.select table gateway.settings.schema {}
  | .allWith options => filter.select table gateway.settings.schema options
  | .one => filter.select table gateway.settings.schema .single
  | .count => filter.countStatement table gateway.settings.schema
  | .exists => filter.existsStatement table gateway.settings.schema

/-- What is reported of a statement before it is carried out. -/
def events (statement : Sql.Statement) : List Event :=
  [.executing statement.text statement.parameters.length,
    .bound (statement.parameters.map Scalar.toJson)]

/-- A request while the database cannot be reached: the statement is reported and then fails. -/
def attempt (gateway : Gateway) (table : Table) (filter : Filter) (request : Request) :
    List Event × QueryError :=
  (events (gateway.statement table filter request), .statementFailed)

end Gateway

end RecordQuery
