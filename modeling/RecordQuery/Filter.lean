import RecordQuery.Restriction

/-!
# Filters

Filters are optional restrictions.  The unrestricted filter is neutral for both ways to combine
filters, so filters that are switched off drop out of a combination.

## Main Definitions

* `Filter` — no restriction, or one
* `Filter.combine`, `Filter.negate` — the connectives
* `Filter.all`, `Filter.any` — the combination of a list of filters, some of them absent
* `Root` — the root of a query with the joins made on it so far
* `Root.realize` — makes a condition of a filter
* `Selection` — what a filter amounts to in a query of its own
-/

namespace RecordQuery

/-- A constraint on the records of a table, or none. -/
inductive Filter
  | unrestricted
  | restricted (r : Restriction 0)

namespace Filter

/-- Whether the filter lets every record pass. -/
def isUnrestricted : Filter → Bool
  | unrestricted => true
  | restricted _ => false

/-- Combines two filters; the unrestricted one is neutral. -/
def combine (c : Connective) : Filter → Filter → Filter
  | unrestricted, y => y
  | x, unrestricted => x
  | restricted x, restricted y => restricted (.combine c x y)

/-- Both filters. -/
def and : Filter → Filter → Filter := combine .conj

/-- Either filter. -/
def or : Filter → Filter → Filter := combine .disj

/-- The complement of a filter; without a restriction there is nothing to negate. -/
def negate : Filter → Filter
  | unrestricted => unrestricted
  | restricted x => restricted (.not x)

instance : AndOp Filter := ⟨and⟩

instance : OrOp Filter := ⟨or⟩

instance : Complement Filter := ⟨negate⟩

/-- Combines the filters that are present, from the left. -/
def fold (c : Connective) (filters : List (Option Filter)) : Filter :=
  (filters.filterMap id).foldl (combine c) unrestricted

/-- All filters that are present. -/
def all : List (Option Filter) → Filter := fold .conj

/-- Any of the filters that are present. -/
def any : List (Option Filter) → Filter := fold .disj

/-- Tests a field of the root. -/
def field (name : String) (test : Test) : Filter :=
  restricted (.column ⟨.root, [], name⟩ test)

/-- Asks for one of the given values in a field of the root; no values ask for nothing. -/
def fieldIn (name : String) (values : List Scalar) : Filter :=
  if values.isEmpty then unrestricted else field name (.oneOf values)

/-- Tests a collection of the root. -/
def collection (c : Collection) (presence : Presence) : Filter :=
  restricted (.related .root c presence)

end Filter

/-- The root of a query, with the joins made on it so far. -/
structure Root where
  table : Table
  joins : List Join
  deriving DecidableEq, Repr

namespace Root

/-- A root without joins. -/
def fresh (table : Table) : Root := ⟨table, []⟩

/-- Makes a condition of a filter on a root, and adds the joins that it needs. -/
def realize (root : Root) : Filter → Option Condition × Root
  | .unrestricted => (none, root)
  | .restricted r =>
    let (condition, joins) := r.realize root.table Scope.empty root.joins.length
    (some condition, { root with joins := root.joins ++ joins })

end Root

/-- What a filter amounts to: the joins of a query and the condition on their rows, if any. -/
structure Selection where
  condition : Option Condition
  joins : List Join

/-- The selection of a filter in a query of its own. -/
def Filter.selection (table : Table) (filter : Filter) : Selection :=
  let (condition, root) := (Root.fresh table).realize filter
  ⟨condition, root.joins⟩

end RecordQuery
