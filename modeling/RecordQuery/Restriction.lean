import RecordQuery.Condition

/-!
# Restrictions

Restrictions as they are written, with paths that navigate from the root of a query through its
relations, and what they become when a query is made of them.

## Main Definitions

* `Base` — where a path starts: the root, a row bound before, or a join from another base
* `Path` — a column at a base
* `Restriction` — a condition over paths; `Restriction n` has `n` bound rows in scope
* `Restriction.realize` — the condition on sources, and the joins that the paths need

## Design Notes

A base `joined` makes a join of its own each time it is met.  To use one joined row twice, bind
it with `withJoin`.  Joins are made from left to right, and those of a base before the one that
hangs off it.  Where `start` joins exist already, the first new one gets the position `start`;
nothing else about the existing joins matters.
-/

namespace RecordQuery

/-- Where a path starts, with `n` bound rows in scope, the innermost first. -/
inductive Base (n : Nat)
  | root
  | bound (i : Fin n)
  | joined (base : Base n) (relation : Relation)
  deriving DecidableEq, Repr

/-- A column at a base. -/
structure Path (n : Nat) where
  base : Base n
  /-- The value objects around the field, outermost first. -/
  embedded : List Embedding
  field : String
  deriving DecidableEq, Repr

/-- A condition over paths. -/
inductive Restriction : Nat → Type
  | column {n : Nat} (path : Path n) (test : Test) : Restriction n
  | related {n : Nat} (base : Base n) (collection : Collection) (presence : Presence) :
    Restriction n
  | constant {n : Nat} (c : Connective) : Restriction n
  | combine {n : Nat} (c : Connective) (x y : Restriction n) : Restriction n
  | not {n : Nat} (x : Restriction n) : Restriction n
  | withJoin {n : Nat} (base : Base n) (body : Restriction (n + 1)) : Restriction n

/-- The places of the bound rows in scope. -/
abbrev Scope (n : Nat) := Fin n → Place

namespace Scope

/-- The scope without bound rows. -/
def empty : Scope 0 := fun i => i.elim0

/-- Binds one more row. -/
def extend {n : Nat} (scope : Scope n) (place : Place) : Scope (n + 1) :=
  Fin.cases place scope

end Scope

/-- The place that a base stands for, and the joins made for it. -/
def Base.resolve {n : Nat} (table : Table) (scope : Scope n) (start : Nat) :
    Base n → Place × List Join
  | root => (⟨.root, table⟩, [])
  | bound i => (scope i, [])
  | joined base relation =>
    let (owner, joins) := base.resolve table scope start
    let index := start + joins.length
    (⟨.join index, relation.target⟩, joins ++ [⟨index, relation.seenFrom owner⟩])

/-- The column that a path stands for, and the joins made for it. -/
def Path.resolve {n : Nat} (table : Table) (scope : Scope n) (start : Nat) (path : Path n) :
    Column × List Join :=
  let (place, joins) := path.base.resolve table scope start
  (⟨place.source, path.embedded, path.field⟩, joins)

/-- The condition that a restriction stands for, and the joins made for it. -/
def Restriction.realize {n : Nat} (table : Table) (scope : Scope n) (start : Nat) :
    Restriction n → Condition × List Join
  | column path test =>
    let (c, joins) := path.resolve table scope start
    (.atom (.column c test), joins)
  | related base collection presence =>
    let (owner, joins) := base.resolve table scope start
    (.atom (.related (collection.seenFrom owner) presence), joins)
  | constant c => (.junction c [], [])
  | combine c x y =>
    let (p, joins) := x.realize table scope start
    let (q, more) := y.realize table scope (start + joins.length)
    (.combine c p q, joins ++ more)
  | not x =>
    let (p, joins) := x.realize table scope start
    (.not p, joins)
  | withJoin base body =>
    let (place, joins) := base.resolve table scope start
    let (p, more) := body.realize table (scope.extend place) (start + joins.length)
    (p, joins ++ more)

end RecordQuery
