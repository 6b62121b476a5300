/-!
# Tables and relations

How the rows of tables hang together, and where a column or a related row is read from.

## Main Definitions

* `Table` — a table and its primary key
* `Collection`, `Reference`, `Relation` — the rows of another table that belong to a row
* `Embedding` — a value object that lies flattened in its owner's row
* `Source` — the root row of a query, or a row joined to it
* `Column`, `Related`, `Link` — a field, a collection and a relation, each seen from its source
* `Join` — a relation that is joined

## Design Notes

The joins of a query form a list, and `Source.join i` is the row that the join at position `i`
contributes.  A join knows its position, and it hangs off the root or off an earlier join.
-/

namespace RecordQuery

/-- A table with the column that tells its rows apart. -/
structure Table where
  name : String
  primaryKey : String
  deriving DecidableEq, Repr

/-- The rows of a table that point back at their owner. -/
structure Collection where
  /-- The property under which a record holds the rows. -/
  property : String
  /-- The column of the target that holds the owner's primary key. -/
  foreignKey : String
  target : Table
  deriving DecidableEq, Repr

/-- The one row that its owner points at, if any. -/
structure Reference where
  /-- The property under which a record holds the row. -/
  property : String
  /-- The column of the owner that holds the target's primary key. -/
  foreignKey : String
  target : Table
  deriving DecidableEq, Repr

/-- A relation that can be joined. -/
inductive Relation
  | collection (c : Collection)
  | reference (r : Reference)
  deriving DecidableEq, Repr

/-- A value object stored in the row of its owner. -/
structure Embedding where
  /-- The property under which a record holds the object. -/
  property : String
  /-- What the names of the object's columns start with. -/
  columnPrefix : String
  deriving DecidableEq, Repr

/-- The row that something is read from. -/
inductive Source
  | root
  | join (index : Nat)
  deriving DecidableEq, Repr

/-- A source together with the table that its row is from. -/
structure Place where
  source : Source
  table : Table
  deriving DecidableEq, Repr

/-- A field of a source. -/
structure Column where
  source : Source
  /-- The value objects around the field, outermost first. -/
  embedded : List Embedding
  field : String
  deriving DecidableEq, Repr

/-- The name of the column in its table: the parts that the value objects contribute, and the
field. -/
def Column.name (column : Column) : String :=
  String.join (column.embedded.map Embedding.columnPrefix) ++ column.field

/-- A collection, seen from the row that owns it. -/
structure Related where
  owner : Source
  ownerKey : String
  collection : Collection
  deriving DecidableEq, Repr

/-- The collection of a place. -/
def Collection.seenFrom (collection : Collection) (owner : Place) : Related :=
  ⟨owner.source, owner.table.primaryKey, collection⟩

/-- A relation, seen from the row that owns it. -/
inductive Link
  | collection (related : Related)
  | reference (owner : Source) (r : Reference)
  deriving DecidableEq, Repr

/-- An inner join to the rows of a relation. -/
structure Join where
  /-- The position among the joins of the query. -/
  index : Nat
  link : Link
  deriving DecidableEq, Repr

namespace Relation

/-- The table that the relation leads to. -/
def target : Relation → Table
  | collection c => c.target
  | reference r => r.target

/-- The relation of a place. -/
def seenFrom (owner : Place) : Relation → Link
  | collection c => .collection (c.seenFrom owner)
  | reference r => .reference owner.source r

end Relation

namespace Join

/-- A join to the rows of a collection. -/
@[match_pattern] def collection {index : Nat} (related : Related) : Join :=
  ⟨index, .collection related⟩

/-- A join to the row of a reference. -/
@[match_pattern] def reference {index : Nat} (owner : Source) (r : Reference) : Join :=
  ⟨index, .reference owner r⟩

/-- The source that the join hangs off. -/
def owner : Join → Source
  | collection related => related.owner
  | reference owner _ => owner

/-- The property under which the owner's record holds the joined rows. -/
def property : Join → String
  | collection related => related.collection.property
  | reference _ r => r.property

/-- The table of the joined rows. -/
def table : Join → Table
  | collection related => related.collection.target
  | reference _ r => r.target

/-- The column of the joined table that has to match. -/
def joinedColumn : Join → String
  | collection related => related.collection.foreignKey
  | reference _ r => r.target.primaryKey

/-- The column of the owner that has to match. -/
def ownerColumn : Join → String
  | collection related => related.ownerKey
  | reference _ r => r.foreignKey

end Join

end RecordQuery
