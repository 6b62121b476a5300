import RecordQuery.Matching
import RecordQuery.QueryError
import RecordQuery.QueryOptions

/-!
# Stores of entities

A store holds entities in the order in which they were saved and answers filters on them.

## Main Definitions

* `EntityType` — the table of a type of entities and their records
* `Store` — entities in memory
* `Store.matching` — the entities that match a filter
* `Store.findAll`, `Store.findOne`, `Store.count`, `Store.exists?` — the queries

## Design Notes

A query looks at the records of all entities.  If one of them has no record the query fails with
the fault of the first such entity, even if other entities match.
-/

namespace RecordQuery

/-- The table of a type of entities, and the record of each entity, or the text that
tells why it has none. -/
structure EntityType (α : Type) where
  table : Table
  record : α → Except String Json

/-- Entities in memory, in the order in which they were saved. -/
structure Store (α : Type) where
  entities : List α

namespace Store

variable {α : Type}

/-- The store without entities. -/
def empty : Store α := ⟨[]⟩

/-- Saves an entity. -/
def save (store : Store α) (entity : α) : Store α := ⟨store.entities ++ [entity]⟩

/-- Saves entities in their order. -/
def saveAll (store : Store α) (entities : List α) : Store α := ⟨store.entities ++ entities⟩

/-- The number of entities. -/
def size (store : Store α) : Nat := store.entities.length

/-- Whether there are no entities. -/
def isEmpty (store : Store α) : Bool := store.entities.isEmpty

/-- The records of entities, each with its entity. -/
def records (type : EntityType α) (entities : List α) : Except QueryError (List (Json × α)) :=
  entities.mapM fun entity =>
    match type.record entity with
    | .ok record => .ok (record, entity)
    | .error reason => .error (.unserializable (RecordFault.ofText reason))

/-- The entities that match a filter, each with its record, in the order of the store. -/
def matching (type : EntityType α) (store : Store α) (filter : Filter) :
    Except QueryError (List (Json × α)) :=
  let selection := filter.selection type.table
  (records type store.entities).map fun records =>
    records.filter fun (record, _) => selection.accepts record

/-- The entities that match a filter, sorted, and of these the ones on the page asked for. -/
def findAllWith (type : EntityType α) (store : Store α) (filter : Filter)
    (options : QueryOptions) : Except QueryError (List α) :=
  (store.matching type filter).map fun found =>
    let entities := (options.sorting.sort Prod.fst found).map Prod.snd
    match options.page with
    | none => entities
    | some page => page.window entities

/-- The entities that match a filter, in the order of the store. -/
def findAll (type : EntityType α) (store : Store α) (filter : Filter) :
    Except QueryError (List α) :=
  store.findAllWith type filter {}

/-- The one entity that matches a filter, if any; it is an error if there are more. -/
def findOne (type : EntityType α) (store : Store α) (filter : Filter) :
    Except QueryError (Option α) :=
  (store.findAllWith type filter .single).bind fun
    | [] => .ok none
    | [entity] => .ok (some entity)
    | found => .error (.incorrectResultSize 1 found.length)

/-- The number of entities that match a filter. -/
def count (type : EntityType α) (store : Store α) (filter : Filter) : Except QueryError Nat :=
  (store.matching type filter).map List.length

/-- Whether some entity matches a filter. -/
def exists? (type : EntityType α) (store : Store α) (filter : Filter) :
    Except QueryError Bool :=
  (store.count type filter).map (0 < ·)

end Store

end RecordQuery
