import RecordQuery.Filter

/-!
# Matching records

Decides filters on records.  Joins are inner joins: a record matches when some choice of joined
rows makes the condition true, so it never matches where a join has no rows.

## Main Definitions

* `Join.rowsAt` — the rows that a join offers, given those chosen for the joins before it
* `Condition.holdsBelow` — whether some choice of rows for the remaining joins fits
* `Selection.accepts`, `Filter.accepts` — whether a record matches
-/

namespace RecordQuery

/-- The rows that a join offers at a binding of the joins before it: the entries of a
collection, or the row of a reference unless it is null. -/
def Join.rowsAt (binding : Binding) (join : Join) : List Json :=
  match binding.row? join.owner, join with
  | none, _ => []
  | some owner, .collection related => owner.rows related.collection.property
  | some owner, .reference _ r => (owner.present? r.property).toList

/-- Binds the row of one more join. -/
def Binding.push (binding : Binding) (row : Json) : Binding :=
  { binding with rows := binding.rows ++ [row] }

/-- Whether some choice of rows for the remaining joins makes the condition true. -/
def Condition.holdsBelow (condition : Condition) (binding : Binding) : List Join → Bool
  | [] => condition.truth binding == .yes
  | join :: joins =>
    (join.rowsAt binding).any fun row => condition.holdsBelow (binding.push row) joins

/-- Whether a record matches a selection. -/
def Selection.accepts (selection : Selection) (record : Json) : Bool :=
  match selection.condition with
  | none => true
  | some condition => condition.holdsBelow ⟨record, []⟩ selection.joins

/-- Whether a record of a table matches a filter. -/
def Filter.accepts (table : Table) (filter : Filter) (record : Json) : Bool :=
  (filter.selection table).accepts record

end RecordQuery
