import RecordQuery.Proofs.Binding
import RecordQuery.Proofs.Realization

/-!
# Wiring of joins

The joins of a root form a list, and a join is referred to by its position.  Whatever is made on
a root, each join follows a relation from the root itself or from the row of a join before it,
by the columns of the two tables that it connects.

## Main Definitions

* `Place.IsOn` — a place is the root or the row of one of the joins, with the table of that row
* `IsWired` — the lists of joins that arise on a root, one join after the other

## Main Statements

* `IsWired.follows` — the join at a position follows a relation from a place before it
* `IsWired.index_eq` — the index of a join is its position
* `Base.isOn_resolve` — a base that is resolved is a place on the root, at
  the position of its join
* `Restriction.isWired_realize`, `Filter.isWired_selection` — realizing keeps joins wired

## Design Notes

`IsWired` grows by one join at the end, as a root does.  A place that is on a root stays on it,
so the places in scope and the joins can be followed through a restriction side by side.
-/

namespace RecordQuery

/-- The table of the row that a source stands for, on a root of a table with some joins. -/
def Source.table? (table : Table) (joins : List Join) : Source → Option Table
  | root => some table
  | join index => joins[index]?.map Join.table

/-- Whether a place is the root or the row of one of the joins. -/
def Place.IsOn (table : Table) (joins : List Join) (place : Place) : Prop :=
  place.source.table? table joins = some place.table

/-- The lists of joins that arise on a root of a table: each join follows a relation from a
place that is on the root before it, and has the number of joins before it for its index. -/
inductive IsWired (table : Table) : List Join → Prop
  | nil : IsWired table []
  | concat {joins : List Join} {owner : Place} (relation : Relation) (h : IsWired table joins)
    (howner : owner.IsOn table joins) :
    IsWired table (joins ++ [⟨joins.length, relation.seenFrom owner⟩])

@[simp] theorem Relation.table_seenFrom (index : Nat) (owner : Place) (r : Relation) :
    (Join.mk index (r.seenFrom owner)).table = r.target := by
  cases r <;> rfl

@[simp] theorem Relation.owner_seenFrom (index : Nat) (owner : Place) (r : Relation) :
    (Join.mk index (r.seenFrom owner)).owner = owner.source := by
  cases r <;> rfl

section places

variable {table : Table} {joins : List Join} {place : Place}

theorem Place.isOn_root : Place.IsOn table joins ⟨.root, table⟩ := rfl

/-- The row of the last join is a place. -/
theorem Place.isOn_concat (table : Table) (joins : List Join) (join : Join) :
    Place.IsOn table (joins ++ [join]) ⟨.join joins.length, join.table⟩ := by
  show (joins ++ [join])[joins.length]?.map Join.table = some join.table
  rw [List.getElem?_concat_length, Option.map_some]

/-- A place stays on a root that gets more joins. -/
theorem Place.IsOn.append (h : place.IsOn table joins) (more : List Join) :
    place.IsOn table (joins ++ more) := by
  obtain ⟨source, target⟩ := place
  cases source with
  | root => exact h
  | join index =>
    obtain ⟨join, hjoin, htable⟩ := Option.map_eq_some_iff.1 h
    have hindex : index < joins.length := (List.getElem?_eq_some_iff.1 hjoin).1
    show (joins ++ more)[index]?.map Join.table = some target
    rw [List.getElem?_append_left hindex, hjoin, Option.map_some, htable]

theorem Place.IsOn.isBelow (h : place.IsOn table joins) :
    place.source.IsBelow joins.length := by
  obtain ⟨source, target⟩ := place
  cases source with
  | root => trivial
  | join index =>
    obtain ⟨join, hjoin, -⟩ := Option.map_eq_some_iff.1 h
    exact (List.getElem?_eq_some_iff.1 hjoin).1

end places

/-! ## One join after the other -/

/-- **The join at a position follows a relation from a place before it.** -/
theorem IsWired.follows {table : Table} {joins : List Join} (h : IsWired table joins) {i : Nat}
    {join : Join} (hjoin : joins[i]? = some join) :
    ∃ (owner : Place) (relation : Relation),
      owner.IsOn table (joins.take i) ∧ join = ⟨i, relation.seenFrom owner⟩ := by
  induction h with
  | nil => simp at hjoin
  | @concat joins owner relation _ howner ih =>
    rcases Nat.lt_or_ge i joins.length with hi | hi
    · rw [List.getElem?_append_left hi] at hjoin
      rw [List.take_append_of_le_length (Nat.le_of_lt hi)]
      exact ih hjoin
    · have hlt := (List.getElem?_eq_some_iff.1 hjoin).1
      rw [List.length_append, List.length_singleton] at hlt
      obtain rfl : i = joins.length := by omega
      rw [List.getElem?_concat_length, Option.some.injEq] at hjoin
      rw [List.take_left]
      exact ⟨owner, relation, howner, hjoin.symm⟩

/-- **The index of a join is its position.** -/
theorem IsWired.index_eq {table : Table} {joins : List Join} (h : IsWired table joins) {i : Nat}
    {join : Join} (hjoin : joins[i]? = some join) : join.index = i := by
  obtain ⟨owner, relation, -, rfl⟩ := h.follows hjoin
  rfl

theorem IsWired.map_index {table : Table} {joins : List Join} (h : IsWired table joins) :
    joins.map Join.index = List.range joins.length := by
  refine List.ext_getElem (by simp) fun i hi hi' => ?_
  rw [List.getElem_map, List.getElem_range]
  exact h.index_eq (List.getElem?_eq_getElem _)

/-- A join hangs off the root or a join before it. -/
theorem IsWired.isBelow_owner {table : Table} {joins : List Join} (h : IsWired table joins)
    {i : Nat} {join : Join} (hjoin : joins[i]? = some join) : join.owner.IsBelow i := by
  obtain ⟨owner, relation, howner, rfl⟩ := h.follows hjoin
  have hi : i < joins.length := (List.getElem?_eq_some_iff.1 hjoin).1
  have hbelow := howner.isBelow
  rwa [List.length_take_of_le (Nat.le_of_lt hi), ← relation.owner_seenFrom i owner] at hbelow

/-! ## Realizing -/

section realize

variable {n : Nat} {table : Table} {scope : Scope n} {joins : List Join}

/-- **A base stands for a place on the root**: where a join is made for it, the position of that
join. -/
theorem Base.isOn_resolve (hscope : ∀ i, (scope i).IsOn table joins) (base : Base n) :
    (base.resolve table scope joins.length).1.IsOn table
      (joins ++ (base.resolve table scope joins.length).2) := by
  cases base with
  | root => exact Place.isOn_root
  | bound i => exact (hscope i).append []
  | joined base relation =>
    rw [resolve_joined, ← List.append_assoc, ← List.length_append]
    have hplace := Place.isOn_concat table (joins ++ (base.resolve table scope joins.length).2)
      ⟨(joins ++ (base.resolve table scope joins.length).2).length,
        relation.seenFrom (base.resolve table scope joins.length).1⟩
    rwa [relation.table_seenFrom] at hplace

theorem Base.isWired_resolve (hscope : ∀ i, (scope i).IsOn table joins)
    (hjoins : IsWired table joins) (base : Base n) :
    IsWired table (joins ++ (base.resolve table scope joins.length).2) := by
  induction base with
  | root => rwa [resolve, List.append_nil]
  | bound i => rwa [resolve, List.append_nil]
  | joined base relation ih =>
    rw [resolve_joined, ← List.append_assoc, ← List.length_append]
    exact .concat relation ih (base.isOn_resolve hscope)

/-- **Realizing a restriction keeps the joins wired.** -/
theorem Restriction.isWired_realize (hscope : ∀ i, (scope i).IsOn table joins)
    (hjoins : IsWired table joins) (r : Restriction n) :
    IsWired table (joins ++ (r.realize table scope joins.length).2) := by
  induction r generalizing joins with
  | column path test => exact path.base.isWired_resolve hscope hjoins
  | related base collection presence => exact base.isWired_resolve hscope hjoins
  | constant c => rwa [realize_constant, List.append_nil]
  | combine c x y ihx ihy =>
    rw [realize_combine, ← List.append_assoc, ← List.length_append]
    exact ihy (fun i => (hscope i).append _) (ihx hscope hjoins)
  | not x ih => exact ih hscope hjoins
  | withJoin base body ih =>
    rw [realize_withJoin, ← List.append_assoc, ← List.length_append]
    refine ih (fun i => ?_) (base.isWired_resolve hscope hjoins)
    -- the new row is a place of its own, and those in scope stay on the root
    refine Fin.cases ?_ (fun i => ?_) i
    · exact base.isOn_resolve hscope
    · exact (hscope i).append _

end realize

/-- The joins of a filter in a query of its own are wired. -/
theorem Filter.isWired_selection (table : Table) (filter : Filter) :
    IsWired table (filter.selection table).joins := by
  cases filter with
  | unrestricted => exact .nil
  | restricted r =>
    have hscope : ∀ i, (Scope.empty i).IsOn table [] := fun i => i.elim0
    exact r.isWired_realize hscope .nil

end RecordQuery
