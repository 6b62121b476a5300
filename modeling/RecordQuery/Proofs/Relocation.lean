import RecordQuery.Proofs.Choice
import RecordQuery.Proofs.Realization

/-!
# Relocating conditions

A condition that is made where joins exist already is the condition made on its own, with the
places of its joins moved on.  It reads the same rows, whatever rows the joins in front have.

## Main Definitions

* `Source.shift`, `Join.shift`, `Condition.shift` and so on — the joins moved on by some places
* `Condition.IsBelow` — the condition reads from the root and the first joins only

## Main Statements

* `Restriction.realize_shift` — making a condition commutes with moving it on
* `Restriction.isBelow_realize` — a condition reads from its own joins only
* `Binding.row?_shift`, `Condition.truth_shift` — rows in front are passed over
* `Binding.row?_append`, `Condition.truth_append` — rows behind are not seen
* `Binding.completes_append_shift` — where two lists of joins stand side by side, one row for
  each join is one for each of the first ones, and then one for each of the second ones

## Design Notes

Joins are moved on by as many places as there are rows in front of theirs, so the statements on
bindings are about `front ++ rows` and a shift by `front.length`.
-/

namespace RecordQuery

/-! ## Moved sources -/

section shift

variable (m : Nat)

/-- The source, with its join moved on by `m` places. -/
def Source.shift : Source → Source
  | root => root
  | join index => join (m + index)

def Place.shift (place : Place) : Place := { place with source := place.source.shift m }

def Column.shift (c : Column) : Column := { c with source := c.source.shift m }

def Related.shift (r : Related) : Related := { r with owner := r.owner.shift m }

def Link.shift : Link → Link
  | collection related => collection (related.shift m)
  | reference owner r => reference (owner.shift m) r

/-- The join, with its place and the one that it hangs off moved on. -/
def Join.shift (join : Join) : Join := ⟨m + join.index, join.link.shift m⟩

def Atom.shift : Atom → Atom
  | column c test => column (c.shift m) test
  | related r presence => related (r.shift m) presence

/-- The condition, with all sources that it reads from moved on. -/
def Condition.shift (condition : Condition) : Condition := condition.map (Atom.shift m)

/-- The places of the bound rows, all moved on. -/
def Scope.shift {n : Nat} (scope : Scope n) : Scope n := fun i => (scope i).shift m

@[simp] theorem Atom.source_shift (a : Atom) : (a.shift m).source = a.source.shift m := by
  cases a <;> rfl

@[simp] theorem Join.owner_shift (join : Join) : (join.shift m).owner = join.owner.shift m := by
  obtain ⟨index, link⟩ := join
  cases link <;> rfl

theorem Relation.seenFrom_shift (owner : Place) (r : Relation) :
    r.seenFrom (owner.shift m) = (r.seenFrom owner).shift m := by
  cases r <;> rfl

theorem Scope.shift_empty : Scope.empty.shift m = Scope.empty := funext fun i => i.elim0

theorem Scope.shift_extend {n : Nat} (scope : Scope n) (place : Place) :
    (scope.extend place).shift m = (scope.shift m).extend (place.shift m) := by
  funext i
  refine Fin.cases ?_ (fun i => ?_) i <;> rfl

theorem Base.resolve_shift {n : Nat} (table : Table) (scope : Scope n) (start : Nat)
    (base : Base n) :
    base.resolve table (scope.shift m) (m + start)
      = ((base.resolve table scope start).1.shift m,
          (base.resolve table scope start).2.map (Join.shift m)) := by
  induction base with
  | root => rfl
  | bound i => rfl
  | joined base relation ih =>
    rw [resolve_joined, ih, resolve_joined, List.map_append, List.map_singleton,
      Relation.seenFrom_shift, List.length_map, Nat.add_assoc]
    rfl

/-- **A condition made where `m` more joins exist is the condition moved on by `m` places**, and
so are the joins that it needs. -/
theorem Restriction.realize_shift {n : Nat} (table : Table) (scope : Scope n) (start : Nat)
    (r : Restriction n) :
    r.realize table (scope.shift m) (m + start)
      = ((r.realize table scope start).1.shift m,
          (r.realize table scope start).2.map (Join.shift m)) := by
  induction r generalizing start with
  | column path test =>
    rw [realize_column, Base.resolve_shift, realize_column]
    rfl
  | related base collection presence =>
    rw [realize_related, Base.resolve_shift, realize_related]
    rfl
  | constant c => rfl
  | combine c x y ihx ihy =>
    rw [realize_combine, ihx, List.length_map, Nat.add_assoc, ihy, realize_combine,
      List.map_append, Condition.shift, Condition.shift, Condition.shift, Formula.map_combine]
  | not x ih =>
    rw [realize_not, ih, realize_not]
    rfl
  | withJoin base body ih =>
    rw [realize_withJoin, Base.resolve_shift, List.length_map, Nat.add_assoc,
      ← Scope.shift_extend, ih, realize_withJoin, List.map_append]

end shift

/-! ## Conditions on the first joins -/

/-- Whether the condition reads from the root and the first `n` joins only. -/
def Condition.IsBelow (n : Nat) (condition : Condition) : Prop :=
  ∀ a ∈ condition.atoms, a.source.IsBelow n

theorem Source.IsBelow.mono {m n : Nat} {source : Source} (h : source.IsBelow m) (hle : m ≤ n) :
    source.IsBelow n := by
  cases source with
  | root => trivial
  | join index => exact Nat.lt_of_lt_of_le h hle

theorem Condition.IsBelow.mono {m n : Nat} {condition : Condition} (h : condition.IsBelow m)
    (hle : m ≤ n) : condition.IsBelow n :=
  fun a ha => (h a ha).mono hle

/-- A base stands for a place that is in scope or for one of the joins made for it. -/
theorem Base.isBelow_resolve {n : Nat} {table : Table} {scope : Scope n} {start : Nat}
    (hscope : ∀ i, (scope i).source.IsBelow start) (base : Base n) :
    (base.resolve table scope start).1.source.IsBelow
      (start + (base.resolve table scope start).2.length) := by
  cases base with
  | root => trivial
  | bound i => exact hscope i
  | joined base relation =>
    rw [resolve_joined, List.length_append, List.length_singleton]
    exact Nat.lt_succ_self _

/-- **A condition reads from its own joins only**, and from the bound rows in scope. -/
theorem Restriction.isBelow_realize {n : Nat} (table : Table) {scope : Scope n} {start : Nat}
    (hscope : ∀ i, (scope i).source.IsBelow start) (r : Restriction n) :
    (r.realize table scope start).1.IsBelow
      (start + (r.realize table scope start).2.length) := by
  induction r generalizing start with
  | column path test =>
    rw [realize_column]
    intro a ha
    obtain rfl := List.mem_singleton.1 ha
    exact path.base.isBelow_resolve hscope
  | related base collection presence =>
    rw [realize_related]
    intro a ha
    obtain rfl := List.mem_singleton.1 ha
    exact base.isBelow_resolve hscope
  | constant c =>
    intro a ha
    rw [realize_constant, Formula.atoms_junction] at ha
    exact absurd ha List.not_mem_nil
  | combine c x y ihx ihy =>
    rw [realize_combine, List.length_append, ← Nat.add_assoc]
    -- the joins of the second side come after those of the first, so both bounds hold at its
    -- end
    intro a ha
    rw [Formula.atoms_combine, List.mem_append] at ha
    rcases ha with ha | ha
    · exact (ihx hscope a ha).mono (Nat.le_add_right _ _)
    · exact ihy (fun i => (hscope i).mono (Nat.le_add_right _ _)) a ha
  | not x ih => exact ih hscope
  | withJoin base body ih =>
    rw [realize_withJoin, List.length_append, ← Nat.add_assoc]
    refine ih fun i => ?_
    refine Fin.cases ?_ (fun i => ?_) i
    · exact base.isBelow_resolve hscope
    · exact (hscope i).mono (Nat.le_add_right _ _)

/-! ## Rows in front and behind -/

section rows

variable {record : Json} {front rows more : List Json}

theorem Binding.row?_shift (source : Source) :
    Binding.row? ⟨record, front ++ rows⟩ (source.shift front.length)
      = Binding.row? ⟨record, rows⟩ source := by
  cases source with
  | root => rfl
  | join index =>
    show (front ++ rows)[front.length + index]? = rows[index]?
    rw [List.getElem?_append_right (Nat.le_add_right _ _), Nat.add_sub_cancel_left]

theorem Binding.row?_append {source : Source} (h : source.IsBelow rows.length) :
    Binding.row? ⟨record, rows ++ more⟩ source = Binding.row? ⟨record, rows⟩ source := by
  cases source with
  | root => rfl
  | join index => exact List.getElem?_append_left h

/-- An atom that is moved on passes over the rows in front. -/
theorem Atom.truth_shift (a : Atom) :
    (a.shift front.length).truth ⟨record, front ++ rows⟩ = a.truth ⟨record, rows⟩ := by
  cases a with
  | column c test =>
    simp only [shift, truth, Column.shift, Binding.column?, Binding.row?_shift]
  | related r presence =>
    simp only [shift, truth, Related.shift, Binding.related?, Binding.row?_shift]

/-- Of the rows an atom sees only the one at its source. -/
theorem Atom.truth_congr {binding binding' : Binding} {a : Atom}
    (h : binding.row? a.source = binding'.row? a.source) :
    a.truth binding = a.truth binding' := by
  cases a with
  | column c test =>
    have hrow : binding.row? c.source = binding'.row? c.source := h
    simp only [truth, Binding.column?, hrow]
  | related r presence =>
    have hrow : binding.row? r.owner = binding'.row? r.owner := h
    simp only [truth, Binding.related?, hrow]

theorem Condition.truth_shift (condition : Condition) :
    (condition.shift front.length).truth ⟨record, front ++ rows⟩
      = condition.truth ⟨record, rows⟩ := by
  rw [truth, shift, Formula.eval_map]
  exact Formula.eval_congr fun a _ => a.truth_shift

theorem Condition.truth_append {condition : Condition} (h : condition.IsBelow rows.length) :
    condition.truth ⟨record, rows ++ more⟩ = condition.truth ⟨record, rows⟩ :=
  Formula.eval_congr fun a ha => Atom.truth_congr (Binding.row?_append (h a ha))

/-- A join that is moved on offers the same rows. -/
theorem Join.rowsAt_shift (join : Join) :
    (join.shift front.length).rowsAt ⟨record, front ++ rows⟩ = join.rowsAt ⟨record, rows⟩ := by
  have howner : Binding.row? ⟨record, front ++ rows⟩ (join.shift front.length).owner
      = Binding.row? ⟨record, rows⟩ join.owner := by
    rw [owner_shift, Binding.row?_shift]
  cases hrow : Binding.row? ⟨record, rows⟩ join.owner with
  | none => rw [rowsAt_of_none hrow, rowsAt_of_none (howner.trans hrow)]
  | some owner =>
    have hrow' := howner.trans hrow
    obtain ⟨index, link⟩ := join
    cases link with
    | collection related =>
      exact (rowsAt_collection hrow' _).trans (rowsAt_collection hrow index).symm
    | reference source r =>
      exact (rowsAt_reference hrow' _).trans (rowsAt_reference hrow index).symm

theorem combinations_shift (joins : List Join) :
    combinations record (front ++ rows) (joins.map (Join.shift front.length))
      = (combinations record rows joins).map (front ++ ·) := by
  induction joins generalizing rows with
  | nil => rfl
  | cons join joins ih =>
    -- a row that is chosen for the join in front stands behind all rows before it
    have hstep : ∀ row, combinations record (front ++ rows ++ [row])
        (joins.map (Join.shift front.length))
          = (combinations record (rows ++ [row]) joins).map (front ++ ·) := by
      intro row
      rw [List.append_assoc, ih]
    rw [List.map_cons, combinations, enumerate, ← combinations, join.rowsAt_shift]
    simp only [hstep]
    rw [← List.map_flatMap]
    rfl

/-- **Where two lists of joins stand side by side**, there is one row for each join if there is
one for each of the first ones and, behind them, one for each of the second ones. -/
theorem Binding.completes_append_shift {joins joins' : List Join} :
    Completes (joins ++ joins'.map (Join.shift joins.length)) ⟨record, rows⟩
      ↔ ∃ front back, rows = front ++ back ∧ Completes joins ⟨record, front⟩ ∧
          Completes joins' ⟨record, back⟩ := by
  have hback : ∀ front, Completes joins ⟨record, front⟩ →
      combinations record front (joins'.map (Join.shift joins.length))
        = (combinations record [] joins').map (front ++ ·) := by
    intro front hfront
    have hlength : front.length = joins.length := hfront.length_eq
    have hshift : combinations record (front ++ []) (joins'.map (Join.shift front.length))
        = (combinations record [] joins').map (front ++ ·) := combinations_shift joins'
    rwa [List.append_nil, hlength] at hshift
  rw [← mem_combinations, combinations, enumerate_append, List.mem_flatMap]
  constructor
  · rintro ⟨front, hfront, hrows⟩
    have hcompletes : Completes joins ⟨record, front⟩ := mem_combinations.1 hfront
    rw [← combinations, hback front hcompletes, List.mem_map] at hrows
    obtain ⟨back, hmem, rfl⟩ := hrows
    exact ⟨front, back, rfl, hcompletes, mem_combinations.1 hmem⟩
  · rintro ⟨front, back, rfl, hfront, hmem⟩
    refine ⟨front, mem_combinations.2 hfront, ?_⟩
    rw [← combinations, hback front hfront]
    exact List.mem_map_of_mem (mem_combinations.2 hmem)

end rows

end RecordQuery
