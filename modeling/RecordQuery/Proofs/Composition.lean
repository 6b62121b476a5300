import RecordQuery.Proofs.Relocation

/-!
# Composition of filters

A combination of filters makes the joins of all its operands on one root, so its condition is
read over the product of their rows.  Each operand still sees the rows of its own joins and
nothing else, and what the combination may come to is settled by what the operands may come to.

## Main Definitions

* `Restriction.condition`, `Restriction.joins` — what a restriction stands for on a fresh root
* `Restriction.Attains` — the truth that some choice of joined rows gives to a restriction
* `Filter.Joinable`, `Filter.Selects` — a record has rows for all joins; a restriction accepts
  it
* `Filter.CompletesEach` — rows for the joins of each of some filters
* `Selection.rowsRead` — the rows that the atoms of a selection read from

## Main Statements

* `Restriction.attains_combine`, `Restriction.attains_not` — the truths of a composite
  restriction
* `Restriction.attains_combine_identity`,
  `Restriction.attains_combine_settled` — its definite ones
* `Filter.completes_fold`, `Filter.rowsRead_fold` — rows for the joins of a fold are rows for
  the joins of each operand side by side, and the atoms of an operand read from its own ones
* `Filter.accepts_combinations` — which records a conjunction, a
  disjunction and a complement accept

## Design Notes

Acceptance asks for the truth `yes`, and the complement for `no`.  `Attains` keeps apart all
three truths, so it goes through every connective; acceptance alone does not.
-/

namespace RecordQuery

/-! ## Restrictions on a fresh root -/

namespace Restriction

/-- The condition of a restriction in a query of its own. -/
def condition (table : Table) (r : Restriction 0) : Condition :=
  (r.realize table Scope.empty 0).1

/-- The joins of a restriction in a query of its own. -/
def joins (table : Table) (r : Restriction 0) : List Join :=
  (r.realize table Scope.empty 0).2

variable {table : Table} {record : Json} {c : Connective} {x y : Restriction 0}

/-- What a restriction stands for where `m` joins exist already. -/
theorem realize_empty (m : Nat) (r : Restriction 0) :
    r.realize table Scope.empty m
      = ((r.condition table).shift m, (r.joins table).map (Join.shift m)) := by
  have hshift := r.realize_shift m table Scope.empty 0
  rwa [Scope.shift_empty] at hshift

theorem condition_combine :
    (combine c x y).condition table
      = Formula.combine c (x.condition table)
          ((y.condition table).shift (x.joins table).length) := by
  rw [condition, realize_combine, Nat.zero_add, realize_empty _ y]
  rfl

theorem joins_combine :
    (combine c x y).joins table
      = x.joins table ++ (y.joins table).map (Join.shift (x.joins table).length) := by
  rw [joins, realize_combine, Nat.zero_add, realize_empty _ y]
  rfl

theorem isBelow_condition (r : Restriction 0) :
    (r.condition table).IsBelow (r.joins table).length := by
  have hscope : ∀ i, (Scope.empty i).source.IsBelow 0 := fun i => i.elim0
  have hbelow := r.isBelow_realize table hscope
  rwa [Nat.zero_add] at hbelow

/-- Rows for the joins of a combination are rows for those of the one side, and then rows for
those of the other. -/
theorem completes_combine {rows : List Json} :
    Binding.Completes ((combine c x y).joins table) ⟨record, rows⟩
      ↔ ∃ front back, rows = front ++ back ∧
          Binding.Completes (x.joins table) ⟨record, front⟩ ∧
          Binding.Completes (y.joins table) ⟨record, back⟩ := by
  rw [joins_combine]
  exact Binding.completes_append_shift

/-- **Each side of a combination is as true as it is on its own rows.** -/
theorem truth_combine {front back : List Json}
    (hfront : Binding.Completes (x.joins table) ⟨record, front⟩) :
    ((combine c x y).condition table).truth ⟨record, front ++ back⟩
      = c.join [(x.condition table).truth ⟨record, front⟩,
          (y.condition table).truth ⟨record, back⟩] := by
  have hlength : front.length = (x.joins table).length := hfront.length_eq
  -- the one side does not see the rows behind its own, the other passes over those in front
  have hx : (x.condition table).truth ⟨record, front ++ back⟩
      = (x.condition table).truth ⟨record, front⟩ :=
    Condition.truth_append (hlength ▸ x.isBelow_condition)
  have hy : ((y.condition table).shift (x.joins table).length).truth ⟨record, front ++ back⟩
      = (y.condition table).truth ⟨record, back⟩ := by
    rw [← hlength]
    exact Condition.truth_shift _
  rw [condition_combine, ← hx, ← hy]
  exact Formula.eval_combine _ c _ _

/-- Whether some choice of rows for the joins of the restriction gives its condition the truth
`t`. -/
def Attains (table : Table) (record : Json) (r : Restriction 0) (t : Truth) : Prop :=
  ∃ rows, Binding.Completes (r.joins table) ⟨record, rows⟩ ∧
    (r.condition table).truth ⟨record, rows⟩ = t

/-- **A combination attains what the connective makes of what its sides attain.** -/
theorem attains_combine {t : Truth} :
    (combine c x y).Attains table record t
      ↔ ∃ s u, x.Attains table record s ∧ y.Attains table record u ∧ c.join [s, u] = t := by
  constructor
  · rintro ⟨rows, hrows, htruth⟩
    obtain ⟨front, back, rfl, hfront, hback⟩ := completes_combine.1 hrows
    rw [truth_combine hfront] at htruth
    exact ⟨_, _, ⟨front, hfront, rfl⟩, ⟨back, hback, rfl⟩, htruth⟩
  · rintro ⟨s, u, ⟨front, hfront, rfl⟩, ⟨back, hback, rfl⟩, htruth⟩
    refine ⟨front ++ back, completes_combine.2 ⟨front, back, rfl, hfront, hback⟩, ?_⟩
    rw [truth_combine hfront, htruth]

/-- The truth of a junction without terms is that of a combination only if it is that of both
sides. -/
theorem attains_combine_identity :
    (combine c x y).Attains table record (.ofBool c.identity)
      ↔ x.Attains table record (.ofBool c.identity) ∧
          y.Attains table record (.ofBool c.identity) := by
  rw [attains_combine]
  constructor
  · rintro ⟨s, u, hx, hy, hjoin⟩
    obtain ⟨rfl, rfl⟩ := c.join_eq_identity_iff.1 hjoin
    exact ⟨hx, hy⟩
  · rintro ⟨hx, hy⟩
    exact ⟨_, _, hx, hy, c.join_eq_identity_iff.2 ⟨rfl, rfl⟩⟩

/-- The other definite truth is that of a combination if it is that of one side, as long as the
other side has rows for its joins. -/
theorem attains_combine_settled :
    (combine c x y).Attains table record (.ofBool !c.identity)
      ↔ (x.Attains table record (.ofBool !c.identity) ∧ ∃ u, y.Attains table record u) ∨
          (∃ s, x.Attains table record s) ∧ y.Attains table record (.ofBool !c.identity) := by
  rw [attains_combine]
  constructor
  · rintro ⟨s, u, hx, hy, hjoin⟩
    rcases c.join_eq_settled_iff.1 hjoin with rfl | rfl
    · exact .inl ⟨hx, u, hy⟩
    · exact .inr ⟨⟨s, hx⟩, hy⟩
  · rintro (⟨hx, u, hu⟩ | ⟨⟨s, hs⟩, hy⟩)
    · exact ⟨_, u, hx, hu, c.join_eq_settled_iff.2 (.inl rfl)⟩
    · exact ⟨s, _, hs, hy, c.join_eq_settled_iff.2 (.inr rfl)⟩

theorem attains_not {t : Truth} :
    x.not.Attains table record t ↔ x.Attains table record t.negate := by
  have htruth : ∀ rows, (x.not.condition table).truth ⟨record, rows⟩
      = ((x.condition table).truth ⟨record, rows⟩).negate := fun _ => rfl
  constructor
  · rintro ⟨rows, hrows, rfl⟩
    exact ⟨rows, hrows, by rw [htruth, Truth.negate_negate]⟩
  · rintro ⟨rows, hrows, hx⟩
    exact ⟨rows, hrows, by rw [htruth, hx, Truth.negate_negate]⟩

end Restriction

/-! ## Filters -/

/-- The rows that the atoms of a selection read from, from left to right. -/
def Selection.rowsRead (selection : Selection) (binding : Binding) : List (Option Json) :=
  (selection.condition.toList.flatMap Formula.atoms).map fun a => binding.row? a.source

namespace Filter

/-- Whether the record has one row for each join of the filter. -/
def Joinable (table : Table) (record : Json) (filter : Filter) : Prop :=
  ∃ rows, Binding.Completes (filter.selection table).joins ⟨record, rows⟩

/-- Whether the filter restricts records and accepts this one. -/
def Selects (table : Table) (record : Json) (filter : Filter) : Prop :=
  filter.isUnrestricted = false ∧ filter.accepts table record = true

variable {table : Table} {record : Json} {c : Connective}

theorem joins_restricted (r : Restriction 0) :
    ((restricted r).selection table).joins = r.joins table := rfl

theorem condition_restricted (r : Restriction 0) :
    ((restricted r).selection table).condition = some (r.condition table) := rfl

theorem completes_unrestricted {rows : List Json} :
    Binding.Completes (unrestricted.selection table).joins ⟨record, rows⟩ ↔ rows = [] :=
  OneEach.nil_iff

theorem accepts_restricted {r : Restriction 0} :
    (restricted r).accepts table record = true ↔ r.Attains table record .yes :=
  Condition.holdsBelow_iff

theorem joinable_restricted {r : Restriction 0} :
    (restricted r).Joinable table record ↔ ∃ t, r.Attains table record t := by
  constructor
  · rintro ⟨rows, hrows⟩
    exact ⟨_, rows, hrows, rfl⟩
  · rintro ⟨t, rows, hrows, -⟩
    exact ⟨rows, hrows⟩

theorem joinable_unrestricted : unrestricted.Joinable table record :=
  ⟨[], completes_unrestricted.2 rfl⟩

/-- A filter that accepts a record has rows for its joins there. -/
theorem Selects.joinable {x : Filter} (h : x.Selects table record) :
    x.Joinable table record := by
  cases x with
  | unrestricted => exact joinable_unrestricted
  | restricted r => exact joinable_restricted.2 ⟨.yes, accepts_restricted.1 h.2⟩

theorem selects_unrestricted : ¬ unrestricted.Selects table record :=
  fun h => Bool.false_ne_true h.1.symm

theorem selects_restricted {r : Restriction 0} :
    (restricted r).Selects table record ↔ r.Attains table record .yes :=
  (and_iff_right rfl).trans accepts_restricted

/-! ### Two filters -/

section combine

variable {x y : Filter}

theorem isUnrestricted_combine :
    (combine c x y).isUnrestricted = true
      ↔ x.isUnrestricted = true ∧ y.isUnrestricted = true := by
  cases x <;> cases y <;> simp [combine, isUnrestricted]

theorem completes_combine {rows : List Json} :
    Binding.Completes ((combine c x y).selection table).joins ⟨record, rows⟩
      ↔ ∃ front back, rows = front ++ back ∧
          Binding.Completes (x.selection table).joins ⟨record, front⟩ ∧
          Binding.Completes (y.selection table).joins ⟨record, back⟩ := by
  cases x with
  | unrestricted =>
    constructor
    · intro hrows
      exact ⟨[], rows, rfl, completes_unrestricted.2 rfl, hrows⟩
    · rintro ⟨front, back, rfl, hfront, hback⟩
      rwa [completes_unrestricted.1 hfront]
  | restricted x =>
    cases y with
    | unrestricted =>
      constructor
      · intro hrows
        exact ⟨rows, [], (List.append_nil rows).symm, hrows, completes_unrestricted.2 rfl⟩
      · rintro ⟨front, back, rfl, hfront, hback⟩
        rwa [completes_unrestricted.1 hback, List.append_nil]
    | restricted y =>
      rw [combine, joins_restricted, joins_restricted, joins_restricted]
      exact Restriction.completes_combine

/-- The atoms of both sides read from the rows that they read from on their own. -/
theorem rowsRead_combine {front back : List Json}
    (hfront : Binding.Completes (x.selection table).joins ⟨record, front⟩)
    (hback : Binding.Completes (y.selection table).joins ⟨record, back⟩) :
    ((combine c x y).selection table).rowsRead ⟨record, front ++ back⟩
      = (x.selection table).rowsRead ⟨record, front⟩
          ++ (y.selection table).rowsRead ⟨record, back⟩ := by
  cases x with
  | unrestricted => rw [completes_unrestricted.1 hfront]; rfl
  | restricted x =>
    cases y with
    | unrestricted =>
      rw [completes_unrestricted.1 hback, List.append_nil]
      exact (List.append_nil _).symm
    | restricted y =>
      have hlength : front.length = (x.joins table).length := hfront.length_eq
      have hatoms : ((x.combine c y).condition table).atoms
          = (x.condition table).atoms
              ++ (y.condition table).atoms.map (Atom.shift front.length) := by
        rw [Restriction.condition_combine, Formula.atoms_combine, Condition.shift,
          Formula.atoms_map, hlength]
      have hrows : ∀ (r : Restriction 0) (rows : List Json),
          ((restricted r).selection table).rowsRead ⟨record, rows⟩
            = (r.condition table).atoms.map fun a => Binding.row? ⟨record, rows⟩ a.source := by
        intro r rows
        rw [Selection.rowsRead, condition_restricted, Option.toList_some,
          List.flatMap_singleton]
      rw [combine, hrows, hrows, hrows, hatoms, List.map_append, List.map_map]
      congr 1
      · refine List.map_congr_left fun a ha => ?_
        exact Binding.row?_append (hlength ▸ x.isBelow_condition a ha)
      · refine List.map_congr_left fun a _ => ?_
        rw [Function.comp_apply, Atom.source_shift, Binding.row?_shift]

theorem joinable_combine :
    (combine c x y).Joinable table record
      ↔ x.Joinable table record ∧ y.Joinable table record := by
  constructor
  · rintro ⟨rows, hrows⟩
    obtain ⟨front, back, -, hfront, hback⟩ := completes_combine.1 hrows
    exact ⟨⟨front, hfront⟩, ⟨back, hback⟩⟩
  · rintro ⟨⟨front, hfront⟩, ⟨back, hback⟩⟩
    exact ⟨front ++ back, completes_combine.2 ⟨front, back, rfl, hfront, hback⟩⟩

theorem accepts_and :
    (combine .conj x y).accepts table record = true
      ↔ x.accepts table record = true ∧ y.accepts table record = true := by
  cases x with
  | unrestricted => exact (and_iff_right rfl).symm
  | restricted x =>
    cases y with
    | unrestricted => exact (and_iff_left rfl).symm
    | restricted y =>
      rw [combine, accepts_restricted, accepts_restricted, accepts_restricted]
      exact Restriction.attains_combine_identity (c := .conj)

/-- A disjunction selects a record if one side does, as long as both have
rows for their joins. -/
theorem selects_or :
    (combine .disj x y).Selects table record
      ↔ (x.Selects table record ∨ y.Selects table record) ∧
          x.Joinable table record ∧ y.Joinable table record := by
  cases x with
  | unrestricted =>
    constructor
    · intro hy
      exact ⟨.inr hy, joinable_unrestricted, hy.joinable⟩
    · rintro ⟨hx | hy, -, -⟩
      · exact absurd hx selects_unrestricted
      · exact hy
  | restricted x =>
    cases y with
    | unrestricted =>
      constructor
      · intro hx
        exact ⟨.inl hx, hx.joinable, joinable_unrestricted⟩
      · rintro ⟨hx | hy, -, -⟩
        · exact hx
        · exact absurd hy selects_unrestricted
    | restricted y =>
      rw [combine, selects_restricted, selects_restricted, selects_restricted,
        joinable_restricted, joinable_restricted]
      refine (Restriction.attains_combine_settled (c := .disj)).trans ?_
      constructor
      · rintro (⟨hx, hy⟩ | ⟨hx, hy⟩)
        · exact ⟨.inl hx, ⟨_, hx⟩, hy⟩
        · exact ⟨.inr hy, hx, ⟨_, hy⟩⟩
      · -- the side that selects nothing still has to have rows
        rintro ⟨hx | hy, hrowsx, hrowsy⟩
        · exact .inl ⟨hx, hrowsy⟩
        · exact .inr ⟨hrowsx, hy⟩

theorem accepts_not {condition : Condition}
    (h : (x.selection table).condition = some condition) :
    (~~~x).accepts table record = true
      ↔ ∃ rows, Binding.Completes (x.selection table).joins ⟨record, rows⟩ ∧
          condition.truth ⟨record, rows⟩ = .no := by
  cases x with
  | unrestricted => exact absurd h (Option.some_ne_none condition).symm
  | restricted r =>
    obtain rfl := Option.some.inj ((condition_restricted r).symm.trans h)
    exact accepts_restricted.trans Restriction.attains_not

end combine

/-! ### Lists of filters -/

/-- What holds of the unrestricted filter and of a combination if it holds of both sides, holds
of a fold if it holds of all filters in it. -/
theorem fold_iff {P : Filter → Prop} (hunrestricted : P unrestricted)
    (hcombine : ∀ x y, P (combine c x y) ↔ P x ∧ P y) (filters : List (Option Filter)) :
    P (fold c filters) ↔ ∀ f, some f ∈ filters → P f := by
  have hfoldl : ∀ (fs : List Filter) (x : Filter),
      P (fs.foldl (combine c) x) ↔ P x ∧ ∀ f ∈ fs, P f := by
    intro fs
    induction fs with
    | nil => intro x; simp
    | cons f fs ih =>
      intro x
      rw [List.foldl_cons, ih, hcombine, and_assoc, List.forall_mem_cons]
  rw [fold, hfoldl, and_iff_right hunrestricted]
  simp only [List.mem_filterMap, id_eq, exists_eq_right]

/-- The filters of a list that are present. -/
def present (filters : List (Option Filter)) : List Filter := filters.filterMap id

/-- Whether the parts are rows for the joins of the filters, one part for each filter. -/
def CompletesEach (table : Table) (record : Json) (filters : List Filter)
    (parts : List (List Json)) : Prop :=
  List.Forall₂ (fun f part => Binding.Completes (f.selection table).joins ⟨record, part⟩)
    filters parts

/-- Rows for the joins of a fold are rows for the joins of each filter, side by side. -/
theorem completes_fold (filters : List (Option Filter)) {rows : List Json} :
    Binding.Completes ((fold c filters).selection table).joins ⟨record, rows⟩
      ↔ ∃ parts, rows = parts.flatten ∧ CompletesEach table record (present filters) parts := by
  have hfoldl : ∀ (fs : List Filter) (x : Filter) (rows : List Json),
      Binding.Completes ((fs.foldl (combine c) x).selection table).joins ⟨record, rows⟩
        ↔ ∃ front parts, rows = front ++ parts.flatten ∧
            Binding.Completes (x.selection table).joins ⟨record, front⟩ ∧
            CompletesEach table record fs parts := by
    -- the filters folded so far are one operand, and their rows stand in front
    intro fs
    induction fs with
    | nil =>
      intro x rows
      constructor
      · intro hrows
        exact ⟨rows, [], (List.append_nil rows).symm, hrows, .nil⟩
      · rintro ⟨front, parts, rfl, hfront, hparts⟩
        obtain rfl := List.forall₂_nil_left_iff.1 hparts
        rwa [List.flatten_nil, List.append_nil]
    | cons f fs ih =>
      intro x rows
      rw [List.foldl_cons, ih]
      constructor
      · rintro ⟨front, parts, rfl, hfront, hparts⟩
        obtain ⟨first, part, rfl, hfirst, hpart⟩ := completes_combine.1 hfront
        refine ⟨first, part :: parts, ?_, hfirst, .cons hpart hparts⟩
        rw [List.flatten_cons, List.append_assoc]
      · rintro ⟨front, parts, rfl, hfront, hparts⟩
        obtain ⟨part, parts, hpart, hrest, rfl⟩ := List.forall₂_cons_left_iff.1 hparts
        refine ⟨front ++ part, parts, ?_, ?_, hrest⟩
        · rw [List.flatten_cons, List.append_assoc]
        · exact completes_combine.2 ⟨front, part, rfl, hfront, hpart⟩
  rw [fold, hfoldl]
  constructor
  · rintro ⟨front, parts, rfl, hfront, hparts⟩
    rw [completes_unrestricted.1 hfront]
    exact ⟨parts, rfl, hparts⟩
  · rintro ⟨parts, rfl, hparts⟩
    exact ⟨[], parts, rfl, completes_unrestricted.2 rfl, hparts⟩

/-- The atoms of a filter in a fold read from the rows that they read from on their own. -/
theorem rowsRead_fold (filters : List (Option Filter)) {parts : List (List Json)}
    (h : CompletesEach table record (present filters) parts) :
    ((fold c filters).selection table).rowsRead ⟨record, parts.flatten⟩
      = (List.zipWith (fun f part => (f.selection table).rowsRead ⟨record, part⟩)
          (present filters) parts).flatten := by
  have hfoldl : ∀ (fs : List Filter) (parts : List (List Json)) (x : Filter)
      (front : List Json),
      Binding.Completes (x.selection table).joins ⟨record, front⟩ →
      CompletesEach table record fs parts →
      ((fs.foldl (combine c) x).selection table).rowsRead ⟨record, front ++ parts.flatten⟩
        = (x.selection table).rowsRead ⟨record, front⟩
            ++ (List.zipWith (fun f part => (f.selection table).rowsRead ⟨record, part⟩)
                fs parts).flatten := by
    intro fs parts x front hfront hparts
    induction hparts generalizing x front with
    | nil => simp
    | @cons f part fs parts hpart _ ih =>
      have hboth := completes_combine (c := c).2 ⟨front, part, rfl, hfront, hpart⟩
      rw [List.foldl_cons, List.flatten_cons, ← List.append_assoc, ih _ _ hboth,
        rowsRead_combine hfront hpart, List.zipWith_cons_cons, List.flatten_cons,
        List.append_assoc]
  exact hfoldl _ _ unrestricted [] (completes_unrestricted.2 rfl) h

theorem isUnrestricted_fold (filters : List (Option Filter)) :
    (fold c filters).isUnrestricted = true ↔ ∀ f, some f ∈ filters → f.isUnrestricted = true :=
  fold_iff (P := fun f => f.isUnrestricted = true) rfl
    (fun _ _ => isUnrestricted_combine) filters

theorem accepts_all (filters : List (Option Filter)) :
    (all filters).accepts table record = true
      ↔ ∀ f, some f ∈ filters → f.accepts table record = true :=
  fold_iff (P := fun f => f.accepts table record = true) rfl (fun _ _ => accepts_and) filters

theorem selects_any (filters : List (Option Filter)) :
    (any filters).Selects table record
      ↔ (∃ f, some f ∈ filters ∧ f.Selects table record) ∧
          ∀ f, some f ∈ filters → f.Joinable table record := by
  have hjoinable := fold_iff (c := .disj) (P := Joinable table record) joinable_unrestricted
    (fun _ _ => joinable_combine) filters
  -- what is and-like about a disjunction: it has rows for its joins and selects nothing
  have hrejects := fold_iff (c := .disj)
    (P := fun f => f.Joinable table record ∧ ¬ f.Selects table record)
    ⟨joinable_unrestricted, selects_unrestricted⟩
    (fun x y => by rw [joinable_combine, selects_or]; tauto) filters
  constructor
  · intro h
    have hall := hjoinable.1 h.joinable
    refine ⟨?_, hall⟩
    by_contra hnone
    exact (hrejects.2 fun f hf => ⟨hall f hf, fun hselects => hnone ⟨f, hf, hselects⟩⟩).2 h
  · rintro ⟨⟨f, hf, hselects⟩, hall⟩
    by_contra hnot
    exact (hrejects.1 ⟨hjoinable.2 hall, hnot⟩ f hf).2 hselects

/-- **What the operands of a combination come to settles what the combination comes to.**  A
conjunction accepts a record if all filters present do.  A disjunction does if no filter present
is restricted, or if one of those that are accepts the record and each of them has a row for
each of its joins.  The complement of a restricted filter does if some choice of joined rows
makes the condition false, and unknown is not enough.  In a fold, rows for the joins are rows
for the joins of each filter side by side, and the atoms of each filter read from its own rows
as they do in a query of its own. -/
theorem accepts_combinations (table : Table) (record : Json) :
    (∀ filters, (all filters).accepts table record = true
      ↔ ∀ f, some f ∈ filters → f.accepts table record = true) ∧
    (∀ filters, (any filters).accepts table record = true
      ↔ (∀ f, some f ∈ filters → f.isUnrestricted = true) ∨
        (∃ f, some f ∈ filters ∧ f.isUnrestricted = false ∧ f.accepts table record = true) ∧
        ∀ f, some f ∈ filters → f.isUnrestricted = false →
          ∃ rows, Binding.Completes (f.selection table).joins ⟨record, rows⟩) ∧
    (∀ (f : Filter) (condition : Condition), (f.selection table).condition = some condition →
      ((~~~f).accepts table record = true
        ↔ ∃ rows, Binding.Completes (f.selection table).joins ⟨record, rows⟩ ∧
            condition.truth ⟨record, rows⟩ = .no)) ∧
    ∀ c filters,
      (∀ rows, Binding.Completes ((fold c filters).selection table).joins ⟨record, rows⟩
        ↔ ∃ parts, rows = parts.flatten ∧ CompletesEach table record (present filters) parts) ∧
      ∀ parts, CompletesEach table record (present filters) parts →
        ((fold c filters).selection table).rowsRead ⟨record, parts.flatten⟩
          = (List.zipWith (fun f part => (f.selection table).rowsRead ⟨record, part⟩)
              (present filters) parts).flatten := by
  refine ⟨accepts_all, fun filters => ?_, fun f condition => accepts_not, fun c filters =>
    ⟨fun rows => completes_fold filters, fun parts => rowsRead_fold filters⟩⟩
  -- only the restricted filters can fail to have rows for their joins
  have hjoinable : (∀ f, some f ∈ filters → f.Joinable table record)
      ↔ ∀ f, some f ∈ filters → f.isUnrestricted = false → f.Joinable table record := by
    refine forall_congr' fun f => imp_congr_right fun _ => ?_
    cases f with
    | unrestricted => exact iff_of_true joinable_unrestricted fun _ => joinable_unrestricted
    | restricted r => exact ⟨fun h _ => h, fun h => h rfl⟩
  have hselects : (any filters).Selects table record
      ↔ (∃ f, some f ∈ filters ∧ f.Selects table record) ∧
          ∀ f, some f ∈ filters → f.isUnrestricted = false → f.Joinable table record := by
    rw [← hjoinable]
    exact selects_any filters
  have hunrestricted := isUnrestricted_fold (c := .disj) filters
  cases hany : (any filters).isUnrestricted with
  | true =>
    have haccepts : (any filters).accepts table record = true := by
      cases hfold : any filters with
      | unrestricted => rfl
      | restricted r => rw [hfold] at hany; exact absurd hany Bool.false_ne_true
    exact iff_of_true haccepts (.inl (hunrestricted.1 hany))
  | false =>
    rw [or_iff_right fun h => Bool.false_ne_true (hany.symm.trans (hunrestricted.2 h))]
    exact (and_iff_right hany).symm.trans hselects

/-- One low rating is enough for the complement; and where two conditions on ratings are
combined, each reads from the rating that is chosen for it. -/
theorem accepts_combinations_ratings :
    let ratings : Collection := ⟨"ratings", "show_id", ⟨"ratings", "id"⟩⟩
    let atLeast (stars : Int64) : Filter := .restricted (.withJoin (.joined .root
      (.collection ratings)) (.column ⟨.bound 0, [], "stars"⟩ (.compare .ge (.int stars))))
    let rating (stars : Int) : Json := .object [("stars", .number (.integer stars))]
    let record : Json := .object [("ratings", .array [rating 2, rating 5])]
    (~~~atLeast 4).accepts ⟨"shows", "id"⟩ record = true ∧
      ((all [some (atLeast 4), none, some (atLeast 1)]).selection ⟨"shows", "id"⟩).rowsRead
        ⟨record, [rating 5, rating 2]⟩ = [some (rating 5), some (rating 2)] := by
  intro ratings atLeast rating record
  have hcombinations : ∀ stars : Int64,
      combinations record [] ((atLeast stars).selection ⟨"shows", "id"⟩).joins
        = [[rating 2], [rating 5]] := fun _ => rfl
  have hlow : ∀ stars : Int64,
      Binding.Completes ((atLeast stars).selection ⟨"shows", "id"⟩).joins
        ⟨record, [rating 2]⟩ := by
    intro stars
    rw [← mem_combinations, hcombinations stars]
    exact List.mem_cons_self
  have hhigh : ∀ stars : Int64,
      Binding.Completes ((atLeast stars).selection ⟨"shows", "id"⟩).joins
        ⟨record, [rating 5]⟩ := by
    intro stars
    rw [← mem_combinations, hcombinations stars]
    exact List.mem_cons_of_mem _ List.mem_cons_self
  obtain ⟨-, -, hnot, hfold⟩ := accepts_combinations ⟨"shows", "id"⟩ record
  constructor
  · exact (hnot (atLeast 4) _ rfl).2 ⟨[rating 2], hlow 4, rfl⟩
  · exact (hfold .conj [some (atLeast 4), none, some (atLeast 1)]).2 [[rating 5], [rating 2]]
      (.cons (hhigh 4) (.cons (hlow 1) .nil))

end Filter

end RecordQuery
