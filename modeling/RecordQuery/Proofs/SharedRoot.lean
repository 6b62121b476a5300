import RecordQuery.Proofs.Composition
import RecordQuery.Proofs.Wiring

/-!
# Filters on a shared root

Filters can be realized on one root, one after the other.  Each gets joins of its own behind
those that are there already, and they hang together as they do on a fresh root.  What was
realized before stays as it is.

## Main Definitions

* `Root.realizeEach` — realizes filters one after the other
* `Selection.shift` — a selection whose joins stand some places further on
* `Selection.sources` — the sources that the condition reads from and that the joins hang off
* `Source.IsBetween` — the source is the root or one of the joins in a range

## Main Statements

* `Root.realize_eq_shift` — a filter on a root with joins is the filter on a fresh root, moved
  on
* `Root.realizeEach_replicate` — copies of a filter stand side by side
* `Filter.isBetween_sources_shift` — a copy refers to its own joins only
* `Root.prefix_realizeEach` — the joins of a root stay where they are
* `Root.realize_relocatable` — all of this for a root with any joins
-/

namespace RecordQuery

/-! ## Moved selections -/

/-- The selection, with its joins moved on by `m` places. -/
def Selection.shift (m : Nat) (selection : Selection) : Selection :=
  ⟨selection.condition.map (Condition.shift m), selection.joins.map (Join.shift m)⟩

/-- The sources that the condition of a selection reads from, and those
that its joins hang off. -/
def Selection.sources (selection : Selection) : List Source :=
  (selection.condition.toList.flatMap Formula.atoms).map Atom.source
    ++ selection.joins.map Join.owner

/-- Whether the source is the root or one of the joins from position `low` up to `high`. -/
def Source.IsBetween (low high : Nat) : Source → Prop
  | root => True
  | join index => low ≤ index ∧ index < high

theorem Source.IsBelow.isBetween_shift {n : Nat} {source : Source} (h : source.IsBelow n)
    (m : Nat) : (source.shift m).IsBetween m (m + n) := by
  cases source with
  | root => trivial
  | join index => exact ⟨Nat.le_add_right m index, Nat.add_lt_add_left h m⟩

theorem Source.IsBetween.isBelow {low high : Nat} {source : Source}
    (h : source.IsBetween low high) : source.IsBelow high := by
  cases source with
  | root => trivial
  | join index => exact h.2

theorem Selection.sources_shift (m : Nat) (selection : Selection) :
    (selection.shift m).sources = selection.sources.map (Source.shift m) := by
  obtain ⟨condition, joins⟩ := selection
  rw [sources, sources, List.map_append]
  congr 1
  · cases condition with
    | none => rfl
    | some condition => simp [shift, Condition.shift, Formula.atoms_map]
  · simp [shift]

namespace Filter

variable (table : Table) (filter : Filter)

/-- A filter in a query of its own refers to its own joins only. -/
theorem isBelow_sources :
    ∀ source ∈ (filter.selection table).sources,
      source.IsBelow (filter.selection table).joins.length := by
  have hwired := filter.isWired_selection table
  intro source hsource
  rcases List.mem_append.1 hsource with hsource | hsource
  · obtain ⟨a, ha, rfl⟩ := List.mem_map.1 hsource
    cases filter with
    | unrestricted => exact absurd ha List.not_mem_nil
    | restricted r =>
      rw [condition_restricted, Option.toList_some, List.flatMap_singleton] at ha
      exact r.isBelow_condition a ha
  · obtain ⟨join, hjoin, rfl⟩ := List.mem_map.1 hsource
    obtain ⟨i, hi⟩ := List.mem_iff_getElem?.1 hjoin
    have hlength : i < (filter.selection table).joins.length :=
      (List.getElem?_eq_some_iff.1 hi).1
    exact (hwired.isBelow_owner hi).mono (Nat.le_of_lt hlength)

/-- **A filter that is moved on refers to its own joins only**, at the places that they have. -/
theorem isBetween_sources_shift (m : Nat) :
    ∀ source ∈ ((filter.selection table).shift m).sources,
      source.IsBetween m (m + (filter.selection table).joins.length) := by
  rw [Selection.sources_shift]
  intro source hsource
  obtain ⟨own, hown, rfl⟩ := List.mem_map.1 hsource
  exact (filter.isBelow_sources table own hown).isBetween_shift m

end Filter

/-! ## One filter after the other -/

namespace Root

variable (root : Root) (filter : Filter)

/-- Makes conditions of filters on a root, one after the other. -/
def realizeEach (root : Root) : List Filter → List (Option Condition) × Root
  | [] => ([], root)
  | filter :: filters =>
    let (condition, next) := root.realize filter
    let (conditions, last) := next.realizeEach filters
    (condition :: conditions, last)

theorem realizeEach_cons (filters : List Filter) :
    root.realizeEach (filter :: filters)
      = ((root.realize filter).1 :: ((root.realize filter).2.realizeEach filters).1,
          ((root.realize filter).2.realizeEach filters).2) := rfl

/-- **A filter on a root with joins is the filter on a fresh root**, moved on by the number of
the joins, and the joins that it needs come behind them. -/
theorem realize_eq_shift :
    root.realize filter
      = (((filter.selection root.table).shift root.joins.length).condition,
          { root with
            joins := root.joins
              ++ ((filter.selection root.table).shift root.joins.length).joins })
    := by
  cases filter with
  | unrestricted =>
    show (none, root) = (none, { root with joins := root.joins ++ [] })
    rw [List.append_nil]
  | restricted r =>
    have hrealize : r.realize root.table Scope.empty root.joins.length
        = ((r.condition root.table).shift root.joins.length,
            (r.joins root.table).map (Join.shift root.joins.length)) :=
      r.realize_empty root.joins.length
    simp only [realize, hrealize]
    rfl

/-- The first filters are realized, and then the others on the root that they leave. -/
theorem realizeEach_append (filters more : List Filter) :
    root.realizeEach (filters ++ more)
      = ((root.realizeEach filters).1 ++ ((root.realizeEach filters).2.realizeEach more).1,
          ((root.realizeEach filters).2.realizeEach more).2) := by
  induction filters generalizing root with
  | nil => rfl
  | cons f filters ih =>
    rw [List.cons_append, realizeEach_cons, ih, realizeEach_cons]
    rfl

theorem realizeEach_concat (filters : List Filter) :
    root.realizeEach (filters ++ [filter])
      = ((root.realizeEach filters).1 ++ [((root.realizeEach filters).2.realize filter).1],
          ((root.realizeEach filters).2.realize filter).2) :=
  root.realizeEach_append filters [filter]

/-- **Copies of a filter stand side by side**, each of them behind the copies before it. -/
theorem realizeEach_replicate (k : Nat) :
    let own := filter.selection root.table
    let copy (i : Nat) := own.shift (root.joins.length + i * own.joins.length)
    root.realizeEach (List.replicate k filter)
      = ((List.range k).map fun i => (copy i).condition,
          { root with
            joins := root.joins ++ (List.range k).flatMap fun i => (copy i).joins }) := by
  intro own copy
  induction k with
  | zero =>
    show ([], root) = ([], { root with joins := root.joins ++ [] })
    rw [List.append_nil]
  | succ k ih =>
    -- the last copy stands behind all others, so it is the one to take off
    have hlength : (root.joins ++ (List.range k).flatMap fun i => (copy i).joins).length
        = root.joins.length + k * own.joins.length := by
      simp [copy, Selection.shift, List.length_flatMap]
    rw [List.replicate_succ', realizeEach_concat, ih, realize_eq_shift]
    simp only [hlength, List.range_succ, List.map_append, List.map_singleton,
      List.flatMap_append, List.flatMap_singleton, List.append_assoc]
    rfl

/-- **The joins that a root has stay where they are.** -/
theorem prefix_realizeEach (filters : List Filter) :
    root.joins <+: (root.realizeEach filters).2.joins := by
  induction filters generalizing root with
  | nil => exact List.prefix_rfl
  | cons filter filters ih =>
    have hfirst : root.joins <+: (root.realize filter).2.joins := by
      rw [realize_eq_shift]
      exact List.prefix_append _ _
    exact hfirst.trans (ih (root.realize filter).2)

/-- A condition that was made on a root reads from the joins that were there then. -/
theorem isBelow_of_realize {condition : Condition}
    (h : (root.realize filter).1 = some condition) :
    condition.IsBelow (root.realize filter).2.joins.length := by
  have hlength : (root.realize filter).2.joins.length
      = root.joins.length + (filter.selection root.table).joins.length := by
    simp [realize_eq_shift, Selection.shift]
  have hcondition : ((filter.selection root.table).shift root.joins.length).condition
      = some condition := by rwa [realize_eq_shift] at h
  intro a ha
  have hsource :
      a.source ∈ ((filter.selection root.table).shift root.joins.length).sources := by
    refine List.mem_append_left _ (List.mem_map_of_mem ?_)
    rwa [hcondition, Option.toList_some, List.flatMap_singleton]
  rw [hlength]
  exact (filter.isBetween_sources_shift root.table _ _ hsource).isBelow

/-- **A condition stays valid**: with one row for each join that is on the root in the end, it
is as true as with the rows of the joins that were there when it was made. -/
theorem truth_take_of_realize {condition : Condition}
    (h : (root.realize filter).1 = some condition) (later : List Filter) {record : Json}
    {rows : List Json}
    (hrows : Binding.Completes ((root.realize filter).2.realizeEach later).2.joins
      ⟨record, rows⟩) :
    let count := (root.realize filter).2.joins.length
    Binding.Completes (root.realize filter).2.joins ⟨record, rows.take count⟩ ∧
      condition.truth ⟨record, rows⟩ = condition.truth ⟨record, rows.take count⟩ := by
  intro count
  obtain ⟨more, hmore⟩ := (root.realize filter).2.prefix_realizeEach later
  have hcount : (rows.take count).length = count := by
    have hlength : rows.length = count + more.length := by
      rw [hrows.length_eq, ← hmore, List.length_append]
    exact List.length_take_of_le (by omega)
  constructor
  · have htake := hrows.take count
    rwa [← hmore, List.take_left] at htake
  · have hbelow : condition.IsBelow (rows.take count).length := by
      rw [hcount]
      exact root.isBelow_of_realize filter h
    conv_lhs => rw [← List.take_append_drop count rows]
    exact Condition.truth_append hbelow

/-- **Realizing a filter does not depend on where it is done.**  On a root with `m` joins these
stay where they are, and the condition and the joins are those of a fresh root with every join
moved on by `m` places: what stands at a position there stands `m` places further on here, and
what refers to it does so too.  Realized again and again, the filter gives copies side by side,
each of which refers to the root and to its own joins.  And a condition stays valid whatever is
realized later. -/
theorem realize_relocatable (root : Root) (filter : Filter) :
    let own := filter.selection root.table
    let m := root.joins.length
    let n := own.joins.length
    let next := (root.realize filter).2
    root.realize filter
        = ((own.shift m).condition, { root with joins := root.joins ++ (own.shift m).joins }) ∧
      (∀ i, next.joins[m + i]? = own.joins[i]?.map (Join.shift m)) ∧
      (∀ k, root.realizeEach (List.replicate k filter)
        = ((List.range k).map fun i => (own.shift (m + i * n)).condition,
            { root with
              joins := root.joins ++ (List.range k).flatMap fun i =>
                (own.shift (m + i * n)).joins })) ∧
      (∀ i, ∀ source ∈ (own.shift (m + i * n)).sources,
        source.IsBetween (m + i * n) (m + (i + 1) * n)) ∧
      ∀ later, next.joins <+: (next.realizeEach later).2.joins ∧
        ∀ condition, (root.realize filter).1 = some condition →
          condition.IsBelow next.joins.length ∧
          ∀ record rows, Binding.Completes (next.realizeEach later).2.joins ⟨record, rows⟩ →
            Binding.Completes next.joins ⟨record, rows.take next.joins.length⟩ ∧
              condition.truth ⟨record, rows⟩
                = condition.truth ⟨record, rows.take next.joins.length⟩ := by
  intro own m n next
  refine ⟨root.realize_eq_shift filter, fun i => ?_, root.realizeEach_replicate filter,
    fun i => ?_, fun later => ⟨next.prefix_realizeEach later, fun condition h =>
      ⟨root.isBelow_of_realize filter h, fun record rows hrows =>
        root.truth_take_of_realize filter h later hrows⟩⟩⟩
  · show (root.realize filter).2.joins[m + i]? = own.joins[i]?.map (Join.shift m)
    rw [realize_eq_shift, List.getElem?_append_right (Nat.le_add_right m i),
      Nat.add_sub_cancel_left]
    exact List.getElem?_map
  · have hends : m + (i + 1) * n = m + i * n + n := by rw [Nat.succ_mul, Nat.add_assoc]
    rw [hends]
    exact filter.isBetween_sources_shift root.table (m + i * n)

/-- The authors of ratings, asked for twice behind the network of a show: each copy follows its
own rating to its author, and the first one stays valid when the second one is made. -/
theorem realize_relocatable_authors :
    let network : Reference := ⟨"network", "network_id", ⟨"network", "id"⟩⟩
    let ratings : Collection := ⟨"ratings", "show_id", ⟨"rating", "id"⟩⟩
    let author : Reference := ⟨"author", "author_id", ⟨"user", "id"⟩⟩
    let root : Root := ⟨⟨"show", "id"⟩, [⟨0, .reference .root network⟩]⟩
    let filter : Filter := .restricted (.withJoin (.joined .root (.collection ratings))
      (.column ⟨.joined (.bound 0) (.reference author), [], "name"⟩
        (.compare .eq (.text "Ann"))))
    let condition : Condition :=
      .atom (.column ⟨.join 2, [], "name"⟩ (.compare .eq (.text "Ann")))
    let named (name : String) : Json := .object [("name", .text name)]
    let rating (name : String) : Json := .object [("author", named name)]
    let record : Json := .object [("network", named "N"),
      ("ratings", .array [rating "Ann", rating "Bo"])]
    let rows : List Json := [named "N", rating "Ann", named "Ann", rating "Bo", named "Bo"]
    (root.realizeEach [filter, filter]).2.joins
        = [⟨0, .reference .root network⟩, ⟨1, .collection ⟨.root, "id", ratings⟩⟩,
            ⟨2, .reference (.join 1) author⟩, ⟨3, .collection ⟨.root, "id", ratings⟩⟩,
            ⟨4, .reference (.join 3) author⟩] ∧
      condition.truth ⟨record, rows⟩ = condition.truth ⟨record, rows.take 3⟩ := by
  intro network ratings author root filter condition named rating record rows
  obtain ⟨-, -, hcopies, -, hlater⟩ := realize_relocatable root filter
  have hcombinations : rows
      ∈ combinations record [] ((root.realize filter).2.realizeEach [filter]).2.joins :=
    List.mem_cons_of_mem _ List.mem_cons_self
  constructor
  · rw [show [filter, filter] = List.replicate 2 filter from rfl, hcopies 2]
    rfl
  · exact (((hlater [filter]).2 condition rfl).2 record rows
      (mem_combinations.1 hcombinations)).2

end Root

end RecordQuery
