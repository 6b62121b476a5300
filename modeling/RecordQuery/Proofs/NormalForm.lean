import Mathlib.Data.List.ReduceOption
import RecordQuery.Proofs.SharedRoot

/-!
# Normal forms of combinations

Filters can be combined with one connective in many ways: in pairs, as lists with gaps, and as
lists of such combinations.  All that counts for the condition is which of them restrict
something and in which order they stand.  One of them gives its own condition; several give one
junction, into which the conditions that are junctions of the same kind are spliced.

## Main Definitions

* `Formula.gather?` — the formula that formulas amount to under a connective
* `Filter.active` — the filters that are present and restrict something
* `Root.gather` — the condition that filters amount to on a root, and the root with their joins
* `Grouping`, `Grouping.filter` — the ways to combine filters with one connective
* `Grouping.entries` — the filters that are combined, from left to right

## Main Statements

* `Formula.gather?_append` — formulas can be gathered in groups
* `Root.realize_foldl` — a fold from the left gathers its operands
* `Root.realize_grouping` — a combination gathers its entries, however it is grouped
* `Root.realize_fold` — the normal form of a fold, which is that of all groupings of its entries

## Design Notes

No condition is neutral for splicing: a junction without terms would turn a single
condition into a junction.  That filters are missing is therefore kept apart, by
`none`, until all are gathered.
-/

namespace RecordQuery

universe u

/-! ## Formulas -/

namespace Formula

variable {α : Type u} {c : Connective}

/-- The formula that formulas amount to under a connective, if there are any: a single one as it
is, and otherwise one junction of the terms that they contribute. -/
def gather? (c : Connective) : List (Formula α) → Option (Formula α)
  | [] => none
  | [f] => some f
  | f :: g :: fs => some (junction c ((f :: g :: fs).flatMap (terms c)))

theorem gather?_of_two_le {fs : List (Formula α)} (h : 2 ≤ fs.length) :
    gather? c fs = some (junction c (fs.flatMap (terms c))) := by
  match fs, h with
  | f :: g :: fs, _ => rfl

theorem terms_junction (ts : List (Formula α)) : (junction c ts).terms c = ts := if_pos rfl

/-- Nothing is lost in gathering: what is gathered contributes all terms. -/
theorem exists_gather? (f : Formula α) (fs : List (Formula α)) :
    ∃ g, gather? c (f :: fs) = some g ∧ g.terms c = (f :: fs).flatMap (terms c) := by
  cases fs with
  | nil => exact ⟨f, rfl, (List.flatMap_singleton (terms c) f).symm⟩
  | cons g fs => exact ⟨_, rfl, terms_junction _⟩

/-- **Formulas can be gathered in groups**, and what the groups amount to be combined. -/
theorem gather?_append (fs gs : List (Formula α)) :
    gather? c (fs ++ gs) = (gather? c fs).merge (combine c) (gather? c gs) := by
  cases fs with
  | nil => cases gs <;> simp [gather?]
  | cons f fs =>
    cases gs with
    | nil => simp [gather?]
    | cons g gs =>
      obtain ⟨x, hx, hxterms⟩ := exists_gather? (c := c) f fs
      obtain ⟨y, hy, hyterms⟩ := exists_gather? (c := c) g gs
      have hlength : 2 ≤ ((f :: fs) ++ (g :: gs)).length := by
        simp only [List.length_append, List.length_cons]
        omega
      rw [gather?_of_two_le hlength, hx, hy, Option.merge_some_some, combine, hxterms, hyterms,
        List.flatMap_append]

end Formula

/-! ## Filters on a root -/

namespace Filter

/-- The filters of a list that are present and restrict something. -/
def active (filters : List (Option Filter)) : List Filter :=
  (present filters).filter fun f => !f.isUnrestricted

theorem present_append (filters more : List (Option Filter)) :
    present (filters ++ more) = present filters ++ present more := List.filterMap_append

end Filter

namespace Root

variable (root : Root) (c : Connective)

/-- Makes the one condition that filters amount to, if any of them restricts something, and adds
the joins that they need. -/
def gather (filters : List Filter) : Option Condition × Root :=
  (Formula.gather? c (root.realizeEach filters).1.reduceOption, (root.realizeEach filters).2)

theorem gather_append (filters more : List Filter) :
    root.gather c (filters ++ more)
      = ((root.gather c filters).1.merge (Formula.combine c)
            ((root.gather c filters).2.gather c more).1,
          ((root.gather c filters).2.gather c more).2) := by
  simp only [gather, realizeEach_append, List.reduceOption_append, Formula.gather?_append]

theorem gather_singleton (filter : Filter) : root.gather c [filter] = root.realize filter := by
  have hsingle : root.gather c [filter]
      = (Formula.gather? c [(root.realize filter).1].reduceOption,
        (root.realize filter).2) := rfl
  rw [hsingle, List.reduceOption_singleton]
  obtain ⟨condition, next⟩ := root.realize filter
  cases condition <;> rfl

theorem realize_restricted (r : Restriction 0) :
    root.realize (.restricted r)
      = (some (r.realize root.table Scope.empty root.joins.length).1,
          { root with
            joins := root.joins
              ++ (r.realize root.table Scope.empty root.joins.length).2 }) := rfl

/-- One filter is realized, and then the others are gathered on the root that it leaves. -/
theorem gather_cons (filter : Filter) (filters : List Filter) :
    root.gather c (filter :: filters)
      = ((root.realize filter).1.merge (Formula.combine c)
            ((root.realize filter).2.gather c filters).1,
          ((root.realize filter).2.gather c filters).2) := by
  rw [← List.singleton_append, gather_append, gather_singleton]

theorem gather_unrestricted (filters : List Filter) :
    root.gather c (.unrestricted :: filters) = root.gather c filters := rfl

/-- Filters that restrict nothing drop out. -/
theorem gather_filter (filters : List Filter) :
    root.gather c (filters.filter fun f => !f.isUnrestricted) = root.gather c filters := by
  induction filters generalizing root with
  | nil => rfl
  | cons f filters ih =>
    cases f with
    | unrestricted => exact ih root
    | restricted r => rw [List.filter_cons_of_pos rfl, gather_cons, ih, ← gather_cons]

/-- The conditions of two filters are made one after the other, and combined. -/
theorem realize_combine (x y : Filter) :
    root.realize (Filter.combine c x y) = root.gather c [x, y] := by
  cases x with
  | unrestricted => exact (root.gather_singleton c y).symm
  | restricted x =>
    cases y with
    | unrestricted => exact (root.gather_singleton c (.restricted x)).symm
    | restricted y =>
      rw [gather_cons, gather_singleton, Filter.combine]
      simp only [realize_restricted, Restriction.realize_combine, Option.merge_some_some,
        List.length_append, List.append_assoc]

/-- What is gathered first may be gathered by itself. -/
theorem gather_congr {filters filters' : List Filter}
    (h : ∀ root : Root, root.gather c filters = root.gather c filters') (more : List Filter) :
    root.gather c (filters ++ more) = root.gather c (filters' ++ more) := by
  rw [gather_append, h, ← gather_append]

/-- A fold from the left gathers its operands. -/
theorem realize_foldl (x : Filter) (filters : List Filter) :
    root.realize (filters.foldl (Filter.combine c) x) = root.gather c (x :: filters) := by
  induction filters generalizing x with
  | nil => exact (root.gather_singleton c x).symm
  | cons y filters ih =>
    have hpair :
        ∀ root : Root, root.gather c [Filter.combine c x y] = root.gather c [x, y] := by
      intro root
      rw [gather_singleton, realize_combine]
    rw [List.foldl_cons, ih]
    exact root.gather_congr c hpair filters

theorem realize_fold_eq_gather (filters : List (Option Filter)) :
    root.realize (Filter.fold c filters) = root.gather c (Filter.present filters) := by
  rw [Filter.fold, realize_foldl, gather_unrestricted, Filter.present]

end Root

/-! ## Groupings -/

/-- A way to combine filters with one connective: a filter as it is, two
combinations side by side, as by `&&&` and `|||`, or a list of combinations that may
have gaps, as by `all` and `any`. -/
inductive Grouping
  | single (filter : Filter)
  | pair (x y : Grouping)
  | list (parts : List (Option Grouping))

namespace Grouping

mutual

/-- The filter that is combined. -/
def filter (c : Connective) : Grouping → Filter
  | single f => f
  | pair x y => Filter.combine c (x.filter c) (y.filter c)
  | list parts => Filter.fold c (filterEach c parts)

/-- The filters of the parts of a list. -/
def filterEach (c : Connective) : List (Option Grouping) → List (Option Filter)
  | [] => []
  | none :: parts => none :: filterEach c parts
  | some g :: parts => some (g.filter c) :: filterEach c parts

end

mutual

/-- The filters that go into a combination from left to right, and the gaps between them. -/
def entries : Grouping → List (Option Filter)
  | single f => [some f]
  | pair x y => x.entries ++ y.entries
  | list parts => entriesEach parts

/-- The filters that go into the parts of a list. -/
def entriesEach : List (Option Grouping) → List (Option Filter)
  | [] => []
  | none :: parts => none :: entriesEach parts
  | some g :: parts => g.entries ++ entriesEach parts

end

/-- Induction on a grouping, with the hypothesis for each part of a list. -/
theorem induct {motive : Grouping → Prop} (single : ∀ f, motive (.single f))
    (pair : ∀ x y, motive x → motive y → motive (.pair x y))
    (list : ∀ parts, (∀ g, some g ∈ parts → motive g) → motive (.list parts)) (g : Grouping) :
    motive g :=
  Grouping.rec (motive_2 := fun parts => ∀ g, some g ∈ parts → motive g)
    (motive_3 := fun part => ∀ g, part = some g → motive g)
    single pair list (fun _ h => absurd h List.not_mem_nil)
    (fun _ _ hpart hparts g hmem => by
      rcases List.mem_cons.1 hmem with heq | hmem
      · exact hpart g heq.symm
      · exact hparts g hmem)
    (fun _ h => absurd h.symm (Option.some_ne_none _))
    (fun _ hg _ h => Option.some.inj h ▸ hg) g

end Grouping

namespace Root

variable (root : Root) (c : Connective)

/-- **A combination gathers its entries, however it is grouped.** -/
theorem realize_grouping (g : Grouping) :
    root.realize (g.filter c) = root.gather c (Filter.present g.entries) := by
  induction g using Grouping.induct generalizing root with
  | single f => exact (root.gather_singleton c f).symm
  | pair x y ihx ihy =>
    rw [Grouping.filter, realize_combine, gather_cons, gather_singleton, ihx, ihy,
      ← gather_append, ← Filter.present_append, Grouping.entries]
  | list parts ih =>
    rw [Grouping.filter, realize_fold_eq_gather, Grouping.entries]
    induction parts generalizing root with
    | nil => rfl
    | cons part parts ihparts =>
      have hparts := ihparts fun g hg => ih g (List.mem_cons_of_mem part hg)
      cases part with
      | none => exact hparts root
      | some g =>
        rw [Grouping.filterEach, Grouping.entriesEach, Filter.present_append, gather_append,
          ← ih g List.mem_cons_self, ← hparts]
        exact root.gather_cons c (g.filter c) _

/-- The conditions of filters that restrict something. -/
theorem exists_realizeEach {filters : List Filter}
    (h : ∀ f ∈ filters, f.isUnrestricted = false) :
    ∃ conditions : List Condition, (root.realizeEach filters).1 = conditions.map some ∧
      conditions.length = filters.length := by
  induction filters generalizing root with
  | nil => exact ⟨[], rfl, rfl⟩
  | cons f filters ih =>
    cases f with
    | unrestricted => exact absurd (h _ List.mem_cons_self) Bool.true_eq_false.mp
    | restricted r =>
      obtain ⟨conditions, hconditions, hlength⟩ :=
        ih (root.realize (.restricted r)).2 fun f hf => h f (List.mem_cons_of_mem _ hf)
      refine ⟨(r.realize root.table Scope.empty root.joins.length).1 :: conditions, ?_, ?_⟩
      · rw [realizeEach_cons, hconditions, realize_restricted, List.map_cons]
      · rw [List.length_cons, List.length_cons, hlength]

/-- **What a combination with one connective amounts to is settled by the filters that are
present and restrict something, in their order.**  Without any it is unrestricted; one of
them is realized as it is; and several are realized one after the other, and give one
junction of the terms that their conditions contribute: those of a junction of the same kind,
and otherwise the condition itself.  However filters are grouped, by pairs or in lists with
gaps and lists in them, the condition and the joins are those of the fold over any list with
the same filters in it. -/
theorem realize_fold (root : Root) (c : Connective) (filters : List (Option Filter)) :
    let members := Filter.active filters
    ((Filter.fold c filters).isUnrestricted = true ↔ members = []) ∧
    (∀ f, members = [f] → root.realize (Filter.fold c filters) = root.realize f) ∧
    (2 ≤ members.length → ∃ (conditions : List Condition) (last : Root),
      root.realizeEach members = (conditions.map some, last) ∧
      root.realize (Filter.fold c filters)
        = (some (.junction c (conditions.flatMap (Formula.terms c))), last)) ∧
    ∀ g : Grouping, Filter.active g.entries = members →
      root.realize (g.filter c) = root.realize (Filter.fold c filters) := by
  intro members
  have hgather : ∀ entries : List (Option Filter),
      root.gather c (Filter.present entries) = root.gather c (Filter.active entries) :=
    fun entries => (root.gather_filter c (Filter.present entries)).symm
  have hfold : root.realize (Filter.fold c filters) = root.gather c members := by
    rw [realize_fold_eq_gather, hgather]
  refine ⟨?_, fun f hf => ?_, fun hlength => ?_, fun g hg => ?_⟩
  · rw [Filter.isUnrestricted_fold]
    simp [members, Filter.active, Filter.present, List.filter_eq_nil_iff]
  · rw [hfold, hf, gather_singleton]
  · have hmembers : ∀ f ∈ members, f.isUnrestricted = false := by
      intro f hf
      simpa using (List.mem_filter.1 hf).2
    obtain ⟨conditions, hconditions, hcount⟩ := root.exists_realizeEach hmembers
    refine ⟨conditions, (root.realizeEach members).2, by rw [← hconditions], ?_⟩
    have hreduce : (conditions.map some).reduceOption = conditions := by
      rw [List.reduceOption, List.filterMap_map]
      exact List.filterMap_some
    rw [hfold, gather, hconditions, hreduce, Formula.gather?_of_two_le (hcount ▸ hlength)]
  · rw [realize_grouping, hgather, hg, hfold]

/-- One filter stands among gaps; two filters give one junction, behind a join that is there
already; and a pair with a list in it gives the same. -/
theorem realize_fold_ratings :
    let ratings : Collection := ⟨"ratings", "show_id", ⟨"ratings", "id"⟩⟩
    let titled : Filter := .field "title" (.isNull true)
    let atLeast (stars : Int64) : Filter := .restricted (.withJoin (.joined .root
      (.collection ratings)) (.column ⟨.bound 0, [], "stars"⟩ (.compare .ge (.int stars))))
    let root : Root := ⟨⟨"shows", "id"⟩, [⟨0, .collection ⟨.root, "id", ratings⟩⟩]⟩
    root.realize (Filter.fold .conj [none, some (atLeast 4), some .unrestricted])
        = root.realize (atLeast 4) ∧
      (∃ (conditions : List Condition) (last : Root),
        root.realizeEach [titled, atLeast 4] = (conditions.map some, last) ∧
        root.realize (Filter.fold .conj [some titled, none, some (atLeast 4)])
          = (some (.junction .conj (conditions.flatMap (Formula.terms .conj))), last)) ∧
      root.realize
          ((Grouping.pair (.single titled)
              (.list [none, some (.single (atLeast 4))])).filter .conj)
        = root.realize (Filter.fold .conj [some titled, none, some (atLeast 4)]) := by
  intro ratings titled atLeast root
  obtain ⟨-, hone, -, -⟩ :=
    realize_fold root .conj [none, some (atLeast 4), some .unrestricted]
  obtain ⟨-, -, htwo, hgrouped⟩ :=
    realize_fold root .conj [some titled, none, some (atLeast 4)]
  exact ⟨hone _ rfl, htwo (Nat.le_refl 2), hgrouped _ rfl⟩

end Root

end RecordQuery
