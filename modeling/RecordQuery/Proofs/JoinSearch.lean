import Mathlib.Data.List.Sigma
import RecordQuery.Proofs.Choice
import RecordQuery.Proofs.Realization

/-!
# Searching for joined rows

Decides a condition by depth-first search with one stack: the rows that are bound
for the joins so far.  A row is pushed to go on with it, and popped when there is
nothing more to try below it.

## Main Definitions

* `Choice` — the rows on the stack, each with its position among the rows of its join
* `Search` — the stack, and all complete choices that were tried
* `Search.run` — the search
* `Search.scan` — tries choices one after the other

## Main Statements

* `Search.run_eq_scan` — the search tries the choices of the enumeration in their order
* `Search.bound_run` — a search that fails leaves the stack as it was
* `Filter.accepts_iff_exists_choice` — a record matches if some choice of rows fits, and the
  search decides this without a choice left out or tried twice

## Design Notes

The join to go on with is found by the height of the stack, so a row too many or too few on it
would lead the search astray.  Positions tell apart the rows of a join that are equal.
-/

namespace RecordQuery

/-- Rows for the first joins, each with its position among the rows that its join offers. -/
abbrev Choice := List (Json × Nat)

/-- The binding of the rows of a choice. -/
def Choice.binding (record : Json) (choice : Choice) : Binding := ⟨record, choice.map Prod.fst⟩

/-- Whether there is one row for each join, at its position among the rows that the join offers
after the choice of those before. -/
def Choice.IsComplete (record : Json) (joins : List Join) (choice : Choice) : Prop :=
  OneEach (fun before join row =>
    (join.rowsAt (Choice.binding record before))[row.2]? = some row.1) joins choice

/-- All ways to go on with a choice of one row for each join. -/
def choices (record : Json) : Choice → List Join → List Choice :=
  enumerate fun before join => (join.rowsAt (Choice.binding record before)).zipIdx

theorem mem_choices {record : Json} {joins : List Join} {choice : Choice} :
    choice ∈ choices record [] joins ↔ choice.IsComplete record joins := by
  simp only [choices, mem_enumerate, List.mem_zipIdx_iff_getElem?, Choice.IsComplete]

theorem nodup_choices (record : Json) (before : Choice) (joins : List Join) :
    (choices record before joins).Nodup :=
  nodup_enumerate (fun _ _ => (List.nodup_zipIdx_map_snd _).of_map) before joins

/-- The rows of the choices are the combinations. -/
theorem map_choices (record : Json) (before : Choice) (joins : List Join) :
    (choices record before joins).map (List.map Prod.fst)
      = combinations record (before.map Prod.fst) joins := by
  induction joins generalizing before with
  | nil => rfl
  | cons join joins ih =>
    have hstep : ∀ row : Json × Nat,
        (choices record (before ++ [row]) joins).map (List.map Prod.fst)
          = combinations record (before.map Prod.fst ++ [row.1]) joins := by
      intro row
      rw [ih, List.map_append, List.map_singleton]
    rw [choices, enumerate, ← choices, List.map_flatMap, combinations, enumerate,
      ← combinations]
    simp only [hstep]
    rw [← List.zipIdx_map_fst 0 (join.rowsAt ⟨record, before.map Prod.fst⟩), List.flatMap_map]
    rfl

/-- The state of a search: the rows bound at present, and the complete choices that were tried,
the last one at the end. -/
structure Search where
  bound : Choice
  tried : List Choice

namespace Search

/-- Binds one more row. -/
def push (s : Search) (row : Json × Nat) : Search := { s with bound := s.bound ++ [row] }

/-- Gives up the row that was bound last. -/
def pop (s : Search) : Search := { s with bound := s.bound.dropLast }

/-- Tries the rows of a join in turn, and stops at one below which something is found. -/
def tryRows (below : Search → Bool × Search) : List (Json × Nat) → Search → Bool × Search
  | [], s => (false, s)
  | row :: rows, s =>
    match below (s.push row) with
    | (true, t) => (true, t)
    | (false, t) => tryRows below rows t.pop

section

variable (condition : Condition) (record : Json) (joins : List Join)

/-- Whether the condition is true of a choice. -/
def succeeds (choice : Choice) : Bool := condition.truth (choice.binding record) == .yes

/-- Tries the choice on the stack. -/
def test (s : Search) : Bool × Search :=
  (succeeds condition record s.bound, { s with tried := s.tried ++ [s.bound] })

/-- Searches for rows of the joins that remain, `n` of them at most. -/
def run : Nat → Search → Bool × Search
  | 0, s =>
    match joins[s.bound.length]? with
    | none => s.test condition record
    | some _ => (false, s)
  | n + 1, s =>
    match joins[s.bound.length]? with
    | none => s.test condition record
    | some join => tryRows (run n) (join.rowsAt (s.bound.binding record)).zipIdx s

/-- Tries choices one after the other, and stops at one that succeeds. -/
def scan : List Choice → Search → Bool × Search
  | [], s => (false, s)
  | choice :: choices, s =>
    if succeeds condition record choice then (true, ⟨choice, s.tried ++ [choice]⟩)
    else scan choices ⟨s.bound, s.tried ++ [choice]⟩

end

variable {condition : Condition} {record : Json} {joins : List Join}

/-! ## Trying choices in turn -/

theorem scan_fst (cs : List Choice) (s : Search) :
    (scan condition record cs s).1 = cs.any (succeeds condition record) := by
  induction cs generalizing s with
  | nil => rfl
  | cons c cs ih =>
    rw [scan, List.any_cons]
    split
    · rename_i hc
      rw [hc, Bool.true_or]
    · rename_i hc
      rw [ih, Bool.not_eq_true _ |>.mp hc, Bool.false_or]

/-- A scan that fails leaves the stack as it was and has tried all choices. -/
theorem scan_of_not {cs : List Choice} {s : Search}
    (h : (scan condition record cs s).1 = false) :
    scan condition record cs s = (false, ⟨s.bound, s.tried ++ cs⟩) := by
  induction cs generalizing s with
  | nil => rw [scan, List.append_nil]
  | cons c cs ih =>
    rw [scan] at h ⊢
    split at h
    · exact absurd h Bool.true_eq_false.mp
    · rename_i hc
      rw [if_neg hc, ih h, List.append_assoc]
      rfl

/-- A scan that succeeds has tried the choices up to one that succeeds,
which is on the stack. -/
theorem scan_of_found {cs : List Choice} {s : Search}
    (h : (scan condition record cs s).1 = true) :
    ∃ before c after, cs = before ++ c :: after ∧ succeeds condition record c = true ∧
      scan condition record cs s = (true, ⟨c, s.tried ++ before ++ [c]⟩) := by
  induction cs generalizing s with
  | nil => exact absurd h Bool.false_ne_true
  | cons c cs ih =>
    rw [scan] at h ⊢
    by_cases hc : succeeds condition record c = true
    · rw [if_pos hc]
      exact ⟨[], c, cs, rfl, hc, by rw [List.append_nil]⟩
    · rw [if_neg hc] at h ⊢
      obtain ⟨before, c', after, rfl, hc', hscan⟩ := ih h
      refine ⟨c :: before, c', after, rfl, hc', ?_⟩
      rw [hscan, List.append_assoc s.tried]
      rfl

theorem scan_append (cs ds : List Choice) (s : Search) :
    scan condition record (cs ++ ds) s
      = match scan condition record cs s with
        | (true, t) => (true, t)
        | (false, t) => scan condition record ds t := by
  induction cs generalizing s with
  | nil => rfl
  | cons c cs ih =>
    rw [List.cons_append, scan, scan]
    split
    · rfl
    · exact ih _

/-- What is on the stack at first does not matter to a scan that succeeds. -/
theorem scan_eq_of_found {cs : List Choice} {s t : Search} (htried : s.tried = t.tried)
    (h : (scan condition record cs s).1 = true) :
    scan condition record cs s = scan condition record cs t := by
  induction cs generalizing s t with
  | nil => exact absurd h Bool.false_ne_true
  | cons c cs ih =>
    rw [scan] at h
    rw [scan, scan]
    split at h
    · rename_i hc
      rw [if_pos hc, if_pos hc, htried]
    · rename_i hc
      rw [if_neg hc, if_neg hc]
      exact ih (congrArg (· ++ [c]) htried) h

/-! ## The search -/

/-- If the search below each row is a scan, trying the rows in turn is one scan.  Where the scan
below a row fails, popping that row restores the stack for the next one. -/
theorem tryRows_eq_scan {below : Search → Bool × Search} {f : Json × Nat → List Choice}
    {rows : List (Json × Nat)} {s : Search}
    (h : ∀ row ∈ rows, ∀ t : Search, t.bound = s.bound →
      below (t.push row) = scan condition record (f row) (t.push row)) :
    tryRows below rows s = scan condition record (rows.flatMap f) s := by
  induction rows generalizing s with
  | nil => rfl
  | cons row rows ih =>
    rw [tryRows, h row List.mem_cons_self s rfl, List.flatMap_cons, scan_append]
    cases hfound : (scan condition record (f row) (s.push row)).1 with
    | true =>
      have hsame :
          scan condition record (f row) (s.push row) = scan condition record (f row) s :=
        scan_eq_of_found rfl hfound
      rw [hsame] at hfound ⊢
      obtain ⟨before, c, after, -, -, hscan⟩ := scan_of_found hfound
      rw [hscan]
    | false =>
      have hfound' : (scan condition record (f row) s).1 = false := by
        rw [scan_fst] at hfound ⊢
        exact hfound
      have hpop : pop ⟨(s.push row).bound, (s.push row).tried ++ f row⟩
          = ⟨s.bound, s.tried ++ f row⟩ := by simp [pop, push]
      rw [scan_of_not hfound, scan_of_not hfound']
      simp only [hpop]
      exact ih fun row' hrow' t ht => h row' (List.mem_cons_of_mem row hrow') t ht

/-- **The search tries the choices of the enumeration in their order.**  The induction is on the
number of joins that remain above the stack. -/
theorem run_eq_scan {n : Nat} {s : Search} (hn : joins.length ≤ s.bound.length + n) :
    run condition record joins n s
      = scan condition record (choices record s.bound (joins.drop s.bound.length)) s := by
  have htest : ∀ s : Search, joins.drop s.bound.length = [] →
      s.test condition record
        = scan condition record (choices record s.bound (joins.drop s.bound.length)) s := by
    intro s hs
    rw [hs, choices, enumerate, scan, scan, test]
    split
    · rename_i hc
      rw [hc]
    · rename_i hc
      rw [Bool.not_eq_true _ |>.mp hc]
  induction n generalizing s with
  | zero =>
    have hnone : joins[s.bound.length]? = none := List.getElem?_eq_none hn
    rw [run, hnone]
    exact htest s (List.drop_eq_nil_of_le hn)
  | succ n ih =>
    rw [run]
    cases hjoin : joins[s.bound.length]? with
    | none => exact htest s (List.drop_eq_nil_of_le (List.getElem?_eq_none_iff.1 hjoin))
    | some join =>
      obtain ⟨hlt, hget⟩ := List.getElem?_eq_some_iff.1 hjoin
      have hdrop : joins.drop s.bound.length = join :: joins.drop (s.bound.length + 1) := by
        rw [← hget, List.drop_eq_getElem_cons hlt]
      rw [hdrop, choices, enumerate]
      refine tryRows_eq_scan fun row _ t ht => ?_
      have hlength : (t.push row).bound.length = s.bound.length + 1 := by simp [push, ht]
      have hbelow := ih (s := t.push row) (by omega)
      rw [hlength] at hbelow
      rw [hbelow, choices]
      simp [push, ht]

/-- A search that fails leaves the stack as it was. -/
theorem bound_run {n : Nat} {s : Search} (hn : joins.length ≤ s.bound.length + n)
    (h : (run condition record joins n s).1 = false) :
    (run condition record joins n s).2.bound = s.bound := by
  rw [run_eq_scan hn] at h ⊢
  rw [scan_of_not h]

end Search

/-- What the search for rows of all joins finds, and its state afterwards. -/
def search (condition : Condition) (record : Json) (joins : List Join) : Bool × Search :=
  Search.run condition record joins joins.length ⟨[], []⟩

variable {condition : Condition} {record : Json} {joins : List Join}

theorem search_eq_scan :
    search condition record joins
      = Search.scan condition record (choices record [] joins) ⟨[], []⟩ :=
  Search.run_eq_scan (Nat.le_add_left _ _)

/-- The search decides the condition. -/
theorem search_fst :
    (search condition record joins).1 = condition.holdsBelow ⟨record, []⟩ joins := by
  have hcombinations : combinations record [] joins
      = (choices record [] joins).map (List.map Prod.fst) := (map_choices record [] joins).symm
  rw [search_eq_scan, Search.scan_fst, Condition.holdsBelow_eq_any, hcombinations, List.any_map]
  rfl

/-- The choices that were tried are the first ones of the enumeration. -/
theorem tried_search_prefix_choices :
    (search condition record joins).2.tried <+: choices record [] joins := by
  rw [search_eq_scan]
  cases hfound : (Search.scan condition record (choices record [] joins) ⟨[], []⟩).1 with
  | false => rw [Search.scan_of_not hfound]; exact List.prefix_rfl
  | true =>
    obtain ⟨before, c, after, hchoices, -, hscan⟩ := Search.scan_of_found hfound
    rw [hscan, hchoices]
    exact ⟨after, by simp⟩

/-- A search that fails has tried all choices. -/
theorem tried_search_of_not (h : (search condition record joins).1 = false) :
    (search condition record joins).2.tried = choices record [] joins := by
  rw [search_eq_scan] at h ⊢
  rw [Search.scan_of_not h]
  rfl

/-- A search that succeeds has a choice on the stack that does. -/
theorem bound_search_of_found (h : (search condition record joins).1 = true) :
    (search condition record joins).2.bound.IsComplete record joins ∧
      condition.truth ((search condition record joins).2.bound.binding record) = .yes := by
  rw [search_eq_scan] at h ⊢
  obtain ⟨before, c, after, hchoices, hc, hscan⟩ := Search.scan_of_found h
  rw [hscan]
  refine ⟨mem_choices.1 ?_, beq_iff_eq.1 hc⟩
  rw [hchoices]
  exact List.mem_append_right before List.mem_cons_self

/-- A record matches a filter without a restriction, and one whose condition is true of some
complete binding. -/
theorem Filter.accepts_iff {table : Table} {filter : Filter} :
    filter.accepts table record = true ↔ filter.isUnrestricted = true ∨
      ∃ condition rows, (filter.selection table).condition = some condition ∧
        Binding.Completes (filter.selection table).joins ⟨record, rows⟩ ∧
          condition.truth ⟨record, rows⟩ = .yes := by
  cases filter with
  | unrestricted => exact iff_of_true rfl (.inl rfl)
  | restricted r =>
    have haccepts : (restricted r).accepts table record
        = (r.realize table Scope.empty 0).1.holdsBelow ⟨record, []⟩
            (r.realize table Scope.empty 0).2 := rfl
    rw [haccepts, Condition.holdsBelow_iff]
    constructor
    · rintro ⟨rows, hcompletes, htruth⟩
      exact .inr ⟨_, rows, rfl, hcompletes, htruth⟩
    · rintro (h | ⟨condition, rows, hcondition, hcompletes, htruth⟩)
      · exact absurd h Bool.false_ne_true
      · obtain rfl := Option.some.inj hcondition
        exact ⟨rows, hcompletes, htruth⟩

/-- **A record matches a filter if the filter is unrestricted or its condition is true of some
choice of one row for each join**, each row led to from the row of its owner.  Where a join has
no row no condition matches.  The search with a stack decides the same: it tries complete
choices, none of them twice, and all of them if it fails; it ends on one that succeeds
otherwise; and whatever fails below a stack leaves the stack as it was. -/
theorem Filter.accepts_iff_exists_choice (table : Table) (filter : Filter) (record : Json) :
    let joins := (filter.selection table).joins
    (filter.accepts table record = true ↔ filter.isUnrestricted = true ∨
      ∃ condition rows, (filter.selection table).condition = some condition ∧
        Binding.Completes joins ⟨record, rows⟩ ∧ condition.truth ⟨record, rows⟩ = .yes) ∧
    (∀ i join, joins[i]? = some join →
      (∀ rows, Binding.Completes (joins.take i) ⟨record, rows⟩ → ¬ ∃ owner row,
        Binding.row? ⟨record, rows⟩ join.owner = some owner ∧ join.Leads owner row) →
      ∀ condition, Selection.accepts ⟨some condition, joins⟩ record = false) ∧
    ∀ condition, (filter.selection table).condition = some condition →
      ∃ s, search condition record joins = (filter.accepts table record, s) ∧
        s.tried.Nodup ∧ (∀ choice ∈ s.tried, choice.IsComplete record joins) ∧
        (filter.accepts table record = false →
          ∀ choice, Choice.IsComplete record joins choice → choice ∈ s.tried) ∧
        (filter.accepts table record = true →
          s.bound.IsComplete record joins ∧
            condition.truth (s.bound.binding record) = .yes) ∧
        ∀ n t, joins.length ≤ t.bound.length + n →
          (Search.run condition record joins n t).1 = false →
            (Search.run condition record joins n t).2.bound = t.bound := by
  intro joins
  refine ⟨accepts_iff, fun i join hjoin hnone condition => ?_, fun condition hcondition => ?_⟩
  · exact Condition.holdsBelow_eq_false hjoin hnone condition
  · have haccepts : filter.accepts table record = (search condition record joins).1 := by
      rw [search_fst, accepts, Selection.accepts, hcondition]
    refine ⟨(search condition record joins).2, ?_, ?_, ?_, ?_, ?_, ?_⟩
    · rw [haccepts]
    · exact (nodup_choices record [] joins).sublist tried_search_prefix_choices.sublist
    · intro choice hchoice
      exact mem_choices.1 (tried_search_prefix_choices.subset hchoice)
    · intro hfails choice hchoice
      rw [haccepts] at hfails
      rw [tried_search_of_not hfails]
      exact mem_choices.2 hchoice
    · intro hfound
      rw [haccepts] at hfound
      exact bound_search_of_found hfound
    · intro n t hn hfails
      exact Search.bound_run hn hfails

/-- One rating with enough stars is found among others. -/
theorem Filter.accepts_iff_exists_choice_ratings :
    let ratings : Collection := ⟨"ratings", "show_id", ⟨"ratings", "id"⟩⟩
    let filter : Filter := .restricted (.withJoin (.joined .root (.collection ratings))
      (.column ⟨.bound 0, [], "stars"⟩ (.compare .ge (.int 4))))
    let rating (stars : Int) : Json := .object [("stars", .number (.integer stars))]
    ∃ condition rows, (filter.selection ⟨"shows", "id"⟩).condition = some condition ∧
      Binding.Completes (filter.selection ⟨"shows", "id"⟩).joins
        ⟨.object [("ratings", .array [rating 2, rating 5])], rows⟩ ∧
      condition.truth ⟨.object [("ratings", .array [rating 2, rating 5])], rows⟩ = .yes := by
  intro ratings filter rating
  have haccepts : filter.accepts ⟨"shows", "id"⟩
      (.object [("ratings", .array [rating 2, rating 5])]) = true := by decide
  exact ((Filter.accepts_iff_exists_choice _ _ _).1.1 haccepts).resolve_left Bool.false_ne_true

end RecordQuery
