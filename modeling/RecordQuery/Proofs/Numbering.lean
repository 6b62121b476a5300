import RecordQuery.Proofs.Logic.Numbering
import RecordQuery.Sql.Statement

/-!
# Numbered placeholders

What comes of handing out placeholders one after the other: the values of a condition are those
of its atoms from left to right, and the placeholder of a value has the first number plus the
number of values before it.

## Main Definitions

* `Condition.parameters` — the values of a condition from left to right
* `Condition.search` — the search condition of a condition, placeholders by their places
* `Selection.query`, `Selection.parameters` — the same for a whole query
* `Sql.Slots.extend` — the state after some more values

## Main Statements

* `Condition.run_inStatement` — a condition takes its placeholders as its places say
* `Condition.clause_eq`, `Filter.select_eq` and so on — clauses and statements by their places
* `Condition.parameters_of_mem_placed` — an atom finds its values at its place

## Design Notes

For each step that hands out placeholders there is one equation.  It says what is written, given
the number of the next placeholder, and that the state is extended by the values of the step.
-/

namespace RecordQuery

-- sums start from the literal zero, whatever other zeros a library brings
attribute [local instance (high)] Zero.ofOfNat0

/-! ## Values and places -/

/-- The values of a test from left to right. -/
def Test.parameters : Test → List Scalar
  | compare _ value => [value]
  | between low high => [low, high]
  | oneOf values => values
  | isNull _ => []
  | isBool _ => []
  | like pattern _ _ => [.text pattern]

/-- The values of a test of a collection. -/
def Presence.parameters : Presence → List Scalar
  | empty _ => []
  | member key _ => [key]

/-- The values of an atom from left to right. -/
def Atom.parameters : Atom → List Scalar
  | column _ test => test.parameters
  | related _ presence => presence.parameters

/-- The values of a condition from left to right. -/
def Condition.parameters (condition : Condition) : List Scalar :=
  condition.atoms.flatMap Atom.parameters

/-- The number of values of an atom. -/
def Atom.arity (atom : Atom) : Nat := atom.parameters.length

/-- The test with placeholders from `n` on. -/
def Test.search (c : Sql.ColumnName) (n : Int32) : Test → Sql.Predicate
  | compare op _ => .compare c op n
  | between _ _ => .between c n (n + 1)
  | oneOf values => .oneOf c ((List.range values.length).map fun i => n + Int32.ofNat i)
  | isNull negated => .isNull c negated
  | isBool b => .isBool c b
  | like _ escape negated => .like c n escape negated

/-- The test of a collection with placeholders from `n` on. -/
def Presence.search (schema : Option String) (related : Related) (n : Int32) :
    Presence → Sql.Predicate
  | empty negated => .exists (related.subquery schema none) (!negated)
  | member _ negated =>
    .exists (related.subquery schema (some (related.collection.target.primaryKey, n))) negated

/-- The atom with placeholders from `n` on. -/
def Atom.search (schema : Option String) (n : Int32) : Atom → Sql.Predicate
  | column c test => test.search c.inStatement n
  | related r presence => presence.search schema r n

/-- The search condition with placeholders from `first` on. -/
def Condition.search (schema : Option String) (first : Int32) (condition : Condition) :
    Sql.SearchCondition :=
  condition.number Atom.arity
    (fun place atom => atom.search schema (first + Int32.ofNat place)) 0

/-- The values of the condition of a selection. -/
def Selection.parameters (selection : Selection) : List Scalar :=
  (selection.condition.map Condition.parameters).getD []

/-- The query over the rows of a selection, placeholders from one on. -/
def Selection.query (selection : Selection) (schema : Option String) (table : Table)
    (projection : Sql.Projection) : Sql.Query :=
  { projection
    schema
    table := table.name
    joins := selection.joinClauses
    condition := selection.condition.map (Condition.search schema 1)
    sorting := []
    window := none }

/-! ## Handing out placeholders -/

namespace Sql.Slots

/-- The state after placeholders for some more values. -/
def extend (slots : Slots) (values : List Scalar) : Slots :=
  ⟨slots.next + Int32.ofNat values.length, slots.parameters ++ values⟩

theorem extend_nil (slots : Slots) : slots.extend [] = slots := by
  rw [extend, List.append_nil]
  exact congrArg (Slots.mk · _) (Int32.add_zero _)

theorem extend_append (slots : Slots) (vs ws : List Scalar) :
    slots.extend (vs ++ ws) = (slots.extend vs).extend ws := by
  simp only [extend, List.length_append, Int32.ofNat_add, Int32.add_assoc, List.append_assoc]

theorem run_push (value : Scalar) (slots : Slots) :
    (push value).run slots = (slots.next, slots.extend [value]) := rfl

/-- Values get their placeholders one after the other. -/
theorem run_mapM_push (values : List Scalar) (slots : Slots) :
    (values.mapM push).run slots
      = ((List.range values.length).map fun i => slots.next + Int32.ofNat i,
          slots.extend values) := by
  induction values generalizing slots with
  | nil => rw [extend_nil]; rfl
  | cons v vs ih =>
    have hplace : ∀ i, (slots.extend [v]).next + Int32.ofNat i
        = slots.next + Int32.ofNat (i + 1) := by
      intro i
      rw [Nat.add_comm i, Int32.ofNat_add, ← Int32.add_assoc]
      rfl
    have hvalues : slots.extend (v :: vs) = (slots.extend [v]).extend vs :=
      extend_append slots [v] vs
    rw [List.mapM_cons, StateM.run_bind_of_eq (run_push v slots), StateM.run_bind_of_eq (ih _),
      List.length_cons, List.range_succ_eq_map, List.map_cons, List.map_map, hvalues,
      funext hplace, show slots.next + Int32.ofNat 0 = slots.next from Int32.add_zero _]
    rfl

end Sql.Slots

open Sql Sql.Slots

theorem Test.run_inStatement (c : ColumnName) (test : Test) (slots : Slots) :
    (test.inStatement c).run slots
      = (test.search c slots.next, slots.extend test.parameters) := by
  cases test with
  | compare op value => rfl
  | between low high =>
    have hvalues : slots.extend [low, high] = (slots.extend [low]).extend [high] :=
      extend_append slots [low] [high]
    rw [inStatement, StateM.run_bind_of_eq (run_push low slots),
      StateM.run_bind_of_eq (run_push high _), parameters, hvalues]
    rfl
  | oneOf values => exact StateM.run_bind_of_eq (run_mapM_push values slots) _
  | isNull negated => rw [parameters, extend_nil]; rfl
  | isBool b => rw [parameters, extend_nil]; rfl
  | like pattern escape negated => rfl

theorem Presence.run_inStatement (schema : Option String) (related : Related)
    (presence : Presence) (slots : Slots) :
    (presence.inStatement schema related).run slots
      = (presence.search schema related slots.next, slots.extend presence.parameters) := by
  cases presence with
  | empty negated => rw [parameters, extend_nil]; rfl
  | member key negated => rfl

theorem Atom.run_inStatement (schema : Option String) (atom : Atom) (slots : Slots) :
    (atom.inStatement schema).run slots
      = (atom.search schema slots.next, slots.extend atom.parameters) := by
  cases atom with
  | column c test => exact test.run_inStatement c.inStatement slots
  | related r presence => exact presence.run_inStatement schema r slots

/-- **A condition takes its placeholders as its places say.**  From left to right
each value gets the next placeholder, so its number is that of the first one and the
number of values before it. -/
theorem Condition.run_inStatement (schema : Option String) (condition : Condition)
    (slots : Slots) :
    (condition.inStatement schema).run slots
      = (condition.search schema slots.next, slots.extend condition.parameters) := by
  have hstep : ∀ (as : List Atom) (a : Atom),
      (a.inStatement schema).run (slots.extend (as.flatMap Atom.parameters))
        = (a.search schema (slots.next + Int32.ofNat (as.map Atom.arity).sum),
            slots.extend ((as ++ [a]).flatMap Atom.parameters)) := by
    intro as a
    have hplace : (as.map Atom.arity).sum = (as.flatMap Atom.parameters).length :=
      List.length_flatMap.symm
    rw [Atom.run_inStatement, ← extend_append, List.flatMap_append, List.flatMap_singleton,
      hplace]
    rfl
  have hrun := Formula.run_mapM_eq_number
    (g := fun place a => a.search schema (slots.next + Int32.ofNat place)) hstep condition []
  rwa [List.flatMap_nil, extend_nil] at hrun

theorem Condition.clause_eq (schema : Option String) (first : Int32) (condition : Condition) :
    condition.clause schema first
      = { condition := condition.search schema first
          parameters := condition.parameters
          next := first + Int32.ofNat condition.parameters.length } := by
  rw [clause, run_inStatement]
  rfl

theorem Selection.run_inStatement (selection : Selection) (schema : Option String)
    (table : Table) (projection : Projection) :
    (selection.inStatement schema table projection).run ⟨1, []⟩
      = (selection.query schema table projection, extend ⟨1, []⟩ selection.parameters) := by
  obtain ⟨condition, joins⟩ := selection
  cases condition with
  | none => rfl
  | some condition =>
    have hcondition := condition.run_inStatement schema ⟨1, []⟩
    exact StateM.run_bind_of_eq (StateM.run_mapM_some hcondition) _

/-- The limit and the offset of a page get the next two placeholders. -/
theorem Page.run_inStatement (page : Page) (slots : Slots) :
    page.inStatement.run slots
      = ((slots.next, slots.next + 1), slots.extend [.int page.limit, .int page.offset]) := by
  have hvalues := extend_append slots [.int page.limit] [.int page.offset]
  rw [List.singleton_append] at hvalues
  rw [hvalues]
  rfl

namespace Filter

variable (table : Table) (schema : Option String) (options : QueryOptions) (filter : Filter)

theorem select_eq :
    filter.select table schema options
      = let selection := filter.selection table
        let next : Int32 := 1 + Int32.ofNat selection.parameters.length
        { query :=
            { selection.query schema table (.rows !selection.joins.isEmpty) with
              sorting := options.sorting
              window := options.page.map fun _ => (next, next + 1) }
          parameters := selection.parameters ++
            (options.page.map fun page => [.int page.limit, .int page.offset]).getD [] } := by
  obtain ⟨sorting, page⟩ := options
  have hquery := (filter.selection table).run_inStatement schema table
    (.rows !(filter.selection table).joins.isEmpty)
  rw [select, Statement.of, StateM.run_bind_of_eq hquery]
  cases page with
  | none => exact congrArg (Statement.mk _) (List.append_nil _).symm
  | some page =>
    rw [StateM.run_bind_of_eq (StateM.run_mapM_some (page.run_inStatement _))]
    rfl

theorem countStatement_eq :
    filter.countStatement table schema
      = let selection := filter.selection table
        let column := if selection.joins.isEmpty then none else some table.primaryKey
        { query := selection.query schema table (.count column)
          parameters := selection.parameters } := by
  rw [countStatement, Statement.of, Selection.run_inStatement]
  rfl

theorem existsStatement_eq :
    filter.existsStatement table schema
      = { query := (filter.selection table).query schema table .existence
          parameters := (filter.selection table).parameters } := by
  rw [existsStatement, Statement.of, Selection.run_inStatement]
  rfl

end Filter

/-! ## Atoms at their places -/

namespace Condition

variable {condition : Condition} {k : Nat} {a : Atom}

/-- A condition takes as many places as it has values. -/
theorem length_parameters (condition : Condition) :
    condition.parameters.length = condition.places Atom.arity :=
  List.length_flatMap

/-- The places of an atom lie among those of the condition. -/
theorem add_arity_le_of_mem_placed (h : (k, a) ∈ placed Atom.arity 0 condition.atoms) :
    k + a.arity ≤ condition.parameters.length := by
  rw [length_parameters, Formula.places, ← Nat.zero_add (List.sum _)]
  exact (le_of_mem_placed h).2

/-- An atom finds its values among those of the condition from its place on. -/
theorem parameters_of_mem_placed (h : (k, a) ∈ placed Atom.arity 0 condition.atoms) {i : Nat}
    (hi : i < a.parameters.length) : condition.parameters[k + i]? = a.parameters[i]? := by
  have hvalue := getElem?_flatMap_of_mem_placed (β := Scalar) (fun _ => rfl) h hi
  rwa [Nat.sub_zero] at hvalue

/-- The tests of a written condition are those of its atoms, with
placeholders for their values. -/
theorem atoms_search (schema : Option String) (first : Int32) (condition : Condition) :
    Formula.atoms (condition.search schema first)
      = (placed Atom.arity 0 condition.atoms).map fun p =>
          p.2.search schema (first + Int32.ofNat p.1) :=
  Formula.atoms_number _ _ _ _

end Condition

end RecordQuery
