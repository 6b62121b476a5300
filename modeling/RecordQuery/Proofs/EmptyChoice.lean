import RecordQuery.Matching
import RecordQuery.Proofs.Logic.Substitution
import RecordQuery.Proofs.Numbering
import RecordQuery.Proofs.Sql.Separation
import RecordQuery.Sql.Statement

/-!
# Choices among no values

A choice among no values is written as the constant false.  A record that has a value in
the column fails it as well, but of a missing value it is unknown, and a complement
above it tells the two apart.

## Main Definitions

* `Condition.withoutEmptyChoices` — the constant false stands for every choice among no values

## Main Statements

* `Condition.lexemes_search_withoutEmptyChoices` — the two conditions are written alike
* `Condition.refinedBy_withoutEmptyChoices` — and they differ at missing values only, where the
  condition is unknown
* `Condition.withoutEmptyChoices_ne` — where they do differ, and a record is lost by it
-/

namespace RecordQuery

/-- The constant false for a choice among no values, and any other atom as it is. -/
def Atom.withoutEmptyChoice : Atom → Condition
  | column _ (.oneOf []) => .never
  | a => .atom a

/-- The condition with the constant false for every choice among no values. -/
def Condition.withoutEmptyChoices (condition : Condition) : Condition :=
  condition.bind Atom.withoutEmptyChoice

namespace Atom

/-- An atom stays as it is unless it is a choice among no values. -/
theorem withoutEmptyChoice_cases (a : Atom) :
    (∃ c, a = .column c (.oneOf []) ∧ a.withoutEmptyChoice = .never) ∨
      a.withoutEmptyChoice = .atom a := by
  unfold withoutEmptyChoice
  split
  · next c => exact .inl ⟨c, rfl, rfl⟩
  · exact .inr rfl

theorem parameters_withoutEmptyChoice (a : Atom) :
    a.withoutEmptyChoice.parameters = a.parameters := by
  obtain ⟨c, rfl, hnever⟩ | hsame := a.withoutEmptyChoice_cases
  · rw [hnever]
    rfl
  · rw [hsame]
    exact List.append_nil _

theorem truth_emptyChoice (binding : Binding) (c : Column) :
    (column c (.oneOf [])).truth binding
      = if (binding.column? c).isSome then .no else .unknown := by
  rw [truth]
  cases binding.column? c <;> rfl

theorem refinedBy_withoutEmptyChoice (binding : Binding) (a : Atom) :
    (a.truth binding).RefinedBy (a.withoutEmptyChoice.truth binding) := by
  obtain ⟨c, rfl, hnever⟩ | hsame := a.withoutEmptyChoice_cases
  · rw [hnever, truth_emptyChoice]
    split
    · exact .refl _
    · exact .unknown _
  · rw [hsame]
    exact .refl _

end Atom

/-- The terms of a junction enter only as they are written. -/
theorem Sql.SearchCondition.lexemes_junction_congr {ts ts' : List SearchCondition}
    (c : Connective) (h : ts.map lexemes = ts'.map lexemes) :
    lexemes (.junction c ts) = lexemes (.junction c ts') := by
  have hparts : partLexemes ts = partLexemes ts' := by
    simpa [Function.comp_def] using congrArg (List.map Lexeme.parens) h
  cases ts with
  | nil =>
    obtain rfl : ts' = [] := by simpa using h.symm
    rfl
  | cons t ts =>
    cases ts' with
    | nil => simp at h
    | cons t' ts' => rw [lexemes, lexemes, hparts]

namespace Condition

variable (condition : Condition)

theorem parameters_withoutEmptyChoices :
    condition.withoutEmptyChoices.parameters = condition.parameters := by
  rw [parameters, parameters, withoutEmptyChoices, Formula.atoms_bind, List.flatMap_assoc]
  exact congrArg List.flatten
    (List.map_congr_left fun a _ => a.parameters_withoutEmptyChoice)

/-- **The two conditions are written alike.** -/
theorem lexemes_search_withoutEmptyChoices (schema : Option String) (first : Int32) :
    Sql.SearchCondition.lexemes (condition.withoutEmptyChoices.search schema first)
      = Sql.SearchCondition.lexemes (condition.search schema first) := by
  have hplaces : ∀ f : Condition,
      f.withoutEmptyChoices.places Atom.arity = f.places Atom.arity := by
    intro f
    rw [← length_parameters, ← length_parameters, parameters_withoutEmptyChoices]
  unfold search
  generalize (0 : Nat) = n
  induction condition using Formula.induct generalizing n with
  | atom a =>
    obtain ⟨c, rfl, hnever⟩ | hsame := a.withoutEmptyChoice_cases
    · rw [withoutEmptyChoices, Formula.bind_atom, hnever]
      rfl
    · rw [withoutEmptyChoices, Formula.bind_atom, hsame]
  | not f ih =>
    rw [withoutEmptyChoices, Formula.bind_not, Formula.number, Formula.number,
      Sql.SearchCondition.lexemes, Sql.SearchCondition.lexemes]
    exact congrArg (fun ls => _ :: _ :: Sql.Lexeme.parens ls) (ih n)
  | junction c ts ih =>
    rw [withoutEmptyChoices, Formula.bind_junction, Formula.number, Formula.number]
    refine Sql.SearchCondition.lexemes_junction_congr c ?_
    induction ts generalizing n with
    | nil => rfl
    | cons t ts ihts =>
      -- the terms after this one start at the same place
      rw [List.map_cons, Formula.numberEach, Formula.numberEach, List.map_cons, List.map_cons,
        ← withoutEmptyChoices, hplaces t, ih t List.mem_cons_self n,
        ihts fun s hs => ih s (List.mem_cons_of_mem t hs)]

/-- A choice among no values counts for nothing but where its column is missing. -/
theorem truth_withoutEmptyChoices {binding : Binding}
    (h : ∀ c, Atom.column c (.oneOf []) ∈ condition.atoms → (binding.column? c).isSome) :
    condition.withoutEmptyChoices.truth binding = condition.truth binding := by
  rw [truth, truth, withoutEmptyChoices, Formula.eval_bind]
  refine Formula.eval_congr fun a ha => ?_
  obtain ⟨c, rfl, hnever⟩ | hsame := a.withoutEmptyChoice_cases
  · rw [hnever, Atom.truth_emptyChoice, if_pos (h c ha)]
    rfl
  · rw [hsame, Formula.eval_atom]

/-- **A choice among no values is the constant false but for missing values.**  With
the constant in its place a condition has the same text, values and placeholders.  What
is definite of the condition stays so, and where every column of such a choice has a
value, nothing changes. -/
theorem refinedBy_withoutEmptyChoices :
    (∀ schema first, let clause := condition.clause schema first
      let clause' := condition.withoutEmptyChoices.clause schema first
      clause'.text = clause.text ∧ clause'.parameters = clause.parameters ∧
        clause'.next = clause.next) ∧
    ∀ binding,
      (condition.truth binding).RefinedBy (condition.withoutEmptyChoices.truth binding) ∧
      ((∀ c, Atom.column c (.oneOf []) ∈ condition.atoms → (binding.column? c).isSome) →
        condition.withoutEmptyChoices.truth binding = condition.truth binding) := by
  refine ⟨fun schema first => ?_, fun binding => ⟨?_, ?_⟩⟩
  · simp only [clause_eq, parameters_withoutEmptyChoices, and_true]
    exact congrArg Sql.render (condition.lexemes_search_withoutEmptyChoices schema first)
  · rw [truth, truth, withoutEmptyChoices, Formula.eval_bind]
    exact Formula.refinedBy_eval fun a _ => a.refinedBy_withoutEmptyChoice binding
  · exact condition.truth_withoutEmptyChoices

/-- A show with seasons passes the complement of a choice among none. -/
theorem refinedBy_withoutEmptyChoices_seasons :
    let seasons : Column := ⟨.root, [], "seasons"⟩
    let condition : Condition := .not (.atom (.column seasons (.oneOf [])))
    let binding : Binding := ⟨.object [("seasons", .number (.integer 1))], []⟩
    (∀ c, Atom.column c (.oneOf []) ∈ condition.atoms → (binding.column? c).isSome) ∧
      condition.withoutEmptyChoices.truth binding = condition.truth binding ∧
      condition.truth binding = .yes := by
  intro seasons condition binding
  have hpresent : ∀ c, Atom.column c (.oneOf []) ∈ condition.atoms →
      (binding.column? c).isSome := by
    intro c hc
    obtain rfl : c = seasons := by simpa [condition] using hc
    rfl
  exact ⟨hpresent, (refinedBy_withoutEmptyChoices condition |>.2 binding).2 hpresent, rfl⟩

/-- **At a missing value the two are not the same**, although they have one text: the
complement of a choice among no values is unknown of a show whose seasons are null, and
the show is not found. -/
theorem withoutEmptyChoices_ne :
    let seasons : Column := ⟨.root, [], "seasons"⟩
    let condition : Condition := .not (.atom (.column seasons (.oneOf [])))
    let record : Json := .object [("seasons", .null)]
    condition.truth ⟨record, []⟩ = .unknown ∧
      condition.withoutEmptyChoices.truth ⟨record, []⟩ = .yes ∧
      (condition.clause none 1).text = "NOT (FALSE)" ∧
      (condition.withoutEmptyChoices.clause none 1).text = "NOT (FALSE)" ∧
      (~~~(Filter.field "seasons" (.oneOf []))).accepts ⟨"shows", "id"⟩ record = false ∧
      (~~~(Filter.restricted (.constant .disj))).accepts ⟨"shows", "id"⟩ record = true := by
  decide +kernel

end Condition

end RecordQuery
