import RecordQuery.Proofs.Reading
import RecordQuery.Proofs.Sql.Placeholders

/-!
# Placeholders and parameters

The placeholders of a text are numbered without a gap in the order of the text, and each of them
stands in the slot that the parameter with its number was meant for.

## Main Definitions

* `Condition.uses` — the values of a condition from left to right, each with the slot for it
* `numbered` — slots with consecutive numbers
* `Condition.LinesUp`, `Inquiry.LinesUp` — placeholders, slots and parameters line up

## Main Statements

* `Atom.uses_search`, `Condition.uses_search` — a written condition has its slots numbered
* `Condition.linesUp_clause` — the clause of a condition lines up
* `Inquiry.linesUp_statement` — so does every statement, its window at the end
* `placeholders_line_up` — both

## Design Notes

A condition tells from its own tests which value belongs in which slot; the text is read to find
the slots that the placeholders stand in.  Numbers wrap around beyond the words of 32 bits, so
as many parameters as there are words is the limit.
-/

namespace RecordQuery

/-! ## Values and their slots -/

/-- The values of a test, each with the slot for it. -/
def Test.uses (c : Sql.QualifiedName) : Test → List (Sql.Slot × Scalar)
  | compare op value => [(.compared c op, value)]
  | between low high => [(.lowest c, low), (.highest c, high)]
  | oneOf values => values.map fun value => (.choice c, value)
  | isNull _ => []
  | isBool _ => []
  | like pattern _ _ => [(.pattern c, .text pattern)]

/-- The values of a test of a collection, each with the slot for it. -/
def Presence.uses (schema : Option String) (related : Related) :
    Presence → List (Sql.Slot × Scalar)
  | empty _ => []
  | member key _ =>
    [(.key (related.inStatement schema) related.collection.target.primaryKey, key)]

/-- The values of an atom from left to right, each with the slot for it. -/
def Atom.uses (schema : Option String) : Atom → List (Sql.Slot × Scalar)
  | column c test => test.uses c.inStatement.qualified
  | related r presence => presence.uses schema r

/-- The values of a condition from left to right, each with the slot for it. -/
def Condition.uses (schema : Option String) (condition : Condition) :
    List (Sql.Slot × Scalar) :=
  condition.atoms.flatMap (Atom.uses schema)

/-- Slots with consecutive numbers from `n` on, in place of the values. -/
def numbered (n : Int) (uses : List (Sql.Slot × Scalar)) : List (Sql.Slot × Int) :=
  uses.mapIdx fun i use => (use.1, n + i)

theorem map_snd_numbered (n : Int) (uses : List (Sql.Slot × Scalar)) :
    (numbered n uses).map Prod.snd = (List.range uses.length).map fun i : Nat => n + i := by
  refine List.ext_getElem (by simp [numbered]) fun i hi hi' => ?_
  simp [numbered]

theorem Atom.map_snd_uses (schema : Option String) (a : Atom) :
    (a.uses schema).map Prod.snd = a.parameters := by
  cases a with
  | column c test =>
    cases test with
    | oneOf values => simp [uses, Test.uses, parameters, Test.parameters, Function.comp_def]
    | _ => rfl
  | related r presence => cases presence <;> rfl

theorem Condition.map_snd_uses (schema : Option String) (condition : Condition) :
    (condition.uses schema).map Prod.snd = condition.parameters := by
  rw [uses, List.map_flatMap, parameters]
  exact congrArg (condition.atoms.flatMap ·) (funext fun a => a.map_snd_uses schema)

/-! ## Conditions -/

/-- **A written atom has its slots numbered**, given that its placeholders do not wrap
around. -/
theorem Atom.uses_search {schema : Option String} {n : Int32} {m : Int} {a : Atom}
    (hn : ∀ i < a.parameters.length, (n + Int32.ofNat i).toInt = m + i) :
    (a.search schema n).expr.uses = numbered m (a.uses schema) := by
  have hfirst : 0 < a.parameters.length → n.toInt = m := by
    intro hpos
    have hzero : n + Int32.ofNat 0 = n := Int32.add_zero n
    simpa [hzero] using hn 0 hpos
  cases a with
  | column c test =>
    cases test with
    | compare op value =>
      have hm : n.toInt = m := hfirst (Nat.zero_lt_succ _)
      simp [search, Test.search, Sql.Predicate.expr, Sql.Expr.uses, Sql.Operand.uses,
        Sql.parameterOperand, numbered, uses, Test.uses, hm]
    | between low high =>
      have hm : n.toInt = m := hfirst (Nat.zero_lt_succ _)
      have hnext : (n + 1).toInt = m + 1 := hn 1 (Nat.lt_succ_self 1)
      simp [search, Test.search, Sql.Predicate.expr, Sql.Expr.uses, Sql.Operand.uses,
        Sql.parameterOperand, numbered, uses, Test.uses, hm, hnext]
    | oneOf values =>
      by_cases hvalues : values = []
      · subst hvalues
        rfl
      · have hne : (List.range values.length).map (fun i => n + Int32.ofNat i) ≠ [] := by
          simpa using hvalues
        rw [search, Test.search, Sql.Predicate.expr_oneOf _ hne, Sql.Expr.uses,
          Sql.flatMap_uses_parameterOperand]
        refine List.ext_getElem (by simp [numbered, uses, Test.uses]) fun i hi hi' => ?_
        have hi : i < values.length := by simpa using hi
        simpa [numbered, uses, Test.uses] using hn i hi
    | isNull negated => exact Sql.Expr.uses_negateIf negated _
    | isBool b => rfl
    | like pattern escape negated =>
      have hm : n.toInt = m := hfirst (Nat.zero_lt_succ _)
      rw [search, Test.search, Sql.Predicate.expr, Sql.Expr.uses_negateIf]
      simp [Sql.Expr.uses, Sql.Operand.uses, Sql.parameterOperand, numbered, uses, Test.uses,
        hm]
  | related r presence =>
    cases presence with
    | empty negated => exact Sql.Expr.uses_negateIf _ _
    | member key negated =>
      have hm : n.toInt = m := hfirst (Nat.zero_lt_succ _)
      rw [search, Presence.search, Sql.Predicate.expr, Sql.Expr.uses_negateIf]
      simp [Related.subquery, Sql.Expr.uses, Sql.Operand.uses, Sql.parameterOperand, numbered,
        uses, Presence.uses, Sql.Subquery.related, Related.inStatement, hm]

namespace Condition

variable {schema : Option String} {first : Int32} {condition : Condition}

/-- **A written condition has its slots numbered** from the first placeholder on. -/
theorem uses_search (schema : Option String)
    (hfirst : first.toInt + condition.parameters.length ≤ 2 ^ 31) :
    (Sql.SearchCondition.expr (condition.search schema first)).uses
      = numbered first.toInt (condition.uses schema) := by
  have hatom : ∀ p ∈ placed Atom.arity 0 condition.atoms,
      (p.2.search schema (first + Int32.ofNat p.1)).expr.uses
        = (p.2.uses schema).mapIdx fun i use => (use.1, first.toInt + (p.1 + i : Nat)) := by
    rintro ⟨k, a⟩ hk
    have hle : k + a.parameters.length ≤ condition.parameters.length :=
      add_arity_le_of_mem_placed hk
    have hplace : ∀ i < a.parameters.length,
        (first + Int32.ofNat k + Int32.ofNat i).toInt = first.toInt + k + i := by
      intro i hi
      have hsum := Sql.toInt_add_ofNat (n := first) (i := k + i) (by omega)
      rw [Int32.add_assoc, ← Int32.ofNat_add, hsum]
      omega
    rw [Atom.uses_search hplace, numbered]
    simp only [Int.natCast_add, Int.add_assoc]
  have hsize : ∀ a, Atom.arity a = (a.uses schema).length := by
    intro a
    rw [Atom.arity, ← a.map_snd_uses schema, List.length_map]
  rw [Sql.SearchCondition.uses_expr, atoms_search, List.flatMap_map, numbered, uses]
  have hwhole := flatMap_mapIdx_placed hsize
    (fun i use => (use.1, first.toInt + (i : Nat))) 0 condition.atoms
  simp only [Nat.zero_add] at hwhole
  exact (congrArg List.flatten (List.map_congr_left hatom)).trans hwhole

/-- Placeholders, slots and parameters of the clause of a condition line up, given the tokens of
its text and the expression that they spell. -/
structure LinesUp (schema : Option String) (first : Int32) (condition : Condition)
    (ts : List Sql.Token) (e : Sql.Expr) : Prop where
  tokenize : Sql.tokenize? (condition.clause schema first).text.toList = some ts
  parse : Sql.parse? ts = some e
  /-- The placeholders have consecutive numbers, one for each parameter. -/
  placeholders : Sql.placeholders ts
    = (List.range (condition.clause schema first).parameters.length).map
        fun i : Nat => first.toInt + i
  /-- The slots that they stand in are those for the values of the condition. -/
  uses : e.uses = numbered first.toInt (condition.uses schema)
  /-- The parameters are these values. -/
  parameters : (condition.clause schema first).parameters
    = (condition.uses schema).map Prod.snd
  /-- The next placeholder has the next number. -/
  next : (condition.clause schema first).next.toInt
    = first.toInt + (condition.clause schema first).parameters.length

/-- **The clause of a condition lines up.** -/
theorem linesUp_clause (schema : Option String) {first : Int32} {condition : Condition}
    (hfirst : first.toInt + condition.parameters.length < 2 ^ 31) :
    ∃ ts e, condition.LinesUp schema first ts e := by
  have huses := condition.uses_search schema (Int.le_of_lt hfirst)
  have hlength : (condition.uses schema).length = condition.parameters.length := by
    rw [← condition.map_snd_uses schema, List.length_map]
  refine ⟨Sql.tokens (Sql.SearchCondition.lexemes (condition.search schema first)),
    Sql.SearchCondition.expr (condition.search schema first), ?_, ?_, ?_, huses, ?_, ?_⟩
  · rw [clause_eq, Sql.Clause.text, Sql.render, String.toList_ofList]
    exact Sql.tokenize?_renderChars (Sql.separated_searchCondition _)
  · exact Sql.parse?_tokens _ fun p hp => correlated_of_mem_search hp
  · rw [clause_eq, Sql.SearchCondition.placeholders_tokens, huses, map_snd_numbered, hlength]
  · rw [clause_eq, condition.map_snd_uses schema]
  · rw [clause_eq]
    exact Sql.toInt_add_ofNat hfirst

end Condition

/-! ## Statements -/

namespace Inquiry

/-- The values of the condition of an inquiry, each with the slot for it. -/
def uses (q : Inquiry) : List (Sql.Slot × Scalar) :=
  (q.selection.condition.map (Condition.uses q.schema)).getD []

/-- Placeholders, slots and parameters of the statement of an inquiry line up, given the tokens
of its text and the query that they spell. -/
structure LinesUp (q : Inquiry) (ts : List Sql.Token) (query : Sql.QueryExpr) : Prop where
  tokenize : Sql.tokenize? q.statement.text.toList = some ts
  parse : Sql.parseQuery? ts = some query
  /-- The placeholders are numbered from one on, one for each parameter. -/
  placeholders : Sql.placeholders ts
    = (List.range q.statement.parameters.length).map fun i : Nat => 1 + (i : Int)
  /-- The slots that they stand in are those for the values of the condition. -/
  uses : (query.source.condition.map Sql.Expr.uses).getD [] = numbered 1 q.uses
  /-- The parameters are these values, and the limit and the offset of the page. -/
  parameters : q.statement.parameters
    = q.uses.map Prod.snd
      ++ (q.page?.map fun page => [.int page.limit, .int page.offset]).getD []
  /-- The last but one is the limit and the last one the offset. -/
  window : query.window = q.page?.map fun _ =>
    (.parameter (q.statement.parameters.length - 1), .parameter q.statement.parameters.length)

theorem map_snd_uses (q : Inquiry) : q.uses.map Prod.snd = q.selection.parameters := by
  unfold uses Selection.parameters
  cases q.selection.condition with
  | none => rfl
  | some condition => exact condition.map_snd_uses q.schema

/-- The slots of a statement are numbered from one on. -/
theorem uses_query {q : Inquiry} (hlength : q.selection.parameters.length < 2 ^ 31) :
    (q.statement.query.tableExpr.condition.map Sql.Expr.uses).getD [] = numbered 1 q.uses := by
  rw [Selection.parameters] at hlength
  rw [Sql.Query.tableExpr, condition_query, uses]
  cases hcondition : q.selection.condition with
  | none => rfl
  | some condition =>
    rw [hcondition] at hlength
    refine condition.uses_search q.schema ?_
    show 1 + (condition.parameters.length : Int) ≤ 2 ^ 31
    have hlength : condition.parameters.length < 2 ^ 31 := hlength
    omega

/-- The limit and the offset have the last two numbers. -/
theorem toInt_window {q : Inquiry} {page : Page} (hpage : q.page? = some page)
    (hlength : q.statement.parameters.length < 2 ^ 31) :
    (1 + Int32.ofNat q.selection.parameters.length).toInt
        = (q.statement.parameters.length : Int) - 1 ∧
      (1 + Int32.ofNat q.selection.parameters.length + 1).toInt
        = q.statement.parameters.length := by
  have hparameters := length_parameters hpage
  have hone : (1 : Int32).toInt = 1 := by decide
  have hlimit := Sql.toInt_add_ofNat (n := 1) (i := q.selection.parameters.length)
    (by rw [hone]; omega)
  have hoffset := Sql.toInt_add_ofNat (n := 1) (i := q.selection.parameters.length + 1)
    (by rw [hone]; omega)
  rw [Int32.ofNat_add, ← Int32.add_assoc] at hoffset
  rw [hone] at hlimit hoffset
  constructor
  · omega
  · show (1 + Int32.ofNat q.selection.parameters.length + Int32.ofNat 1).toInt = _
    omega

/-- **The statement of an inquiry lines up.** -/
theorem linesUp_statement {q : Inquiry} (hlength : q.statement.parameters.length < 2 ^ 31) :
    ∃ ts query, q.LinesUp ts query := by
  have hle : q.selection.parameters.length ≤ q.statement.parameters.length := by
    rw [parameters_statement, List.length_append]
    exact Nat.le_add_right _ _
  have huses := q.uses_query (by omega)
  have hvalues : q.uses.length = q.selection.parameters.length := by
    rw [← q.map_snd_uses, List.length_map]
  refine ⟨_, _, q.tokenize?_text, q.parseQuery?_tokens, ?_, huses, ?_, ?_⟩
  · have hcondition : (q.statement.query.condition.map fun f =>
        (Sql.SearchCondition.expr f).uses.map Prod.snd).getD []
          = (List.range q.selection.parameters.length).map fun i : Nat => 1 + (i : Int) := by
      rw [← hvalues, ← map_snd_numbered, ← huses, Sql.Query.tableExpr]
      cases q.statement.query.condition <;> rfl
    rw [Sql.Query.placeholders_tokens, hcondition, Sql.Query.windowNumbers, window_query]
    cases hpage : q.page? with
    | none =>
      rw [parameters_statement, hpage]
      simp
    | some page =>
      obtain ⟨hlimit, hoffset⟩ := toInt_window hpage hlength
      simp only [Option.map_some, hlimit, hoffset, length_parameters hpage, List.range_succ,
        List.map_append, List.map_cons, List.map_nil, List.append_assoc, List.cons_append,
        List.nil_append]
      congr 3 <;> omega
  · rw [parameters_statement, map_snd_uses]
  · rw [Sql.Query.expr, window_query, Option.map_map]
    cases hpage : q.page? with
    | none => rfl
    | some page =>
      obtain ⟨hlimit, hoffset⟩ := toInt_window hpage hlength
      simp only [Option.map_some, Function.comp_apply, Sql.parameterOperand, hlimit, hoffset]

end Inquiry

/-- **Placeholders and parameters line up**: in the clause of every condition, wherever the
numbering starts, and in every statement. -/
theorem placeholders_line_up :
    (∀ (schema : Option String) (first : Int32) (condition : Condition),
      first.toInt + condition.parameters.length < 2 ^ 31 →
        ∃ ts e, condition.LinesUp schema first ts e) ∧
    ∀ q : Inquiry, q.statement.parameters.length < 2 ^ 31 → ∃ ts query, q.LinesUp ts query :=
  ⟨fun schema _ _ hfirst => Condition.linesUp_clause schema hfirst,
    fun _ hlength => Inquiry.linesUp_statement hlength⟩

/-- A dollar sign in a name, a pattern or an escape character is no placeholder. -/
theorem placeholders_line_up_dollars :
    let condition : Condition := .not (.junction .disj
      [.atom (.column ⟨.root, [], "$9"⟩ (.between (.int 1) (.int 2))),
        .atom (.column ⟨.join 0, [], "name"⟩ (.like "$1%" (some '$') true)),
        .atom (.column ⟨.root, [], "year"⟩ (.oneOf [.int 3, .int 4]))])
    let q : Inquiry := ⟨⟨"shows", "id"⟩, none, .field "$9" (.compare .gt (.int 7)),
      .rows { page := some ⟨20, 10⟩ }⟩
    (condition.clause none 5).text = "NOT ((t0.\"$9\" BETWEEN $5 AND $6) OR " ++
        "(j1.\"name\" NOT LIKE $7 ESCAPE '$') OR (t0.\"year\" IN ($8, $9)))" ∧
      (∃ ts e, condition.LinesUp none 5 ts e) ∧
      q.statement.text
        = "SELECT t0.* FROM \"shows\" t0 WHERE t0.\"$9\" > $1 LIMIT $2 OFFSET $3" ∧
      ∃ ts query, q.LinesUp ts query := by
  intro condition q
  refine ⟨by decide +kernel, ?_, by decide +kernel, ?_⟩
  · exact placeholders_line_up.1 none 5 condition (by decide +kernel)
  · exact placeholders_line_up.2 q (by decide +kernel)

end RecordQuery
