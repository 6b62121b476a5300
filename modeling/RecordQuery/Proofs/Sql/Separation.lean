import RecordQuery.Proofs.Sql.Lexing
import RecordQuery.Sql.Query

/-!
# Statements are separated

In everything that the library writes, blanks, brackets, commas and dots keep the other lexemes
apart, so statements can be read back token by token.

## Main Statements

* `Sql.Separated.intercalate` — groups with delimiters between them are separated
* `Sql.separated_searchCondition`, `Sql.separated_query` — so are conditions and queries
-/

namespace RecordQuery

namespace Sql

/-! ## Groups -/

@[simp] theorem separated_nil : Separated [] := List.isChain_nil

@[simp] theorem separated_singleton (l : Lexeme) : Separated [l] := List.isChain_singleton l

theorem separated_cons_of_isDelimiter {l : Lexeme} {ls : List Lexeme} (hl : l.isDelimiter)
    (hls : Separated ls) : Separated (l :: ls) :=
  hls.cons fun _ _ => .inl hl

theorem separated_concat_of_isDelimiter {l : Lexeme} {ls : List Lexeme} (hl : l.isDelimiter)
    (hls : Separated ls) : Separated (ls ++ [l]) := by
  refine hls.append (separated_singleton l) ?_
  rintro x - y hy
  obtain rfl : l = y := by simpa using hy
  exact .inr hl

/-- Groups are separated from each other by what stands between them, if it starts and
ends with a delimiter. -/
theorem Separated.intercalate {sep : List Lexeme} {groups : List (List Lexeme)} (hne : sep ≠ [])
    (hsep : Separated sep) (hhead : ∀ l ∈ sep.head?, l.isDelimiter)
    (hlast : ∀ l ∈ sep.getLast?, l.isDelimiter) (hgroups : ∀ g ∈ groups, Separated g) :
    Separated (sep.intercalate groups) := by
  induction groups with
  | nil => exact separated_nil
  | cons g groups ih =>
    have hg : Separated g := hgroups g List.mem_cons_self
    have hrest : Separated (sep.intercalate groups) :=
      ih fun h hh => hgroups h (List.mem_cons_of_mem g hh)
    cases groups with
    | nil => simpa using hg
    | cons h hs =>
      rw [List.intercalate_cons_cons]
      -- the separator starts with a delimiter on the one side and ends with one on the other
      refine (hg.append hsep ?_).append hrest ?_
      · exact fun x _ y hy => .inr (hhead y hy)
      · intro x hx y _
        rw [List.getLast?_append_of_ne_nil _ hne] at hx
        exact .inl (hlast x hx)

@[simp] theorem separated_words {groups : List (List Lexeme)}
    (h : ∀ g ∈ groups, Separated g) : Separated (Lexeme.words groups) :=
  .intercalate (by simp) (by simp) (by simp [Lexeme.isDelimiter])
    (by simp [Lexeme.isDelimiter]) h

@[simp] theorem separated_commas {groups : List (List Lexeme)}
    (h : ∀ g ∈ groups, Separated g) : Separated (Lexeme.commas groups) :=
  .intercalate (by simp) (separated_cons_of_isDelimiter rfl (by simp))
    (by simp [Lexeme.isDelimiter]) (by simp [Lexeme.isDelimiter]) h

@[simp] theorem separated_parens {ls : List Lexeme} (h : Separated ls) :
    Separated (Lexeme.parens ls) :=
  separated_cons_of_isDelimiter rfl (separated_concat_of_isDelimiter rfl h)

/-- A word right in front of a bracket is separated from it. -/
theorem separated_cons_parens (l : Lexeme) {ls : List Lexeme} (h : Separated ls) :
    Separated (l :: Lexeme.parens ls) := by
  refine (separated_parens h).cons ?_
  intro x hx
  obtain rfl : Lexeme.symbol .open = x := by simpa [Lexeme.parens] using hx
  exact .inr rfl

@[simp] theorem separated_columnName (c : ColumnName) : Separated c.lexemes := by
  simp [Separated, ColumnName.lexemes, Lexeme.isDelimiter]

@[simp] theorem separated_tableLexemes (schema : Option String) (table : String) :
    Separated (tableLexemes schema table) := by
  cases schema <;> simp [Separated, tableLexemes, Lexeme.isDelimiter]

/-! ## Conditions -/

theorem separated_subquery (rows : Subquery) : Separated rows.lexemes := by
  unfold Subquery.lexemes
  cases rows.key <;> simp

theorem separated_negation {negated : Bool} : ∀ g ∈ negation negated, Separated g := by
  cases negated <;> simp [negation]

theorem separated_predicate (p : Predicate) : Separated p.lexemes := by
  cases p with
  | compare c op value => simp [Predicate.lexemes]
  | between c low high => simp [Predicate.lexemes]
  | oneOf c values =>
    cases values with
    | nil => simp [Predicate.lexemes]
    | cons v vs =>
      have hvalues : Separated (Lexeme.commas ((v :: vs).map fun n => [.placeholder n])) :=
        separated_commas (by simp)
      refine separated_words ?_
      simp only [List.forall_mem_cons, separated_columnName, separated_singleton,
        separated_parens hvalues, List.not_mem_nil, false_imp_iff, implies_true, and_self]
  | isNull c negated =>
    refine separated_words ?_
    simpa [or_imp, forall_and] using separated_negation
  | isBool c b => simp [Predicate.lexemes]
  | like c pattern escape negated =>
    cases escape <;>
    · refine separated_words ?_
      simpa [or_imp, forall_and] using separated_negation
  | «exists» rows negated =>
    refine separated_words ?_
    simpa [or_imp, forall_and, separated_parens (separated_subquery rows)] using
      separated_negation

@[simp] theorem SearchCondition.partLexemes_eq_map (fs : List SearchCondition) :
    partLexemes fs = fs.map fun f => Lexeme.parens (lexemes f) := by
  induction fs with
  | nil => rfl
  | cons f fs ih => simp [partLexemes, ih]

theorem separated_searchCondition (f : SearchCondition) : Separated f.lexemes := by
  induction f using Formula.induct with
  | atom p => exact separated_predicate p
  | not f ih =>
    have hnot : Separated [Lexeme.keyword .not, .blank] := by
      simp [Separated, Lexeme.isDelimiter]
    refine hnot.append (separated_parens ih) ?_
    rintro x hx y -
    obtain rfl : Lexeme.blank = x := by simpa using hx
    exact .inl rfl
  | junction c ts ih =>
    cases ts with
    | nil => exact separated_singleton _
    | cons t ts =>
      rw [SearchCondition.lexemes, SearchCondition.partLexemes_eq_map]
      refine .intercalate (by simp) ?_ (by simp [Lexeme.isDelimiter])
        (by simp [Lexeme.isDelimiter]) ?_
      · simp [Separated, Lexeme.isDelimiter]
      · intro g hg
        obtain ⟨f, hf, rfl⟩ := List.mem_map.1 hg
        exact separated_parens (ih f hf)

/-! ## Queries -/

theorem separated_orderLexemes (sorting : Sorting) : Separated (orderLexemes sorting) := by
  refine separated_commas ?_
  intro g hg
  obtain ⟨key, -, rfl⟩ := List.mem_map.1 hg
  simp [sortKeyLexemes, ColumnName.lexemes, Separated, Lexeme.isDelimiter]

theorem separated_joinClause {schema : Option String} {clause : JoinClause} :
    ∀ g ∈ clause.lexemes schema, Separated g := by
  simp [JoinClause.lexemes]

namespace Query

theorem separated_sourceLexemes (query : Query) : ∀ g ∈ query.sourceLexemes, Separated g := by
  unfold sourceLexemes
  intro g hg
  simp only [List.mem_append, List.mem_cons, List.not_mem_nil, or_false, List.mem_flatMap] at hg
  rcases hg with ((rfl | rfl | rfl) | ⟨clause, -, hg⟩) | hg
  · simp
  · simp
  · simp
  · exact separated_joinClause g hg
  · cases hcondition : query.condition with
    | none => simp [hcondition] at hg
    | some f =>
      simp only [hcondition, List.mem_cons, List.not_mem_nil, or_false] at hg
      rcases hg with rfl | rfl
      · simp
      · exact separated_searchCondition f

theorem separated_orderingLexemes (query : Query) :
    ∀ g ∈ query.orderingLexemes, Separated g := by
  unfold orderingLexemes
  intro g hg
  rw [List.mem_append] at hg
  rcases hg with hg | hg
  · split at hg
    · simp at hg
    · simp only [List.mem_cons, List.not_mem_nil, or_false] at hg
      rcases hg with rfl | rfl | rfl
      · simp
      · simp
      · exact separated_orderLexemes query.sorting
  · split at hg
    · simp at hg
    · simp only [List.mem_cons, List.not_mem_nil, or_false] at hg
      rcases hg with rfl | rfl | rfl | rfl <;> simp

end Query

/-- Whatever a query asks for, its lexemes are separated. -/
theorem separated_query (query : Query) : Separated query.lexemes := by
  have hsource := query.separated_sourceLexemes
  have hordering := query.separated_orderingLexemes
  have hroot : Separated Query.rootRow := by simp [Query.rootRow, Separated, Lexeme.isDelimiter]
  unfold Query.lexemes
  split
  · next distinct _ =>
    refine separated_words ?_
    cases distinct <;> simpa [or_imp, forall_and, hroot] using ⟨hsource, hordering⟩
  · have hcount : Separated (.keyword .count :: Lexeme.parens [.symbol .star]) :=
      separated_cons_parens _ (separated_singleton _)
    refine separated_words ?_
    simpa [or_imp, forall_and, hcount] using ⟨hsource, hordering⟩
  · next column _ =>
    have hcount : Separated (.keyword .count :: Lexeme.parens (Lexeme.words
        [[.keyword .distinct], ColumnName.lexemes ⟨.root, column⟩])) :=
      separated_cons_parens _ (separated_words (by simp))
    refine separated_words ?_
    simpa [or_imp, forall_and, hcount] using ⟨hsource, hordering⟩
  · have hinner : Separated (Lexeme.parens (Lexeme.words ([[.keyword .select], [.one]] ++
        query.sourceLexemes ++ query.orderingLexemes))) := by
      refine separated_parens (separated_words ?_)
      simpa [or_imp, forall_and] using ⟨hsource, hordering⟩
    refine separated_words ?_
    simpa using hinner

end Sql

end RecordQuery
