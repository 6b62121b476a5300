import Mathlib.Data.List.Nodup
import RecordQuery.Proofs.Logic.Formula
import RecordQuery.Proofs.Sql.QueryReadBack

/-!
# Scopes

Follows the names of rows through a text.  A word right after the name of a table introduces a
row of that table, under a name that must not be in scope yet.  Every other word has to be in
scope where it stands: introduced before it, between the same brackets or outside of them.

## Main Definitions

* `Sql.Scopes` — what is in scope at a place of a text
* `Sql.Scopes.step`, `Sql.Scopes.after?` — what is in scope after a token, and after a text
* `Sql.Stays` — a part of a text that keeps to what is in scope
* `Sql.Query.Scoped` — each row of a query has a name of its own and is
  introduced before its use

## Main Statements

* `Sql.SearchCondition.stays` — a condition on rows that are in scope keeps to them
* `Sql.Scopes.after?_joins` — one join after the other introduces its row
* `Sql.Query.after?_bodyTokens` — a scoped query has every row in scope where it is used

## Design Notes

The scopes are kept by a reader of its own that knows of names, words and brackets only, and
nothing of the grammar.  Names that are introduced between brackets are gone after them; what
they were is kept, so that it can be told which names the subqueries introduce.
-/

namespace RecordQuery

namespace Sql

/-- What is in scope at a place of a text. -/
structure Scopes where
  /-- The names of rows that are introduced, those between the innermost brackets first. -/
  frames : List (List String)
  /-- The names that were introduced between brackets that are closed. -/
  closed : List (List String)
  /-- Whether the token before is a quoted name. -/
  afterName : Bool
  deriving DecidableEq

/-- Whether a name is in scope, given those that are introduced. -/
def InScope (frames : List (List String)) (w : String) : Prop := ∃ frame ∈ frames, w ∈ frame

instance (frames : List (List String)) (w : String) : Decidable (InScope frames w) :=
  inferInstanceAs (Decidable (∃ frame ∈ frames, w ∈ frame))

@[simp] theorem inScope_cons {frame : List String} {frames : List (List String)} {w : String} :
    InScope (frame :: frames) w ↔ w ∈ frame ∨ InScope frames w := by
  simp [InScope]

@[simp] theorem not_inScope_nil (w : String) : ¬ InScope [] w := by
  simp [InScope]

/-- Whether the token has no bearing on what is in scope. -/
def Token.isPlain : Token → Bool
  | name _ => false
  | word _ => false
  | symbol s => s != .open && s != .close
  | _ => true

namespace Scopes

/-- The scopes after a token; `none` where a word is not in scope, or
introduced a second time. -/
def step (s : Scopes) : Token → Option Scopes
  | .name _ => some { s with afterName := true }
  | .word w =>
    match s.afterName, s.frames with
    | true, [] => none
    | true, frame :: frames =>
      if InScope (frame :: frames) w then none
      else some ⟨(w :: frame) :: frames, s.closed, false⟩
    | false, frames => if InScope frames w then some ⟨frames, s.closed, false⟩ else none
  | .symbol .open => some ⟨[] :: s.frames, s.closed, false⟩
  | .symbol .close =>
    match s.frames with
    | [] => none
    | frame :: frames => some ⟨frames, frame :: s.closed, false⟩
  | _ => some { s with afterName := false }

/-- The scopes after a text. -/
def after? (s : Scopes) (ts : List Token) : Option Scopes := ts.foldlM step s

/-- The scopes in front of a text. -/
def start : Scopes := ⟨[[]], [], false⟩

@[simp] theorem after?_nil (s : Scopes) : s.after? [] = some s := rfl

@[simp] theorem after?_cons (s : Scopes) (t : Token) (ts : List Token) :
    s.after? (t :: ts) = (s.step t).bind (after? · ts) := List.foldlM_cons

@[simp] theorem after?_append (s : Scopes) (ts us : List Token) :
    s.after? (ts ++ us) = (s.after? ts).bind (after? · us) := List.foldlM_append

section step

variable {frames closed : List (List String)} {frame : List String} {w : String}

@[simp] theorem step_name (s : Scopes) :
    s.step (.name w) = some { s with afterName := true } := rfl

@[simp] theorem step_open (s : Scopes) :
    s.step (.symbol .open) = some ⟨[] :: s.frames, s.closed, false⟩ := rfl

@[simp] theorem step_close (b : Bool) :
    step ⟨frame :: frames, closed, b⟩ (.symbol .close)
      = some ⟨frames, frame :: closed, false⟩ :=
  rfl

@[simp] theorem step_keyword (s : Scopes) (k : Keyword) :
    s.step (.keyword k) = some { s with afterName := false } := rfl

@[simp] theorem step_placeholder (s : Scopes) (n : Int) :
    s.step (.placeholder n) = some { s with afterName := false } := rfl

@[simp] theorem step_numeral (s : Scopes) (n : Nat) :
    s.step (.numeral n) = some { s with afterName := false } := rfl

@[simp] theorem step_dot (s : Scopes) :
    s.step (.symbol .dot) = some { s with afterName := false } := rfl

@[simp] theorem step_eq (s : Scopes) :
    s.step (.symbol .eq) = some { s with afterName := false } := rfl

theorem step_of_isPlain {t : Token} (ht : t.isPlain) (s : Scopes) :
    s.step t = some { s with afterName := false } := by
  cases t with
  | name => exact absurd ht Bool.false_ne_true
  | word => exact absurd ht Bool.false_ne_true
  | symbol symbol => cases symbol <;> first | rfl | exact absurd ht (by decide)
  | _ => rfl

/-- A word after a quoted name introduces a row. -/
@[simp] theorem step_introduce (hw : ¬ InScope (frame :: frames) w) :
    step ⟨frame :: frames, closed, true⟩ (.word w)
      = some ⟨(w :: frame) :: frames, closed, false⟩ :=
  if_neg hw

/-- Any other word refers to a row. -/
@[simp] theorem step_refer (hw : InScope frames w) :
    step ⟨frames, closed, false⟩ (.word w) = some ⟨frames, closed, false⟩ := by
  rw [step]
  exact if_pos hw

end step

end Scopes

/-! ## Conditions -/

/-- Whether a part of a text keeps to the names that are in scope: it introduces none but for
the row of a subquery, between the brackets around it. -/
def Stays (frames : List (List String)) (ts : List Token) : Prop :=
  ∀ closed, ∃ inner, Scopes.after? ⟨frames, closed, false⟩ ts
      = some ⟨frames, inner ++ closed, false⟩ ∧
    ∀ frame ∈ inner, frame = [] ∨ frame = [Alias.inner.text]

namespace Stays

variable {frames : List (List String)} {ts us : List Token}

theorem nil : Stays frames [] := by
  intro closed
  exact ⟨[], rfl, by simp⟩

theorem append (hts : Stays frames ts) (hus : Stays frames us) : Stays frames (ts ++ us) := by
  intro closed
  obtain ⟨inner, hafter, hinner⟩ := hts closed
  obtain ⟨more, hmore, hall⟩ := hus (inner ++ closed)
  refine ⟨more ++ inner, ?_, ?_⟩
  · rw [Scopes.after?_append, hafter, Option.bind_some, hmore, List.append_assoc]
  · intro frame hframe
    rcases List.mem_append.1 hframe with hframe | hframe
    · exact hall frame hframe
    · exact hinner frame hframe

theorem cons {t : Token} (ht : t.isPlain) (hts : Stays frames ts) : Stays frames (t :: ts) := by
  intro closed
  rw [Scopes.after?_cons, Scopes.step_of_isPlain ht]
  exact hts closed

theorem of_isPlain (hts : ∀ t ∈ ts, t.isPlain) : Stays frames ts := by
  induction ts with
  | nil => exact nil
  | cons t ts ih =>
    exact (ih fun u hu => hts u (List.mem_cons_of_mem t hu)).cons (hts t List.mem_cons_self)

/-- A column of a row in scope, with what is asked of it. -/
theorem column {c : ColumnName} (hc : InScope frames c.row.text) {t : Token} (ht : t.isPlain)
    (hts : Stays frames ts) : Stays frames (tokens c.lexemes ++ t :: ts) := by
  intro closed
  obtain ⟨inner, hafter, hinner⟩ := hts closed
  refine ⟨inner, ?_, hinner⟩
  rw [← hafter, tokens_columnName]
  simp [Scopes.step_refer hc, Scopes.step_of_isPlain ht]

theorem brackets (hts : Stays ([] :: frames) ts) :
    Stays frames (.symbol .open :: ts ++ [.symbol .close]) := by
  intro closed
  obtain ⟨inner, hafter, hinner⟩ := hts closed
  refine ⟨[] :: inner, ?_, ?_⟩
  · simp [hafter]
  · intro frame hframe
    rcases List.mem_cons.1 hframe with rfl | hframe
    · exact .inl rfl
    · exact hinner frame hframe

theorem intercalate {sep : List Token} (hsep : Stays frames sep) {groups : List (List Token)}
    (hgroups : ∀ g ∈ groups, Stays frames g) : Stays frames (sep.intercalate groups) :=
  intercalate_of_append nil append hsep hgroups

theorem commas {groups : List (List Lexeme)} (hgroups : ∀ g ∈ groups, Stays frames (tokens g)) :
    Stays frames (tokens (Lexeme.commas groups)) := by
  rw [Lexeme.commas, tokens_intercalate]
  refine intercalate (of_isPlain (List.forall_mem_singleton.2 rfl)) ?_
  intro ts hts
  obtain ⟨g, hg, rfl⟩ := List.mem_map.1 hts
  exact hgroups g hg

end Stays

/-- After the name of a table a row of it is introduced. -/
theorem after?_table (schema : Option String) (table : String)
    {frames closed : List (List String)} {frame : List String} {b : Bool} {w : String}
    (hw : ¬ InScope (frame :: frames) w)
    (ts : List Token) :
    Scopes.after? ⟨frame :: frames, closed, b⟩
        (tokens (tableLexemes schema table) ++ .word w :: ts)
      = Scopes.after? ⟨(w :: frame) :: frames, closed, false⟩ ts := by
  cases schema <;> simp [tableLexemes, Lexeme.token?, Scopes.step_introduce hw]

/-- A subquery introduces its row between its brackets. -/
theorem Stays.subquery {frames : List (List String)} {rows : Subquery}
    (howner : InScope frames rows.owner.row.text) (hinner : ¬ InScope frames Alias.inner.text) :
    Stays frames (.symbol .open :: tokens rows.lexemes ++ [.symbol .close]) := by
  intro closed
  refine ⟨[[Alias.inner.text]], ?_, by simp⟩
  have htext : Alias.inner.text = "m" := rfl
  have hnew : ¬ InScope ([] :: frames) "m" := by simpa [htext] using hinner
  have hinner : InScope (["m"] :: frames) "m" := by simp
  have howner : InScope (["m"] :: frames) rows.owner.row.text := inScope_cons.2 (.inr howner)
  rw [tokens_subquery, List.cons_append, Scopes.after?_cons, Scopes.step_open, Option.bind_some]
  simp only [List.cons_append, List.append_assoc, Scopes.after?_cons, Scopes.step_keyword,
    Scopes.step_numeral, Option.bind_some, after?_table _ _ hnew]
  cases rows.key <;> simp [htext, Scopes.step_refer hinner, Scopes.step_refer howner]

/-- The row outside of subqueries that a test refers to. -/
def Predicate.row : Predicate → Alias
  | compare c _ _ => c.row
  | between c _ _ => c.row
  | oneOf c _ => c.row
  | isNull c _ => c.row
  | isBool c _ => c.row
  | like c _ _ _ => c.row
  | .exists rows _ => rows.owner.row

theorem stays_negation (frames : List (List String)) (negated : Bool) :
    Stays frames ((negation negated).flatMap tokens) := by
  cases negated with
  | false => exact .nil
  | true => exact .of_isPlain (List.forall_mem_singleton.2 rfl)

/-- A test of a row in scope keeps to what is in scope. -/
theorem Predicate.stays {frames : List (List String)} {p : Predicate}
    (hrow : InScope frames p.row.text) (hinner : ¬ InScope frames Alias.inner.text) :
    Stays frames (tokens p.lexemes) := by
  cases p with
  | compare c op value =>
    have hplain : (Token.symbol op.symbol).isPlain := by cases op <;> decide
    have hvalue : Stays frames [.placeholder value.toInt] :=
      .of_isPlain (by simp [Token.isPlain])
    simpa [lexemes, Lexeme.token?] using hvalue.column (c := c) hrow hplain
  | between c low high =>
    have hrange :
        Stays frames [.placeholder low.toInt, .keyword .and, .placeholder high.toInt] :=
      .of_isPlain (by simp [Token.isPlain])
    simpa [lexemes, Lexeme.token?] using
      hrange.column (c := c) hrow (t := .keyword .between) rfl
  | oneOf c values =>
    cases values with
    | nil => exact .of_isPlain (List.forall_mem_singleton.2 rfl)
    | cons v vs =>
      have hchoices : Stays ([] :: frames)
          (tokens (Lexeme.commas ((v :: vs).map fun n => [.placeholder n]))) := by
        refine .commas fun g hg => ?_
        obtain ⟨n, -, rfl⟩ := List.mem_map.1 hg
        exact .of_isPlain (List.forall_mem_singleton.2 rfl)
      have hall := hchoices.brackets.column (c := c) hrow (t := .keyword .in) rfl
      rw [lexemes, tokens_words]
      simpa [Lexeme.token?] using hall
  | isNull c negated =>
    have hnull : Stays frames ((negation negated).flatMap tokens ++ [.keyword .null]) :=
      (stays_negation frames negated).append (.of_isPlain (by decide))
    simpa [lexemes, Lexeme.token?] using hnull.column (c := c) hrow (t := .keyword .is) rfl
  | isBool c b =>
    have hconstant : Stays frames (tokens [constantLexeme b]) := by
      cases b <;> exact .of_isPlain (by decide)
    simpa [lexemes, Lexeme.token?] using hconstant.column (c := c) hrow (t := .symbol .eq) rfl
  | like c pattern escape negated =>
    have hlike : ∀ ts : List Token, (∀ t ∈ ts, t.isPlain) → Stays frames
        (tokens c.lexemes ++ ((negation negated).flatMap tokens
          ++ .keyword .like :: .placeholder pattern.toInt :: ts)) := by
      intro ts hts
      have hpattern : Stays frames (.placeholder pattern.toInt :: ts) :=
        (Stays.of_isPlain hts).cons rfl
      cases negated with
      | false => exact hpattern.column hrow rfl
      | true => exact (hpattern.cons rfl).column hrow rfl
    cases escape with
    | none => simpa [lexemes, Lexeme.token?] using hlike [] (by simp)
    | some e =>
      simpa [lexemes, Lexeme.token?] using
        hlike [.keyword .escape, .literal (String.singleton e)] (by simp [Token.isPlain])
  | «exists» rows negated =>
    have hrows := Stays.subquery hrow hinner
    have hall := (stays_negation frames negated).append (hrows.cons (t := .keyword .exists) rfl)
    simpa [lexemes, Lexeme.token?] using hall

/-- **A condition on rows in scope keeps to what is in scope.**  The induction is on the
condition; the brackets around a part hide nothing. -/
theorem SearchCondition.stays (f : SearchCondition) {frames : List (List String)}
    (hrows : ∀ p ∈ Formula.atoms f, InScope frames p.row.text)
    (hinner : ¬ InScope frames Alias.inner.text) :
    Stays frames (tokens (SearchCondition.lexemes f)) := by
  induction f using Formula.induct generalizing frames with
  | atom p => exact p.stays (hrows p (List.mem_singleton_self p)) hinner
  | not f ih =>
    have hf : Stays ([] :: frames) (tokens (SearchCondition.lexemes f)) :=
      ih (fun p hp => inScope_cons.2 (.inr (hrows p hp))) (by simpa using hinner)
    rw [tokens_not]
    exact hf.brackets.cons rfl
  | junction c ts ih =>
    cases ts with
    | nil => cases c <;> exact .of_isPlain (List.forall_mem_singleton.2 rfl)
    | cons t ts =>
      rw [tokens_junction]
      refine Stays.intercalate ?_ fun g hg => ?_
      · cases c <;> exact .of_isPlain (List.forall_mem_singleton.2 rfl)
      · obtain ⟨f, hf, rfl⟩ := List.mem_map.1 hg
        refine Stays.brackets (ih f hf (fun p hp => ?_) (by simpa using hinner))
        have hatom : p ∈ Formula.atoms (.junction c (t :: ts)) := by
          rw [Formula.atoms_junction]
          exact List.mem_flatMap.2 ⟨f, hf, hp⟩
        exact inScope_cons.2 (.inr (hrows p hatom))

/-! ## Joins -/

/-- **A join introduces its row**, and then refers to it and to one that
was introduced before. -/
theorem JoinClause.after?_lexemes (schema : Option String) {clause : JoinClause}
    {frame : List String} (hnew : clause.joined.row.text ∉ frame)
    (howner : clause.owner.row.text ∈ frame) (closed : List (List String)) (b : Bool) :
    Scopes.after? ⟨[frame], closed, b⟩ ((clause.lexemes schema).flatMap tokens)
      = some ⟨[clause.joined.row.text :: frame], closed, true⟩ := by
  have hw : ¬ InScope [frame] clause.joined.row.text := by simpa using hnew
  have hjoined : InScope [clause.joined.row.text :: frame] clause.joined.row.text := by simp
  have howner : InScope [clause.joined.row.text :: frame] clause.owner.row.text := by
    simp [howner]
  rw [clause.flatMap_tokens_lexemes]
  simp only [Scopes.after?_cons, Scopes.step_keyword, Option.bind_some, after?_table _ _ hw]
  simp [Scopes.step_refer hjoined, Scopes.step_refer howner]

/-- **One join after the other introduces its row.** -/
theorem Scopes.after?_joins (schema : Option String) (joins : List JoinClause)
    (frame : List String)
    (hnodup : ((joins.map fun clause => clause.joined.row.text).reverse ++ frame).Nodup)
    (howner : ∀ i clause, joins[i]? = some clause → clause.owner.row.text ∈
      ((joins.take i).map fun clause => clause.joined.row.text).reverse ++ frame)
    (closed : List (List String)) (b : Bool) :
    ∃ b', Scopes.after? ⟨[frame], closed, b⟩
        (joins.flatMap fun clause => (clause.lexemes schema).flatMap tokens)
      = some ⟨[(joins.map fun clause => clause.joined.row.text).reverse ++ frame],
          closed, b'⟩ := by
  induction joins generalizing frame b with
  | nil => exact ⟨b, rfl⟩
  | cons clause joins ih =>
    -- `frame` has the rows introduced so far, to which the first join adds its own
    rw [List.map_cons, List.reverse_cons, List.append_assoc, List.singleton_append] at hnodup ⊢
    have hnew : clause.joined.row.text ∉ frame :=
      (List.nodup_cons.1 (List.nodup_append.1 hnodup).2.1).1
    have hclause := clause.after?_lexemes schema hnew (howner 0 clause rfl) closed b
    have howners : ∀ i next, joins[i]? = some next → next.owner.row.text ∈
        ((joins.take i).map fun clause => clause.joined.row.text).reverse
          ++ clause.joined.row.text :: frame := by
      intro i next hnext
      simpa using howner (i + 1) next hnext
    obtain ⟨b', hjoins⟩ := ih (clause.joined.row.text :: frame) hnodup howners true
    refine ⟨b', ?_⟩
    rw [List.flatMap_cons, Scopes.after?_append, hclause, Option.bind_some, hjoins]

/-! ## Queries -/

/-- In front of its tables a query names no row but that of the root. -/
theorem Projection.of_mem_opening {projection : Projection} {t : Token}
    (ht : t ∈ projection.opening) :
    t ≠ .keyword .from ∧ ∀ w, t = .word w → w = Alias.root.text := by
  revert t
  cases projection with
  | rows distinct => cases distinct <;> simp [opening]
  | count column => cases column <;> simp [opening]
  | existence => simp [opening]

theorem Projection.word_notMem_closing (projection : Projection) (w : String) :
    .word w ∉ projection.closing := by
  cases projection <;> simp [closing]

namespace Query

/-- The names of the rows of a query, from left to right. -/
def rowNames (query : Query) : List String :=
  Alias.root.text :: query.joins.map fun clause => clause.joined.row.text

/-- Each row of a query has a name of its own and is introduced before it is referred to. -/
structure Scoped (query : Query) : Prop where
  nodup : query.rowNames.Nodup
  inner : Alias.inner.text ∉ query.rowNames
  owner : ∀ i clause, query.joins[i]? = some clause →
    clause.owner.row.text ∈ query.rowNames.take (i + 1)
  condition : ∀ f ∈ query.condition, ∀ p ∈ Formula.atoms f, p.row.text ∈ query.rowNames

/-- What follows the joins of a query keeps to what is in scope. -/
theorem Scoped.stays {query : Query} (h : query.Scoped) :
    Stays [query.rowNames.reverse]
      (query.whereTokens ++ (query.orderTokens ++ query.windowTokens)) := by
  have hroot : InScope [query.rowNames.reverse] Alias.root.text := by simp [rowNames]
  refine Stays.append ?_ (Stays.append ?_ ?_)
  · unfold whereTokens
    cases hcondition : query.condition with
    | none => exact .nil
    | some f =>
      refine Stays.cons rfl (SearchCondition.stays f (fun p hp => ?_) ?_)
      · simpa using h.condition f hcondition p hp
      · simpa using h.inner
  · unfold orderTokens
    split
    · exact .nil
    · refine Stays.cons rfl (Stays.cons rfl (Stays.commas fun g hg => ?_))
      obtain ⟨key, -, rfl⟩ := List.mem_map.1 hg
      rw [tokens_sortKeyLexemes]
      exact Stays.nil.column hroot rfl
  · unfold windowTokens
    cases query.window with
    | none => exact .nil
    | some window => exact .of_isPlain (by simp [Token.isPlain])

/-- After the joins of a query nothing follows or a word of SQL. -/
theorem eq_nil_or_keyword (query : Query) :
    query.whereTokens ++ (query.orderTokens ++ query.windowTokens) = [] ∨
      ∃ k ts, query.whereTokens ++ (query.orderTokens ++ query.windowTokens)
        = .keyword k :: ts := by
  unfold whereTokens orderTokens windowTokens
  cases query.condition with
  | some f => exact .inr ⟨_, _, rfl⟩
  | none =>
    by_cases hsorting : query.sorting.isEmpty
    · rw [if_pos hsorting]
      cases query.window with
      | some window => exact .inr ⟨_, _, rfl⟩
      | none => exact .inl rfl
    · rw [if_neg hsorting]
      exact .inr ⟨_, _, rfl⟩

/-- **In a scoped query every row is in scope where it is used**: its tables introduce the rows
one after the other, each once, and between brackets there is at most the row of a subquery. -/
theorem after?_bodyTokens {query : Query} (h : query.Scoped) :
    ∃ s, Scopes.start.after? query.bodyTokens = some s ∧
      s.frames = [query.rowNames.reverse] ∧
      ∀ frame ∈ s.closed, frame = [] ∨ frame = [Alias.inner.text] := by
  have hnames : query.rowNames.reverse
      = (query.joins.map fun clause => clause.joined.row.text).reverse ++ [Alias.root.text] :=
    List.reverse_cons
  obtain ⟨b, hjoins⟩ := Scopes.after?_joins query.schema query.joins [Alias.root.text]
    (by rw [← hnames]; exact List.nodup_reverse.2 h.nodup)
    (fun i clause hclause => by
      have howner := h.owner i clause hclause
      simpa [rowNames, List.map_take, or_comm] using howner) [] false
  have hroot : ¬ InScope [[]] Alias.root.text := by simp
  have hbody : Scopes.start.after? query.bodyTokens
      = Scopes.after? ⟨[query.rowNames.reverse], [], b⟩
          (query.whereTokens ++ (query.orderTokens ++ query.windowTokens)) := by
    rw [bodyTokens, List.flatMap_append, flatMap_tokens_sourceLexemes,
      flatMap_tokens_orderingLexemes, hnames]
    simp only [List.cons_append, List.append_assoc, Scopes.after?_cons, Scopes.step_keyword,
      Option.bind_some, Scopes.start, after?_table _ _ hroot]
    rw [Scopes.after?_append, hjoins, Option.bind_some]
  rw [hbody]
  rcases query.eq_nil_or_keyword with hrest | ⟨k, ts, hrest⟩
  · rw [hrest]
    exact ⟨_, rfl, rfl, by simp⟩
  · obtain ⟨inner, hafter, hinner⟩ := h.stays []
    rw [hrest] at hafter ⊢
    refine ⟨_, hafter, rfl, ?_⟩
    simpa using hinner

/-- The row of a subquery is not in scope after the brackets around it. -/
example : Scopes.start.after? [.keyword .from, .name "shows", .word "t0", .symbol .open,
    .name "ratings", .word "m", .word "m", .symbol .close, .word "m"] = none := by
  decide

end Query

end Sql

end RecordQuery
