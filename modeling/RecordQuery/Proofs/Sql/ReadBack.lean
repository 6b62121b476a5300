import RecordQuery.Proofs.Sql.Grammar
import RecordQuery.Proofs.Sql.Separation

/-!
# Reading conditions back

A search condition that is written out, split into tokens and read by the grammar comes back as
the expression that it spells.

## Main Definitions

* `Sql.SearchCondition.expr` — the expression that a search condition spells
* `Sql.Predicate.Correlated` — a subquery refers to a row outside of it

## Main Statements

* `Sql.readTerm_predicate` — a test is read as a whole
* `Sql.readChain_parts` — parts with a connective between them are read one after the other
* `Sql.parse?_tokens` — a search condition is read as its expression
-/

namespace RecordQuery

namespace Sql

/-! ## What a search condition spells -/

/-- The column as it is read. -/
def ColumnName.qualified (c : ColumnName) : QualifiedName := ⟨c.row.text, c.column⟩

/-- The rows of a subquery as they are read. -/
def Subquery.related (rows : Subquery) : RelatedRows :=
  ⟨rows.schema, rows.table, rows.foreignKey, rows.owner.qualified⟩

/-- The operand that a placeholder is read as. -/
def parameterOperand (n : Int32) : Operand := .parameter n.toInt

/-- An expression or its complement. -/
def Expr.negateIf (negated : Bool) (x : Expr) : Expr := if negated then .not x else x

/-- The expression that a test spells. -/
def Predicate.expr : Predicate → Expr
  | compare c op value => .compare c.qualified op (parameterOperand value)
  | between c low high => .between c.qualified (parameterOperand low) (parameterOperand high)
  | oneOf _ [] => .constant false
  | oneOf c (v :: vs) => .oneOf c.qualified ((v :: vs).map parameterOperand)
  | isNull c negated => .negateIf negated (.isNull c.qualified)
  | isBool c b => .compare c.qualified .eq (.bool b)
  | like c pattern escape negated =>
    .negateIf negated
      (.like c.qualified (parameterOperand pattern) (escape.map String.singleton))
  | .exists rows negated =>
    .negateIf negated
      (.exists rows.related
        (rows.key.map fun (column, value) => (column, parameterOperand value)))

/-- Two expressions with a connective between them. -/
def connect : Connective → Expr → Expr → Expr
  | .conj => .both
  | .disj => .either

/-- Expressions with a connective between them, grouped to the right. -/
def chain (join : Expr → Expr → Expr) : Expr → List Expr → Expr
  | x, [] => x
  | x, y :: ys => join x (chain join y ys)

mutual

/-- The expression that a search condition spells. -/
def SearchCondition.expr : SearchCondition → Expr
  | .atom p => p.expr
  | .junction c [] => .constant c.identity
  | .junction c (t :: ts) =>
    chain (connect c) (SearchCondition.expr t) (SearchCondition.exprEach ts)
  | .not f => .not (SearchCondition.expr f)

/-- The expressions that search conditions spell. -/
def SearchCondition.exprEach : List SearchCondition → List Expr
  | [] => []
  | f :: fs => SearchCondition.expr f :: SearchCondition.exprEach fs

end

@[simp] theorem SearchCondition.exprEach_eq_map (fs : List SearchCondition) :
    exprEach fs = fs.map expr := by
  induction fs with
  | nil => rfl
  | cons f fs ih => simp [exprEach, ih]

/-! ## Tests -/

/-- A subquery refers to a row outside of it. -/
def Predicate.Correlated : Predicate → Prop
  | .exists rows _ => rows.owner.row ≠ .inner
  | _ => True

theorem Alias.text_ne_inner {a : Alias} (h : a ≠ .inner) : a.text ≠ "m" := by
  cases a with
  | root => decide
  | inner => exact absurd rfl h
  | join index =>
    intro htext
    have hlead := congrArg (fun s => s.toList.head?) htext
    simp [Alias.text, String.toList_append] at hlead

/-- The tokens that end a condition: a closing bracket, or what comes after it in a
statement. -/
def closers : List Token := [.symbol .close, .keyword .order, .keyword .limit]

/-- What may follow a condition: the end, or a token that ends it. -/
def Closes (ts : List Token) : Prop := ∀ t ∈ ts.head?, t ∈ closers

theorem closes_nil : Closes [] := by simp [Closes]

theorem closes_cons {t : Token} (ht : t ∈ closers) (ts : List Token) : Closes (t :: ts) := by
  intro u hu
  obtain rfl : t = u := by simpa using hu
  exact ht

theorem Closes.head?_ne {ts : List Token} (h : Closes ts) {t : Token} (ht : t ∉ closers) :
    ts.head? ≠ some t :=
  fun hhead => ht (h t hhead)

theorem operand?_placeholder (n : Int32) :
    (Token.placeholder n.toInt).operand? = some (parameterOperand n) := rfl

theorem comparison?_symbol (op : Comparison) : op.symbol.comparison? = some op := by
  cases op <;> rfl

theorem readColumn_columnName (c : ColumnName) (ts : List Token) :
    readColumn (tokens c.lexemes ++ ts) = some (c.qualified, ts) := by
  rw [tokens_columnName]
  rfl

/-- A term that starts with a column is a test of it. -/
theorem readTerm_words (n : Nat) (c : ColumnName) (groups : List (List Lexeme))
    (rest : List Token) :
    readTerm (n + 1) (tokens (Lexeme.words (c.lexemes :: groups)) ++ rest)
      = readColumnTest c.qualified (groups.flatMap tokens ++ rest) := by
  rw [tokens_words, List.flatMap_cons, List.append_assoc, tokens_columnName]
  rfl

/-- Comma by comma, a list of placeholders is read. -/
theorem readOperands_placeholders (v : Int32) (vs : List Int32) (rest : List Token) :
    readOperands (tokens (Lexeme.commas ((v :: vs).map fun n => [.placeholder n])) ++
      .symbol .close :: rest) = some ((v :: vs).map parameterOperand, rest) := by
  induction vs generalizing v with
  | nil => simp [Lexeme.commas, Lexeme.token?, readOperands, operand?_placeholder]
  | cons w vs ih =>
    have hsplit : tokens (Lexeme.commas ((v :: w :: vs).map fun n => [.placeholder n]))
        = .placeholder v.toInt :: .symbol .comma ::
          tokens (Lexeme.commas ((w :: vs).map fun n => [.placeholder n])) := by
      simp [Lexeme.commas, List.intercalate_cons_cons, Lexeme.token?]
    rw [hsplit]
    simp only [List.cons_append, readOperands, operand?_placeholder, ih]
    rfl

/-- What follows `LIKE` is read as a whole: no other `ESCAPE` can follow. -/
theorem readLike_tokens (c : QualifiedName) (pattern : Int32) (escape : Option Char)
    {rest : List Token} (hrest : Closes rest) :
    readLike c (.placeholder pattern.toInt ::
      ((match escape with
        | none => []
        | some e => [.keyword .escape, .literal (String.singleton e)]) ++ rest))
      = some (.like c (parameterOperand pattern) (escape.map String.singleton), rest) := by
  cases escape with
  | some e => rfl
  | none =>
    cases rest with
    | nil => rfl
    | cons t rest =>
      have ht : t ∈ closers := hrest t rfl
      simp only [closers, List.mem_cons, List.not_mem_nil, or_false] at ht
      rcases ht with rfl | rfl | rfl <;> rfl

theorem readTable_tableLexemes (schema : Option String) (table row : String) (ts : List Token) :
    readTable (tokens (tableLexemes schema table) ++ .word row :: ts)
      = some ((schema, table), .word row :: ts) := by
  cases schema <;> rfl

/-- The tokens of a subquery: what stands before the key, and the key if there is one. -/
theorem tokens_subquery (rows : Subquery) :
    tokens rows.lexemes
      = .keyword .select :: .numeral 1 :: .keyword .from ::
        (tokens (tableLexemes rows.schema rows.table) ++ .word "m" :: .keyword .where ::
          (tokens (ColumnName.lexemes ⟨.inner, rows.foreignKey⟩) ++ .symbol .eq ::
            (tokens rows.owner.lexemes ++
              match rows.key with
              | none => []
              | some (column, value) =>
                .keyword .and :: (tokens (ColumnName.lexemes ⟨.inner, column⟩) ++
                  [.symbol .eq, .placeholder value.toInt])))) := by
  rw [Subquery.lexemes, tokens_words, List.flatMap_append]
  cases rows.key <;> simp only [List.flatMap_cons, List.flatMap_nil, tokens_cons, tokens_nil,
    Lexeme.token?, Option.toList_some, List.cons_append, List.nil_append, List.append_nil,
    List.append_assoc, Alias.text]

/-- A subquery is read as the rows that it asks for. -/
theorem readSubquery_tokens {rows : Subquery} (hrows : rows.owner.row ≠ .inner)
    (rest : List Token) :
    readSubquery (tokens rows.lexemes ++ .symbol .close :: rest)
      = some (.exists rows.related
          (rows.key.map fun (column, value) => (column, parameterOperand value)), rest) := by
  have howner : rows.owner.qualified.row ≠ "m" := Alias.text_ne_inner hrows
  have hinner : ∀ column, (ColumnName.qualified ⟨.inner, column⟩).row = "m" := fun _ => rfl
  rw [tokens_subquery]
  simp only [List.cons_append, List.append_assoc, readSubquery, readTable_tableLexemes,
    readColumn_columnName, expect, Option.bind_eq_bind, Option.bind_some, if_true, hinner,
    guard, howner, ne_eq, not_false_eq_true, and_self]
  cases rows.key with
  | none => rfl
  | some key =>
    simp only [List.cons_append, List.append_assoc, readColumn_columnName, Option.bind_some,
      hinner, if_true]
    rfl

theorem length_tokens_predicate_pos (p : Predicate) : 0 < (tokens p.lexemes).length := by
  cases p with
  | oneOf c values => cases values <;> simp [Predicate.lexemes, constantLexeme, Lexeme.token?]
  | «exists» rows negated =>
    simp only [Predicate.lexemes, tokens_words, List.flatMap_append, List.length_append,
      List.flatMap_cons, tokens_parens, List.length_cons]
    omega
  | _ => simp [Predicate.lexemes]

/-- A test is read as a whole. -/
theorem readTerm_predicate {p : Predicate} (hp : p.Correlated) {n : Nat}
    (hn : (tokens p.lexemes).length ≤ n) {rest : List Token} (hrest : Closes rest) :
    readTerm n (tokens p.lexemes ++ rest) = some (p.expr, rest) := by
  obtain ⟨n, rfl⟩ : ∃ m, n = m + 1 :=
    Nat.exists_eq_succ_of_ne_zero (Nat.ne_of_gt ((length_tokens_predicate_pos p).trans_le hn))
  cases p with
  | compare c op value =>
    rw [Predicate.lexemes, readTerm_words]
    simp [Lexeme.token?, readColumnTest, comparison?_symbol, operand?_placeholder,
      Predicate.expr]
  | between c low high =>
    rw [Predicate.lexemes, readTerm_words]
    simp [Lexeme.token?, readColumnTest, operand?_placeholder, Predicate.expr]
  | oneOf c values =>
    cases values with
    | nil => rfl
    | cons v vs =>
      rw [Predicate.lexemes, readTerm_words]
      have hgroups : ([[Lexeme.keyword .in], Lexeme.parens (Lexeme.commas
          ((v :: vs).map fun n => [.placeholder n]))].flatMap tokens) ++ rest
          = .keyword .in :: .symbol .open :: (tokens (Lexeme.commas
            ((v :: vs).map fun n => [.placeholder n])) ++ .symbol .close :: rest) := by
        simp [Lexeme.token?]
      rw [hgroups, readColumnTest, readOperands_placeholders]
      rfl
  | isNull c negated =>
    rw [Predicate.lexemes, List.append_assoc, List.cons_append, readTerm_words]
    cases negated <;> rfl
  | isBool c b =>
    rw [Predicate.lexemes, readTerm_words]
    cases b <;> rfl
  | like c pattern escape negated =>
    have hlike := readLike_tokens c.qualified pattern escape hrest
    cases escape <;>
    · rw [Predicate.lexemes, List.append_assoc, List.append_assoc, List.cons_append,
        readTerm_words]
      cases negated <;>
        simp_all [negation, Lexeme.token?, readColumnTest, Predicate.expr, Expr.negateIf]
  | «exists» rows negated =>
    have hrows := readSubquery_tokens hp rest
    rw [Predicate.lexemes, tokens_words] at hn ⊢
    cases negated with
    | false =>
      simp_all [negation, Lexeme.token?, readTerm, readTest, Predicate.expr, Expr.negateIf]
    | true =>
      -- the word `NOT` takes one level
      obtain ⟨n, rfl⟩ : ∃ m, n = m + 1 := by
        refine Nat.exists_eq_succ_of_ne_zero ?_
        rintro rfl
        simp [negation, Lexeme.token?] at hn
      simp_all [negation, Lexeme.token?, readTerm, readTest, Predicate.expr, Expr.negateIf]

/-! ## Connectives -/

/-- A chain ends where its connective does not follow. -/
theorem readChain_single {k : Keyword} {join : Expr → Expr → Expr} {part : Reader Expr}
    {ts rest : List Token} {x : Expr} (hpart : part ts = some (x, rest))
    (hrest : rest.head? ≠ some (.keyword k)) {n : Nat} (hn : 0 < n) :
    readChain k join part n ts = some (x, rest) := by
  obtain ⟨n, rfl⟩ := Nat.exists_eq_add_of_lt hn
  simp [readChain, hpart, hrest]

/-- Parts with a connective between them are read one after the other. -/
theorem readChain_parts {k : Keyword} {join : Expr → Expr → Expr} {part : Reader Expr}
    {rest : List Token} {α : Type} {spelling : α → List Token} {meaning : α → Expr}
    (hrest : rest.head? ≠ some (.keyword k)) (f : α) (fs : List α)
    (hpart : ∀ g ∈ f :: fs, ∀ ts, ts = rest ∨ ts.head? = some (.keyword k) →
      part (spelling g ++ ts) = some (meaning g, ts)) {n : Nat} (hn : fs.length < n) :
    readChain k join part n ([.keyword k].intercalate ((f :: fs).map spelling) ++ rest)
      = some (chain join (meaning f) (fs.map meaning), rest) := by
  induction fs generalizing f n with
  | nil =>
    have hf := hpart f List.mem_cons_self rest (.inl rfl)
    simpa [chain] using readChain_single hf hrest (Nat.zero_lt_of_lt hn)
  | cons g gs ih =>
    obtain ⟨n, rfl⟩ := Nat.exists_eq_add_of_lt hn
    -- the first part is read up to the connective, the others by the induction hypothesis
    have hrestRead := ih g (fun h hh => hpart h (List.mem_cons_of_mem f hh))
      (n := gs.length + 1 + n) (by omega)
    have hf := hpart f List.mem_cons_self
      (.keyword k :: ([.keyword k].intercalate ((g :: gs).map spelling) ++ rest)) (.inr rfl)
    simp only [List.map_cons, List.intercalate_cons_cons, List.append_assoc,
      List.cons_append, List.nil_append] at hrestRead hf ⊢
    rw [readChain, hf]
    simp [hrestRead, chain]

/-- A term by itself is a condition. -/
theorem readCondition_term {term : Reader Expr} {ts rest : List Token} {x : Expr}
    (hterm : term ts = some (x, rest)) (hrest : Closes rest) {n : Nat} (hn : 0 < n) :
    readCondition term n ts = some (x, rest) :=
  readChain_single (readChain_single hterm (hrest.head?_ne (by decide)) hn)
    (hrest.head?_ne (by decide)) hn

/-- Terms with one connective between them are a condition. -/
theorem readCondition_junction {term : Reader Expr} {rest : List Token} (hrest : Closes rest)
    {α : Type} {spelling : α → List Token} {meaning : α → Expr} (c : Connective) (f : α)
    (fs : List α)
    (hterm : ∀ g ∈ f :: fs, ∀ ts, term (spelling g ++ ts) = some (meaning g, ts)) {n : Nat}
    (hn : fs.length < n) :
    readCondition term n
        ((tokens [connectiveLexeme c]).intercalate ((f :: fs).map spelling) ++ rest)
      = some (chain (connect c) (meaning f) (fs.map meaning), rest) := by
  have hn' : 0 < n := Nat.zero_lt_of_lt hn
  cases c with
  | conj =>
    refine readChain_single ?_ (hrest.head?_ne (by decide)) hn'
    exact readChain_parts (hrest.head?_ne (by decide)) f fs
      (fun g hg ts _ => hterm g hg ts) hn
  | disj =>
    refine readChain_parts (hrest.head?_ne (by decide)) f fs (fun g hg ts hts => ?_) hn
    -- each alternative is a conjunction of one term
    refine readChain_single (hterm g hg ts) ?_ hn'
    rcases hts with rfl | hhead
    · exact hrest.head?_ne (by decide)
    · simp [hhead]

theorem length_le_length_intercalate {α : Type} {l : List α} {ls : List (List α)} (hl : l ∈ ls)
    (sep : List α) : l.length ≤ (sep.intercalate ls).length := by
  induction ls with
  | nil => simp at hl
  | cons m ms ih =>
    cases ms with
    | nil =>
      obtain rfl : l = m := by simpa using hl
      simp
    | cons k ks =>
      rw [List.intercalate_cons_cons]
      simp only [List.length_append]
      rcases List.mem_cons.1 hl with rfl | hl
      · omega
      · have := ih hl
        omega

theorem length_le_length_intercalate_of_ne_nil {α : Type} {ls : List (List α)} (sep : List α)
    (h : ∀ l ∈ ls, l ≠ []) : ls.length ≤ (sep.intercalate ls).length := by
  induction ls with
  | nil => simp
  | cons m ms ih =>
    have hm : 0 < m.length := List.length_pos_iff.2 (h m List.mem_cons_self)
    have hms := ih fun l hl => h l (List.mem_cons_of_mem m hl)
    cases ms with
    | nil => simpa [Nat.one_le_iff_ne_zero] using h m
    | cons k ks =>
      rw [List.intercalate_cons_cons]
      simp only [List.length_append, List.length_cons] at hms ⊢
      omega

/-- The tokens of a part of a junction or of a complement. -/
def SearchCondition.partTokens (f : SearchCondition) : List Token :=
  .symbol .open :: tokens f.lexemes ++ [.symbol .close]

theorem SearchCondition.length_partTokens (f : SearchCondition) :
    f.partTokens.length = (tokens f.lexemes).length + 2 := by
  simp [partTokens]

theorem tokens_not (f : SearchCondition) :
    tokens (SearchCondition.lexemes (.not f)) = .keyword .not :: f.partTokens := by
  simp [SearchCondition.lexemes, SearchCondition.partTokens, Lexeme.token?]

theorem tokens_junction (c : Connective) (t : SearchCondition) (ts : List SearchCondition) :
    tokens (SearchCondition.lexemes (.junction c (t :: ts)))
      = (tokens [connectiveLexeme c]).intercalate
          ((t :: ts).map SearchCondition.partTokens) := by
  have hparts : tokens ∘ (fun f => Lexeme.parens (SearchCondition.lexemes f))
      = SearchCondition.partTokens := by
    funext f
    exact tokens_parens _
  rw [SearchCondition.lexemes, SearchCondition.partLexemes_eq_map, tokens_intercalate,
    List.map_map, hparts]
  rfl

/-- A condition in brackets is a term. -/
theorem readTerm_partTokens {f : SearchCondition} {x : Expr} {n : Nat}
    (h : ∀ rest, Closes rest →
      readCondition (readTerm n) n (tokens f.lexemes ++ rest) = some (x, rest))
    (rest : List Token) : readTerm (n + 1) (f.partTokens ++ rest) = some (x, rest) := by
  have hread := h (.symbol .close :: rest) (closes_cons (by decide) rest)
  simp [SearchCondition.partTokens, readTerm, hread, expect]

/-- **A search condition is read as the expression that it spells.**  The induction is on the
condition; a part in brackets is shorter than the whole by its brackets, which pays for the
level that it takes. -/
theorem readCondition_tokens (f : SearchCondition) (hf : ∀ p ∈ f.atoms, p.Correlated) {n : Nat}
    (hn : (tokens f.lexemes).length ≤ n) {rest : List Token} (hrest : Closes rest) :
    readCondition (readTerm n) n (tokens f.lexemes ++ rest) = some (f.expr, rest) := by
  induction f using Formula.induct generalizing n rest with
  | atom p =>
    have hp : p.Correlated := hf p (by simp [Formula.atoms])
    exact readCondition_term (readTerm_predicate hp hn hrest) hrest
      ((length_tokens_predicate_pos p).trans_le hn)
  | not f ih =>
    have hf' : ∀ p ∈ f.atoms, p.Correlated :=
      fun p hp => hf p (by simpa [Formula.atoms] using hp)
    rw [tokens_not] at hn ⊢
    rw [List.length_cons, SearchCondition.length_partTokens] at hn
    obtain ⟨m, rfl⟩ := Nat.exists_eq_add_of_le' (show 2 ≤ n by omega)
    have hinner := readTerm_partTokens (n := m) (fun rest hrest => ih hf' (by omega) hrest) rest
    refine readCondition_term ?_ hrest (by omega)
    rw [List.cons_append, readTerm, hinner]
    rfl
  | junction c ts ih =>
    cases ts with
    | nil =>
      have hconstant : tokens (SearchCondition.lexemes (.junction c []))
          = tokens [constantLexeme c.identity] := rfl
      rw [hconstant] at hn ⊢
      obtain ⟨m, rfl⟩ : ∃ m, n = m + 1 := Nat.exists_eq_succ_of_ne_zero (by
        rintro rfl
        cases c <;> exact absurd hn (by decide))
      refine readCondition_term ?_ hrest (by omega)
      cases c <;> rfl
    | cons t ts =>
      rw [tokens_junction] at hn ⊢
      have hne : ∀ l ∈ (t :: ts).map SearchCondition.partTokens, l ≠ [] := by
        simp [SearchCondition.partTokens]
      -- there are no more parts than tokens, so the levels suffice for the chain as well
      have hparts := length_le_length_intercalate_of_ne_nil (tokens [connectiveLexeme c]) hne
      rw [List.length_map, List.length_cons] at hparts
      rw [SearchCondition.expr, SearchCondition.exprEach_eq_map]
      refine readCondition_junction hrest c t ts (fun g hg rest => ?_) (by omega)
      have hg' : ∀ p ∈ g.atoms, p.Correlated := fun p hp =>
        hf p (by simpa [Formula.atoms] using List.mem_flatMap.2 ⟨g, hg, hp⟩)
      have hlength := length_le_length_intercalate
        (List.mem_map_of_mem (f := SearchCondition.partTokens) hg) (tokens [connectiveLexeme c])
      rw [SearchCondition.length_partTokens] at hlength
      obtain ⟨m, rfl⟩ := Nat.exists_eq_add_of_le' (show 1 ≤ n by omega)
      exact readTerm_partTokens (fun rest hrest => ih g hg hg' (by omega) hrest) rest

/-- The tokens of a search condition spell its expression and nothing else. -/
theorem parse?_tokens (f : SearchCondition) (hf : ∀ p ∈ f.atoms, p.Correlated) :
    parse? (tokens f.lexemes) = some f.expr := by
  have hread := readCondition_tokens f hf (Nat.le_refl _) closes_nil
  rw [List.append_nil] at hread
  rw [parse?, hread]

end Sql

end RecordQuery
