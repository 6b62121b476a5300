import Mathlib.Data.List.Infix
import RecordQuery.Proofs.Logic.Formula
import RecordQuery.Proofs.Sql.Separation

/-!
# Where statements name tables

A statement names a table behind the keyword of its rows, behind that of each join, and behind
that of each subquery.  All of these tables are in one schema.

## Main Definitions

* `Sql.Lexeme.opensTable` — the keywords that a table follows
* `Sql.NamesTables` — behind each of them stands a table of the schema
* `Sql.Query.WithinSchema` — the subqueries of a query are over tables of its schema

## Main Statements

* `Sql.namesTables_reference` — a keyword with its table
* `Sql.namesTables_searchCondition` — all subqueries of a condition
* `Sql.Query.namesTables_lexemes` — whole queries

## Design Notes

A keyword is separated from its table, so a group of lexemes by itself may well end with one.
The groups are therefore looked at with the blanks in front of them, as they stand in a row.
-/

namespace RecordQuery

namespace Sql

/-- The keywords that a table follows. -/
@[simp] def Lexeme.opensTable : Lexeme → Bool
  | .keyword .from => true
  | .keyword .join => true
  | _ => false

/-- Behind each keyword that a table follows there is a table of the schema, between blanks. -/
def NamesTables (schema : Option String) (ls : List Lexeme) : Prop :=
  ∀ l rest, l :: rest <:+ ls → l.opensTable → ∃ table after,
    rest = .blank :: (tableLexemes schema table ++ .blank :: after)

/-! ## Groups -/

section Groups

variable {schema : Option String}

@[simp] theorem namesTables_nil : NamesTables schema [] := by
  intro l rest hsuffix
  exact absurd (List.suffix_nil.1 hsuffix) nofun

@[simp] theorem namesTables_cons {l : Lexeme} {ls : List Lexeme} :
    NamesTables schema (l :: ls) ↔ (l.opensTable → ∃ table after,
      ls = .blank :: (tableLexemes schema table ++ .blank :: after)) ∧
      NamesTables schema ls := by
  constructor
  · intro h
    exact ⟨h l ls List.suffix_rfl, fun k rest hsuffix =>
      h k rest (hsuffix.trans (List.suffix_cons l ls))⟩
  · rintro ⟨hl, hls⟩ k rest hsuffix hk
    rcases List.suffix_cons_iff.1 hsuffix with heq | hsuffix
    · obtain ⟨rfl, rfl⟩ := List.cons.inj heq
      exact hl hk
    · exact hls k rest hsuffix hk

theorem NamesTables.append {ls ms : List Lexeme} (hls : NamesTables schema ls)
    (hms : NamesTables schema ms) : NamesTables schema (ls ++ ms) := by
  rintro l rest ⟨front, hfront⟩ hl
  -- the keyword stands in one of the two parts, and then so does the table behind it
  rcases List.append_eq_append_iff.1 hfront with ⟨mid, rfl, hmid⟩ | ⟨mid, rfl, hmid⟩
  · cases mid with
    | nil => exact hms l rest (hmid ▸ List.suffix_rfl) hl
    | cons m mid =>
      rw [List.cons_append] at hmid
      obtain ⟨rfl, rfl⟩ := List.cons.inj hmid
      obtain ⟨table, after, rfl⟩ := hls l mid (List.suffix_append _ _) hl
      refine ⟨table, after ++ ms, ?_⟩
      simp only [List.cons_append, List.append_assoc]
  · exact hms l rest ⟨mid, hmid.symm⟩ hl

@[simp] theorem namesTables_tableLexemes (schema' : Option String) (table : String) :
    NamesTables schema (tableLexemes schema' table) := by
  cases schema' <;> simp [tableLexemes]

/-- A table behind its keyword. -/
theorem namesTables_reference (l : Lexeme) (table : String) {after : List Lexeme}
    (h : NamesTables schema after) :
    NamesTables schema (l :: .blank :: (tableLexemes schema table ++ .blank :: after)) := by
  have hafter : NamesTables schema (tableLexemes schema table ++ .blank :: after) :=
    (namesTables_tableLexemes schema table).append (namesTables_cons.2 ⟨nofun, h⟩)
  exact namesTables_cons.2 ⟨fun _ => ⟨table, after, rfl⟩, namesTables_cons.2 ⟨nofun, hafter⟩⟩

theorem NamesTables.intercalate {sep : List Lexeme} {groups : List (List Lexeme)}
    (hsep : NamesTables schema sep) (hgroups : ∀ g ∈ groups, NamesTables schema g) :
    NamesTables schema (sep.intercalate groups) :=
  intercalate_of_append namesTables_nil append hsep hgroups

theorem NamesTables.flatMap {α : Type} {f : α → List Lexeme} {as : List α}
    (h : ∀ a ∈ as, NamesTables schema (f a)) : NamesTables schema (as.flatMap f) := by
  rw [List.flatMap, ← nil_intercalate]
  exact .intercalate namesTables_nil (List.forall_mem_map.2 h)

theorem namesTables_parens {ls : List Lexeme} (h : NamesTables schema ls) :
    NamesTables schema (Lexeme.parens ls) :=
  namesTables_cons.2 ⟨nofun, h.append (by simp)⟩

/-! ## Words -/

/-- Groups of lexemes, each with a blank in front of it. -/
def Lexeme.spaced (groups : List (List Lexeme)) : List Lexeme :=
  groups.flatMap (.blank :: ·)

theorem Lexeme.words_cons (g : List Lexeme) (groups : List (List Lexeme)) :
    words (g :: groups) = g ++ spaced groups := by
  induction groups generalizing g with
  | nil => exact List.intercalate_singleton.trans (List.append_nil g).symm
  | cons h groups ih =>
    rw [words, List.intercalate_cons_cons, ← words, ih]
    simp only [spaced, List.flatMap_cons, List.append_assoc, List.cons_append, List.nil_append]

/-- The first of the words has no blank in front of it, which is no keyword. -/
theorem namesTables_words {groups : List (List Lexeme)}
    (h : NamesTables schema (Lexeme.spaced groups)) :
    NamesTables schema (Lexeme.words groups) := by
  cases groups with
  | nil => exact namesTables_nil
  | cons g groups =>
    rw [Lexeme.words_cons]
    exact (namesTables_cons.1 h).2

theorem NamesTables.spaced {groups : List (List Lexeme)}
    (h : ∀ g ∈ groups, NamesTables schema g) : NamesTables schema (Lexeme.spaced groups) :=
  .flatMap fun g hg => namesTables_cons.2 ⟨nofun, h g hg⟩

theorem NamesTables.spaced_append {groups more : List (List Lexeme)}
    (hgroups : NamesTables schema (Lexeme.spaced groups))
    (hmore : NamesTables schema (Lexeme.spaced more)) :
    NamesTables schema (Lexeme.spaced (groups ++ more)) := by
  rw [Lexeme.spaced, List.flatMap_append]
  exact hgroups.append hmore

/-- A keyword, its table and the alias of the row. -/
theorem namesTables_spaced_reference (k : Keyword) (table : String) (a : Alias) :
    NamesTables schema (Lexeme.spaced [[.keyword k], tableLexemes schema table, [.row a]]) := by
  have hrow : NamesTables schema [.row a] := by simp
  exact namesTables_cons.2 ⟨nofun, namesTables_reference (.keyword k) table hrow⟩

end Groups

/-! ## Conditions -/

section Conditions

variable {schema : Option String}

@[simp] theorem namesTables_columnName (c : ColumnName) : NamesTables schema c.lexemes := by
  simp [ColumnName.lexemes]

theorem namesTables_negation {negated : Bool} :
    ∀ g ∈ negation negated, NamesTables schema g := by
  cases negated <;> simp [negation]

/-- The subquery of a test, if it has one, is over a table of the schema. -/
def Predicate.WithinSchema (schema : Option String) : Predicate → Prop
  | .exists rows _ => rows.schema = schema
  | _ => True

theorem namesTables_subquery (rows : Subquery) : NamesTables rows.schema rows.lexemes := by
  have hselect : NamesTables rows.schema (Lexeme.spaced [[.keyword .select], [.one]]) :=
    .spaced (by simp)
  have htable : NamesTables rows.schema (Lexeme.spaced
      [[.keyword .from], tableLexemes rows.schema rows.table, [.row .inner]]) :=
    namesTables_spaced_reference .from rows.table .inner
  have hwhere : NamesTables rows.schema (Lexeme.spaced [[.keyword .where],
      ColumnName.lexemes ⟨.inner, rows.foreignKey⟩, [.symbol .eq], rows.owner.lexemes]) :=
    .spaced (by simp)
  refine namesTables_words
    (((hselect.spaced_append htable).spaced_append hwhere).spaced_append ?_)
  cases rows.key <;> exact .spaced (by simp)

theorem namesTables_predicate {p : Predicate} (hp : p.WithinSchema schema) :
    NamesTables schema p.lexemes := by
  cases p with
  | compare c op value => exact namesTables_words (.spaced (by simp))
  | between c low high => exact namesTables_words (.spaced (by simp))
  | oneOf c values =>
    cases values with
    | nil => simp [Predicate.lexemes, constantLexeme]
    | cons v vs =>
      have hvalues :
          NamesTables schema (Lexeme.commas ((v :: vs).map fun n => [.placeholder n])) :=
        .intercalate (by simp) (by simp)
      refine namesTables_words (.spaced ?_)
      simpa using namesTables_parens hvalues
  | isNull c negated =>
    refine namesTables_words (.spaced ?_)
    simpa [or_imp, forall_and] using namesTables_negation
  | isBool c b => cases b <;> exact namesTables_words (.spaced (by simp [constantLexeme]))
  | like c pattern escape negated =>
    cases escape <;>
    · refine namesTables_words (.spaced ?_)
      simpa [or_imp, forall_and] using namesTables_negation
  | «exists» rows negated =>
    obtain rfl : rows.schema = schema := hp
    refine namesTables_words (.spaced ?_)
    simpa [or_imp, forall_and, namesTables_parens (namesTables_subquery rows)]
      using namesTables_negation

/-- **All subqueries of a condition** are over tables of the schema. -/
theorem namesTables_searchCondition (f : SearchCondition)
    (hf : ∀ p ∈ Formula.atoms f, p.WithinSchema schema) : NamesTables schema f.lexemes := by
  induction f using Formula.induct with
  | atom p => exact namesTables_predicate (hf p (List.mem_singleton.2 rfl))
  | not f ih =>
    have hparts : NamesTables schema (Lexeme.parens (SearchCondition.lexemes f)) :=
      namesTables_parens (ih hf)
    exact namesTables_cons.2 ⟨nofun, namesTables_cons.2 ⟨nofun, hparts⟩⟩
  | junction c ts ih =>
    cases ts with
    | nil => cases c <;> simp [SearchCondition.lexemes, constantLexeme, Connective.identity]
    | cons t ts =>
      rw [SearchCondition.lexemes, SearchCondition.partLexemes_eq_map]
      refine .intercalate ?_ ?_
      · cases c <;> simp [connectiveLexeme]
      · intro g hg
        obtain ⟨f, hmem, rfl⟩ := List.mem_map.1 hg
        refine namesTables_parens (ih f hmem fun p hp => hf p ?_)
        rw [Formula.atoms_junction]
        exact List.mem_flatMap.2 ⟨f, hmem, hp⟩

end Conditions

/-! ## Queries -/

theorem namesTables_joinClause (schema : Option String) (clause : JoinClause) :
    NamesTables schema (Lexeme.spaced (clause.lexemes schema)) := by
  have hinner : NamesTables schema (Lexeme.spaced [[.keyword .inner]]) := .spaced (by simp)
  have hon : NamesTables schema (Lexeme.spaced [[.keyword .on], clause.joined.lexemes,
      [.symbol .eq], clause.owner.lexemes]) := .spaced (by simp)
  exact (hinner.spaced_append
    (namesTables_spaced_reference .join clause.table clause.joined.row)).spaced_append hon

namespace Query

/-- The subqueries in the condition of a query are over tables of its schema. -/
def WithinSchema (query : Query) : Prop :=
  ∀ f ∈ query.condition, ∀ p ∈ Formula.atoms f, p.WithinSchema query.schema

variable {query : Query}

theorem namesTables_sourceLexemes (hquery : query.WithinSchema) :
    NamesTables query.schema (Lexeme.spaced query.sourceLexemes) := by
  have htable : NamesTables query.schema (Lexeme.spaced
      [[.keyword .from], tableLexemes query.schema query.table, [.row .root]]) :=
    namesTables_spaced_reference .from query.table .root
  have hjoins : NamesTables query.schema
      (Lexeme.spaced (query.joins.flatMap (JoinClause.lexemes query.schema))) := by
    rw [Lexeme.spaced, List.flatMap_assoc]
    exact .flatMap fun clause _ => namesTables_joinClause query.schema clause
  refine (htable.spaced_append hjoins).spaced_append ?_
  cases hcondition : query.condition with
  | none => exact namesTables_nil
  | some f =>
    refine .spaced ?_
    simpa using namesTables_searchCondition f (hquery f hcondition)

theorem namesTables_orderingLexemes (query : Query) (schema : Option String) :
    NamesTables schema (Lexeme.spaced query.orderingLexemes) := by
  unfold orderingLexemes
  refine .spaced_append ?_ ?_
  · split
    · exact namesTables_nil
    · have hkeys : NamesTables schema (orderLexemes query.sorting) := by
        refine .intercalate (by simp) ?_
        intro g hg
        obtain ⟨key, -, rfl⟩ := List.mem_map.1 hg
        cases hdirection : key.direction <;>
          simp [sortKeyLexemes, ColumnName.lexemes, directionKeyword, hdirection]
      exact .spaced (by simpa using hkeys)
  · split
    · exact namesTables_nil
    · exact .spaced (by simp)

/-- **Whole queries** name tables of their schema only. -/
theorem namesTables_lexemes (hquery : query.WithinSchema) :
    NamesTables query.schema query.lexemes := by
  have hbody : ∀ groups : List (List Lexeme), (∀ g ∈ groups, NamesTables query.schema g) →
      NamesTables query.schema
        (Lexeme.words (groups ++ query.sourceLexemes ++ query.orderingLexemes)) := by
    intro groups hgroups
    exact namesTables_words (((NamesTables.spaced hgroups).spaced_append
      (namesTables_sourceLexemes hquery)).spaced_append
        (query.namesTables_orderingLexemes query.schema))
  unfold lexemes
  split
  · next distinct _ =>
    refine hbody _ ?_
    cases distinct <;> simp [rootRow]
  · refine hbody _ ?_
    simp [Lexeme.parens]
  · next column _ =>
    have hcount : NamesTables query.schema (Lexeme.parens
        (Lexeme.words [[.keyword .distinct], ColumnName.lexemes ⟨.root, column⟩])) :=
      namesTables_parens (namesTables_words (.spaced (by simp)))
    refine hbody _ ?_
    simpa using hcount
  · have hinner : NamesTables query.schema (Lexeme.parens (Lexeme.words
        ([[.keyword .select], [.one]] ++ query.sourceLexemes ++ query.orderingLexemes))) :=
      namesTables_parens (hbody _ (by simp))
    exact namesTables_words (.spaced (by simpa using hinner))

end Query

end Sql

end RecordQuery
