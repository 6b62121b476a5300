import RecordQuery.Proofs.Logic.Formula
import RecordQuery.Proofs.Sql.Separation

/-!
# Gathering

What is gathered from a text lexeme by lexeme, such as its quoted names or its placeholders, is
gathered part by part: the keywords and symbols around the parts have nothing of it.

## Main Definitions

* `Sql.Skips` — nothing is gathered from blanks, keywords and symbols

## Main Statements

* `Sql.Skips.intercalate` — groups that are joined by a separator
* `Sql.Skips.searchCondition` — the tests of a search condition
-/

namespace RecordQuery

namespace Sql

/-- Nothing is gathered from blanks, keywords and symbols. -/
structure Skips {β : Type} (gather : Lexeme → List β) : Prop where
  blank : gather .blank = []
  keyword (k : Keyword) : gather (.keyword k) = []
  symbol (s : Symbol) : gather (.symbol s) = []

namespace Skips

variable {β : Type} {gather : Lexeme → List β} (h : Skips gather)
include h

omit h in
/-- A separator without anything to gather leaves the groups next to each other. -/
theorem intercalate {sep : List Lexeme} (hsep : sep.flatMap gather = [])
    (groups : List (List Lexeme)) :
    (sep.intercalate groups).flatMap gather = groups.flatMap fun g => g.flatMap gather := by
  rw [map_intercalate (f := List.flatMap gather) List.flatMap_nil
    (fun _ _ => List.flatMap_append), hsep, nil_intercalate, List.flatMap]

theorem words (groups : List (List Lexeme)) :
    (Lexeme.words groups).flatMap gather = groups.flatMap fun g => g.flatMap gather :=
  intercalate (by simp [h.blank]) groups

theorem commas (groups : List (List Lexeme)) :
    (Lexeme.commas groups).flatMap gather = groups.flatMap fun g => g.flatMap gather :=
  intercalate (by simp [h.blank, h.symbol]) groups

theorem parens (ls : List Lexeme) : (Lexeme.parens ls).flatMap gather = ls.flatMap gather := by
  simp [Lexeme.parens, h.symbol]

/-- **From a search condition is gathered what is gathered from its tests.** -/
theorem searchCondition (f : SearchCondition) :
    (SearchCondition.lexemes f).flatMap gather
      = (Formula.atoms f).flatMap fun p => p.lexemes.flatMap gather := by
  induction f using Formula.induct with
  | atom p => simp [SearchCondition.lexemes]
  | not f ih =>
    rw [SearchCondition.lexemes, List.flatMap_cons, List.flatMap_cons, h.keyword, h.blank,
      h.parens, ih]
    rfl
  | junction c ts ih =>
    rw [Formula.atoms_junction]
    cases ts with
    | nil => simp [SearchCondition.lexemes, constantLexeme, h.keyword]
    | cons t ts =>
      have hseparator : [.blank, connectiveLexeme c, .blank].flatMap gather = [] := by
        cases c <;> simp [connectiveLexeme, h.blank, h.keyword]
      rw [SearchCondition.lexemes, intercalate hseparator, SearchCondition.partLexemes_eq_map,
        List.flatMap_map, List.flatMap_assoc]
      refine congrArg List.flatten (List.map_congr_left fun s hs => ?_)
      rw [h.parens, ih s hs]

end Skips

end Sql

end RecordQuery
