import RecordQuery.Condition
import RecordQuery.Proofs.Logic.Formula

/-!
# Junctions of conditions

A junction is evaluated term by term, and the search through its terms may end before the last
of them.  What comes of it depends on nothing but which truths occur among the terms, and it
does not matter how the terms are spread over junctions within junctions.

## Main Statements

* `Connective.join_eq_ite` — the truth of a junction, by the truths that occur among its terms
* `Connective.join_congr` — neither the order of the terms nor their number counts
* `Condition.truth_junction` — junctions and combinations of conditions

## Design Notes

The search remembers an unknown term and goes on, since a later term may still
settle the junction.  So `unknown` is the outcome only if no term settles it,
wherever the unknown term stands.
-/

namespace RecordQuery

namespace Connective

/-- **The truth of a junction**, by the truths that occur among its terms: the one that settles
it if it occurs, else unknown if that occurs, and else that of a junction without terms. -/
theorem join_eq_ite (c : Connective) (ts : List Truth) :
    c.join ts = if .ofBool (!c.identity) ∈ ts then .ofBool !c.identity
      else if .unknown ∈ ts then .unknown else .ofBool c.identity := by
  split
  · next hsettled => exact c.join_eq_settled_iff_mem.2 hsettled
  · next hsettled =>
    split
    · next hunknown =>
      rcases c.identity_or_unknown_or_settled (c.join ts) with h | h | h
      · have hidentity : Truth.unknown = .ofBool c.identity :=
          c.join_eq_identity_iff_forall.1 h _ hunknown
        cases c <;> contradiction
      · exact h
      · exact absurd (c.join_eq_settled_iff_mem.1 h) hsettled
    · next hunknown =>
      refine c.join_eq_identity_iff_forall.2 fun t ht => ?_
      rcases c.identity_or_unknown_or_settled t with rfl | rfl | rfl
      · rfl
      · exact absurd ht hunknown
      · exact absurd ht hsettled

/-- **Only the truths that occur count**, in whatever order and however often. -/
theorem join_congr (c : Connective) {ss ts : List Truth} (h : ∀ t, t ∈ ss ↔ t ∈ ts) :
    c.join ss = c.join ts := by
  simp only [join_eq_ite, h]

theorem join_conj_pair (s t : Truth) : conj.join [s, t] = s.both t := by
  cases s <;> cases t <;> rfl

theorem join_disj_pair (s t : Truth) : disj.join [s, t] = s.either t := by
  cases s <;> cases t <;> rfl

end Connective

namespace Condition

/-- A junction of conditions has the truth that its terms have together. -/
theorem truth_junction_eq_join (c : Connective) (ts : List Condition) (binding : Binding) :
    truth (.junction c ts) binding = c.join (ts.map (truth · binding)) :=
  Formula.eval_junction _ c ts

/-- **Junctions are evaluated as Kleene's connectives.**  One term that is false makes a
conjunction false and otherwise one unknown term leaves it open; for a disjunction true takes
the place of false.  The order of the terms and repeated ones make no difference.  To combine
two conditions, of whatever form, is to connect their truths, although the terms of a junction
of the same connective are spliced in and those of the other one are not. -/
theorem truth_junction (binding : Binding) :
    (∀ ts : List Condition, truth (.junction .conj ts) binding
      = if ∃ t ∈ ts, truth t binding = .no then .no
        else if ∃ t ∈ ts, truth t binding = .unknown then .unknown else .yes) ∧
    (∀ ts : List Condition, truth (.junction .disj ts) binding
      = if ∃ t ∈ ts, truth t binding = .yes then .yes
        else if ∃ t ∈ ts, truth t binding = .unknown then .unknown else .no) ∧
    (∀ (c : Connective) (ts us : List Condition), (∀ t, t ∈ ts ↔ t ∈ us) →
      truth (.junction c ts) binding = truth (.junction c us) binding) ∧
    (∀ x y : Condition,
      truth (.combine .conj x y) binding = (x.truth binding).both (y.truth binding)) ∧
    ∀ x y : Condition,
      truth (.combine .disj x y) binding = (x.truth binding).either (y.truth binding) := by
  refine ⟨fun ts => ?_, fun ts => ?_, fun c ts us hterms => ?_, fun x y => ?_, fun x y => ?_⟩
  · rw [truth_junction_eq_join, Connective.join_eq_ite]
    simp only [List.mem_map]
    rfl
  · rw [truth_junction_eq_join, Connective.join_eq_ite]
    simp only [List.mem_map]
    rfl
  · rw [truth_junction_eq_join, truth_junction_eq_join]
    refine c.join_congr fun t => ?_
    simp only [List.mem_map, hterms]
  · rw [← Connective.join_conj_pair]
    exact Formula.eval_combine _ _ x y
  · rw [← Connective.join_disj_pair]
    exact Formula.eval_combine _ _ x y

/-- An unknown term does not keep a false one from settling a conjunction, whichever
comes first.  A conjunction of two junctions takes over the terms of one of them and
has the other as a term. -/
theorem truth_junction_rated :
    let ended : Condition := .atom (.column ⟨.root, [], "ended"⟩ (.isBool true))
    let rated : Condition := .atom (.column ⟨.root, [], "stars"⟩ (.compare .ge (.int 4)))
    let binding : Binding := ⟨.object [("stars", .number (.integer 3))], []⟩
    (∀ t, t ∈ [ended, rated] ↔ t ∈ [rated, ended, rated]) ∧
      ended.truth binding = .unknown ∧ rated.truth binding = .no ∧
      truth (.junction .conj [ended, rated]) binding = .no ∧
      truth (.junction .conj [rated, ended, rated]) binding = .no ∧
      Formula.combine .conj (.junction .conj [ended]) (.junction .disj [rated, ended])
        = .junction .conj [ended, .junction .disj [rated, ended]] ∧
      truth (.combine .conj (.junction .conj [ended]) (.junction .disj [rated, ended])) binding
        = .unknown := by
  intro ended rated binding
  have hterms : ∀ t, t ∈ [ended, rated] ↔ t ∈ [rated, ended, rated] := by
    intro t
    simp only [List.mem_cons, List.not_mem_nil, or_false]
    exact ⟨.inr, fun h => h.elim .inr id⟩
  obtain ⟨hconj, -, hsame, hcombine, -⟩ := truth_junction binding
  have hno : truth (.junction .conj [ended, rated]) binding = .no := by
    rw [hconj]
    decide
  refine ⟨hterms, by decide, by decide, hno, ?_, rfl, ?_⟩
  · rw [← hsame .conj _ _ hterms]
    exact hno
  · rw [hcombine]
    decide

end Condition

end RecordQuery
