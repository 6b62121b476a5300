import RecordQuery.Proofs.Logic.Formula

/-!
# Replacing atoms by formulas

What happens to a formula when its atoms become formulas themselves.  A part that says more than
the one it stands for makes the whole say more, never something else: a definite truth does not
depend on what is unknown.

## Main Definitions

* `Truth.RefinedBy` — a definite truth is the other one
* `Formula.bind` — replaces each atom by a formula

## Main Statements

* `Formula.refinedBy_eval` — the definite truth of a formula survives when its atoms are refined
* `Formula.eval_bind`, `Formula.atoms_bind` — truth and atoms come from
  those of the replacements
-/

namespace RecordQuery

universe u v

/-! ## Refinement -/

/-- Whether one truth is the other wherever it is definite. -/
def Truth.RefinedBy (s t : Truth) : Prop := ∀ b, s = ofBool b → t = ofBool b

namespace Truth.RefinedBy

variable {s t : Truth}

protected theorem refl (t : Truth) : t.RefinedBy t := fun _ h => h

theorem unknown (t : Truth) : Truth.unknown.RefinedBy t := by
  intro b h
  cases b <;> contradiction

theorem negate (h : s.RefinedBy t) : s.negate.RefinedBy t.negate := by
  intro b hs
  have hs' : s = ofBool !b := by rw [← negate_ofBool, ← hs, negate_negate]
  rw [h _ hs', negate_ofBool, Bool.not_not]

/-- A junction is definite for a reason, and refinement keeps each of the reasons. -/
theorem join_map {α : Type u} {truth truth' : α → Truth} {xs : List α} (c : Connective)
    (h : ∀ x ∈ xs, (truth x).RefinedBy (truth' x)) :
    (c.join (xs.map truth)).RefinedBy (c.join (xs.map truth')) := by
  have each : ∀ b, (∀ t ∈ xs.map truth, t = ofBool b) → ∀ t ∈ xs.map truth', t = ofBool b := by
    intro b hall
    rw [List.forall_mem_map] at hall ⊢
    exact fun x hx => h x hx b (hall x hx)
  have some : ∀ b, ofBool b ∈ xs.map truth → ofBool b ∈ xs.map truth' := by
    intro b hmem
    obtain ⟨x, hx, htruth⟩ := List.mem_map.1 hmem
    exact List.mem_map.2 ⟨x, hx, h x hx b htruth⟩
  intro b hs
  cases c with
  | conj =>
    cases b with
    | true => exact all_eq_yes_iff.2 (each true (all_eq_yes_iff.1 hs))
    | false => exact all_eq_no_iff.2 (some false (all_eq_no_iff.1 hs))
  | disj =>
    cases b with
    | true => exact any_eq_yes_iff.2 (some true (any_eq_yes_iff.1 hs))
    | false => exact any_eq_no_iff.2 (each false (any_eq_no_iff.1 hs))

end Truth.RefinedBy

namespace Formula

variable {α : Type u} {β : Type v}

/-- **Atoms that say more make the formula say more**, and nothing that it denied before. -/
theorem refinedBy_eval {truth truth' : α → Truth} {f : Formula α}
    (h : ∀ a ∈ f.atoms, (truth a).RefinedBy (truth' a)) :
    (f.eval truth).RefinedBy (f.eval truth') := by
  induction f using induct with
  | atom a => exact h a (List.mem_singleton_self a)
  | not f ih => exact (ih h).negate
  | junction c ts ih =>
    rw [eval_junction, eval_junction]
    refine .join_map c fun t ht => ih t ht fun a ha => h a ?_
    rw [atoms_junction]
    exact List.mem_flatMap.2 ⟨t, ht, ha⟩

/-! ## Replacement -/

mutual

/-- Replaces every atom by a formula. -/
def bind (g : α → Formula β) : Formula α → Formula β
  | atom a => g a
  | junction c ts => junction c (bindEach g ts)
  | not f => not (bind g f)

/-- Replaces every atom of every formula of a list by a formula. -/
def bindEach (g : α → Formula β) : List (Formula α) → List (Formula β)
  | [] => []
  | f :: fs => bind g f :: bindEach g fs

end

@[simp] theorem bindEach_eq_map (g : α → Formula β) (fs : List (Formula α)) :
    bindEach g fs = fs.map (bind g) := by
  induction fs with
  | nil => rfl
  | cons f fs ih => simp [bindEach, ih]

@[simp] theorem bind_atom (g : α → Formula β) (a : α) : (atom a).bind g = g a := rfl

@[simp] theorem bind_not (g : α → Formula β) (f : Formula α) :
    (not f).bind g = not (f.bind g) := rfl

@[simp] theorem bind_junction (g : α → Formula β) (c : Connective) (ts : List (Formula α)) :
    (junction c ts).bind g = junction c (ts.map (bind g)) := by
  rw [bind, bindEach_eq_map]

theorem eval_bind (truth : β → Truth) (g : α → Formula β) (f : Formula α) :
    (f.bind g).eval truth = f.eval fun a => (g a).eval truth := by
  induction f using induct with
  | atom a => rfl
  | not f ih => exact congrArg Truth.negate ih
  | junction c ts ih =>
    rw [bind_junction, eval_junction, eval_junction, List.map_map]
    exact congrArg c.join (List.map_congr_left ih)

theorem atoms_bind (g : α → Formula β) (f : Formula α) :
    (f.bind g).atoms = f.atoms.flatMap fun a => (g a).atoms := by
  induction f using induct with
  | atom a => simp
  | not f ih => exact ih
  | junction c ts ih =>
    rw [bind_junction, atoms_junction, atoms_junction, List.flatMap_map, List.flatMap_assoc]
    exact congrArg List.flatten (List.map_congr_left ih)

end Formula

end RecordQuery
