import RecordQuery.Logic.Formula

/-!
# Replacing atoms

How the operations on formulas go together with replacing the atoms.

## Main Statements

* `Connective.join_eq_identity_iff_forall`, `Connective.join_eq_settled_iff_mem` — when a
  junction is definite
* `Formula.eval_map`, `Formula.eval_congr` — only the truth of the atoms counts
* `Formula.eval_combine` — a combination is as true as the connective of the two truths
* `Formula.map_combine`, `Formula.atoms_map` — replacing atoms keeps combinations
-/

namespace RecordQuery

namespace Connective

variable {s t : Truth} {ts : List Truth}

/-- Truths are joined to that of a junction without terms only if all of them are that truth. -/
theorem join_eq_identity_iff_forall (c : Connective) :
    c.join ts = .ofBool c.identity ↔ ∀ t ∈ ts, t = .ofBool c.identity := by
  cases c with
  | conj => exact Truth.all_eq_yes_iff
  | disj => exact Truth.any_eq_no_iff

/-- The other definite truth settles a connective. -/
theorem join_eq_settled_iff_mem (c : Connective) :
    c.join ts = .ofBool (!c.identity) ↔ .ofBool (!c.identity) ∈ ts := by
  cases c with
  | conj => exact Truth.all_eq_no_iff
  | disj => exact Truth.any_eq_yes_iff

theorem join_eq_identity_iff (c : Connective) :
    c.join [s, t] = .ofBool c.identity ↔ s = .ofBool c.identity ∧ t = .ofBool c.identity := by
  rw [join_eq_identity_iff_forall, List.forall_mem_cons, List.forall_mem_singleton]

theorem join_eq_settled_iff (c : Connective) :
    c.join [s, t] = .ofBool !c.identity
      ↔ s = .ofBool !c.identity ∨ t = .ofBool !c.identity := by
  rw [join_eq_settled_iff_mem, List.mem_cons, List.mem_singleton, @eq_comm _ s, @eq_comm _ t]

end Connective

namespace Formula

universe u v w

variable {α : Type u} {β : Type v} {γ : Type w}

@[simp] theorem map_atom (g : α → β) (a : α) : (atom a).map g = atom (g a) := rfl

@[simp] theorem map_not (g : α → β) (f : Formula α) : (not f).map g = not (f.map g) := rfl

@[simp] theorem map_junction (g : α → β) (c : Connective) (ts : List (Formula α)) :
    (junction c ts).map g = junction c (ts.map (map g)) := by
  rw [map, mapEach_eq_map]

@[simp] theorem atoms_atom (a : α) : (atom a).atoms = [a] := rfl

@[simp] theorem atoms_not (f : Formula α) : (not f).atoms = f.atoms := rfl

@[simp] theorem atoms_junction (c : Connective) (ts : List (Formula α)) :
    (junction c ts).atoms = ts.flatMap atoms := by
  rw [atoms, atomsEach_eq_flatMap]

theorem atoms_map (g : α → β) (f : Formula α) : (f.map g).atoms = f.atoms.map g := by
  induction f using induct with
  | atom a => rfl
  | not f ih => exact ih
  | junction c ts ih =>
    rw [map_junction, atoms_junction, atoms_junction, List.flatMap_map, List.map_flatMap]
    exact congrArg List.flatten (List.map_congr_left ih)

theorem eval_map (truth : β → Truth) (g : α → β) (f : Formula α) :
    (f.map g).eval truth = f.eval fun a => truth (g a) := by
  induction f using induct with
  | atom a => rfl
  | not f ih => exact congrArg Truth.negate ih
  | junction c ts ih =>
    rw [map_junction, eval_junction, eval_junction, List.map_map]
    exact congrArg c.join (List.map_congr_left ih)

/-- Only the truth of the atoms that occur counts. -/
theorem eval_congr {truth truth' : α → Truth} {f : Formula α}
    (h : ∀ a ∈ f.atoms, truth a = truth' a) : f.eval truth = f.eval truth' := by
  induction f using induct with
  | atom a => exact h a (List.mem_singleton_self a)
  | not f ih => exact congrArg Truth.negate (ih h)
  | junction c ts ih =>
    rw [eval_junction, eval_junction]
    refine congrArg c.join (List.map_congr_left fun t ht => ih t ht fun a ha => h a ?_)
    rw [atoms_junction]
    exact List.mem_flatMap.2 ⟨t, ht, ha⟩

theorem terms_map (g : α → β) (c : Connective) (f : Formula α) :
    (f.map g).terms c = (f.terms c).map (map g) := by
  cases f with
  | atom a => rfl
  | not f => rfl
  | junction c' ts =>
    rw [map_junction, terms, terms]
    split
    · rfl
    · rw [List.map_singleton, map_junction]

theorem map_combine (g : α → β) (c : Connective) (x y : Formula α) :
    (combine c x y).map g = combine c (x.map g) (y.map g) := by
  rw [combine, combine, map_junction, List.map_append, terms_map, terms_map]

theorem atoms_combine (c : Connective) (x y : Formula α) :
    (combine c x y).atoms = x.atoms ++ y.atoms := by
  have hterms : ∀ f : Formula α, (f.terms c).flatMap atoms = f.atoms := by
    intro f
    cases f with
    | atom a => rfl
    | not f => exact List.append_nil _
    | junction c' ts =>
      rw [terms]
      split
      · rw [atoms_junction]
      · simp
  rw [combine, atoms_junction, List.flatMap_append, hterms, hterms]

theorem join_append (c : Connective) (ss ts : List Truth) :
    c.join (ss ++ ts) = c.join [c.join ss, c.join ts] := by
  induction ss with
  | nil => cases c <;> cases h : Connective.join _ ts <;> simp_all [Connective.join] <;> rfl
  | cons s ss ih =>
    cases c <;> simp only [Connective.join, List.cons_append, Truth.all, Truth.any] at ih ⊢ <;>
      rw [ih]
    · cases s <;> cases Truth.all ss <;> cases Truth.all ts <;> rfl
    · cases s <;> cases Truth.any ss <;> cases Truth.any ts <;> rfl

/-- A combination is as true as the connective of the two truths. -/
theorem eval_combine (truth : α → Truth) (c : Connective) (x y : Formula α) :
    (combine c x y).eval truth = c.join [x.eval truth, y.eval truth] := by
  rw [combine, eval_junction, List.map_append, join_append, join_map_eval_terms,
    join_map_eval_terms]

end Formula

end RecordQuery
