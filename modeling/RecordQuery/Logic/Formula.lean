import RecordQuery.Logic.Truth

/-!
# Formulas

Boolean combinations of atoms.  A junction joins any number of terms, so that a long chain of
one connective is flat.

## Main Definitions

* `Formula` — atoms, junctions and complements
* `Formula.eval` — the truth of a formula, given the truth of its atoms
* `Formula.combine` — joins two formulas and splices in junctions of the same connective
* `Formula.atoms` — the atoms from left to right
* `Formula.mapM` — replaces the atoms one after the other, by an action

## Design Notes

The recursion through the list of terms is a mutual one, `atoms` with `atomsEach` and so on; the
lemmas `atomsEach_eq_flatMap` and its like turn the list part into an operation on lists, and
nothing else unfolds it.

The terms of a junction are evaluated from left to right, and only until one of them settles the
junction.  `eval_junction` says what comes of it, and nothing else unfolds the search.
-/

namespace RecordQuery

universe u v w

/-- The two ways to join terms. -/
inductive Connective
  | conj
  | disj
  deriving DecidableEq, Repr

namespace Connective

/-- Joins the truth of the terms. -/
def join : Connective → List Truth → Truth
  | conj, ts => Truth.all ts
  | disj, ts => Truth.any ts

/-- The truth of a junction without terms. -/
def identity : Connective → Bool
  | conj => true
  | disj => false

/-- The other connective. -/
def dual : Connective → Connective
  | conj => disj
  | disj => conj

/-- A truth is the one of a junction without terms, unknown, or the one
that settles a junction. -/
theorem identity_or_unknown_or_settled (c : Connective) (t : Truth) :
    t = .ofBool c.identity ∨ t = .unknown ∨ t = .ofBool !c.identity := by
  cases c <;> cases t <;> decide

theorem join_cons (c : Connective) (t : Truth) (ts : List Truth) :
    c.join (t :: ts) = c.join [t, c.join ts] := by
  cases c with
  | conj => cases t <;> cases h : Truth.all ts <;> simp only [join, Truth.all, h] <;> rfl
  | disj => cases t <;> cases h : Truth.any ts <;> simp only [join, Truth.any, h] <;> rfl

theorem join_identity_cons (c : Connective) (ts : List Truth) :
    c.join (.ofBool c.identity :: ts) = c.join ts := by
  cases c with
  | conj => exact Truth.yes_both _
  | disj => exact Truth.no_either _

theorem join_settled_cons (c : Connective) (ts : List Truth) :
    c.join (.ofBool (!c.identity) :: ts) = .ofBool !c.identity := by
  cases c <;> rfl

end Connective

/-- A Boolean combination of atoms. -/
inductive Formula (α : Type u)
  | atom (a : α)
  | junction (c : Connective) (terms : List (Formula α))
  | not (f : Formula α)

namespace Formula

variable {α : Type u} {β : Type v}

/-- Never true. -/
def never : Formula α := junction .disj []

/-- The terms that a formula contributes to a junction of `c`: those of a junction of the same
connective, and otherwise the formula itself. -/
def terms (c : Connective) : Formula α → List (Formula α)
  | junction c' ts => if c' = c then ts else [junction c' ts]
  | f => [f]

/-- Joins two formulas; a side that is a junction of the same connective is spliced in. -/
def combine (c : Connective) (x y : Formula α) : Formula α :=
  junction c (x.terms c ++ y.terms c)

mutual

/-- The truth of a formula. -/
def eval (truth : α → Truth) : Formula α → Truth
  | atom a => truth a
  | junction c ts => evalFrom truth c (.ofBool c.identity) ts
  | not f => (eval truth f).negate

/-- The truth of a junction of which `found` is known from the terms so far.  A term
that settles the junction ends the search at once; an unknown one is remembered
while the search goes on. -/
def evalFrom (truth : α → Truth) (c : Connective) (found : Truth) : List (Formula α) → Truth
  | [] => found
  | f :: fs =>
    match c, eval truth f with
    | .conj, .no => .no
    | .disj, .yes => .yes
    | _, .unknown => evalFrom truth c .unknown fs
    | _, _ => evalFrom truth c found fs

end

mutual

/-- The atoms from left to right. -/
def atoms : Formula α → List α
  | atom a => [a]
  | junction _ ts => atomsEach ts
  | not f => atoms f

/-- The atoms of a list of formulas from left to right. -/
def atomsEach : List (Formula α) → List α
  | [] => []
  | f :: fs => atoms f ++ atomsEach fs

end

mutual

/-- Replaces every atom. -/
def map (g : α → β) : Formula α → Formula β
  | atom a => atom (g a)
  | junction c ts => junction c (mapEach g ts)
  | not f => not (map g f)

/-- Replaces every atom of every formula of a list. -/
def mapEach (g : α → β) : List (Formula α) → List (Formula β)
  | [] => []
  | f :: fs => map g f :: mapEach g fs

end

section traversal

variable {m : Type v → Type w} [Monad m]

mutual

/-- Replaces every atom by what an action makes of it, from left to right. -/
def mapM (g : α → m β) : Formula α → m (Formula β)
  | atom a => return atom (← g a)
  | junction c ts => return junction c (← mapMEach g ts)
  | not f => return not (← mapM g f)

/-- Replaces every atom of every formula of a list by what an action makes of it, from left to
right. -/
def mapMEach (g : α → m β) : List (Formula α) → m (List (Formula β))
  | [] => return []
  | f :: fs => return (← mapM g f) :: (← mapMEach g fs)

end

end traversal

@[simp] theorem atomsEach_eq_flatMap (fs : List (Formula α)) :
    atomsEach fs = fs.flatMap atoms := by
  induction fs with
  | nil => rfl
  | cons f fs ih => simp [atomsEach, ih]

@[simp] theorem mapEach_eq_map (g : α → β) (fs : List (Formula α)) :
    mapEach g fs = fs.map (map g) := by
  induction fs with
  | nil => rfl
  | cons f fs ih => simp [mapEach, ih]

@[simp] theorem eval_atom (truth : α → Truth) (a : α) : (atom a).eval truth = truth a := rfl

@[simp] theorem eval_not (truth : α → Truth) (f : Formula α) :
    (not f).eval truth = (f.eval truth).negate := rfl

section search

variable {truth : α → Truth} {c : Connective} {found : Truth} {f : Formula α}
  {fs : List (Formula α)}

theorem evalFrom_cons_identity (hf : f.eval truth = .ofBool c.identity) :
    evalFrom truth c found (f :: fs) = evalFrom truth c found fs := by
  cases c <;> rw [Connective.identity, Truth.ofBool] at hf <;> simp only [evalFrom, hf]

theorem evalFrom_cons_unknown (hf : f.eval truth = .unknown) :
    evalFrom truth c found (f :: fs) = evalFrom truth c .unknown fs := by
  cases c <;> simp only [evalFrom, hf]

/-- What comes after a term that settles the junction is not looked at. -/
theorem evalFrom_cons_settled (hf : f.eval truth = .ofBool !c.identity) :
    evalFrom truth c found (f :: fs) = .ofBool !c.identity := by
  cases c <;> rw [Connective.identity, Bool.not, Truth.ofBool] at hf <;>
    simp only [evalFrom, hf] <;> rfl

/-- The search through the terms joins their truths to what is known before.  The induction is
on the terms; what is known never settles the junction, or the search would have ended. -/
theorem evalFrom_eq_join (hfound : found ≠ .ofBool !c.identity) :
    evalFrom truth c found fs = c.join (found :: fs.map (eval truth)) := by
  induction fs generalizing found with
  | nil => cases c <;> cases found <;> rfl
  | cons f fs ih =>
    rw [List.map_cons, c.join_cons found]
    rcases c.identity_or_unknown_or_settled (f.eval truth) with hf | hf | hf
    · rw [evalFrom_cons_identity hf, ih hfound, hf, c.join_identity_cons, ← c.join_cons]
    · rw [evalFrom_cons_unknown hf, ih (by cases c <;> nofun), hf, c.join_cons .unknown]
      generalize c.join (fs.map (eval truth)) = t
      rcases c.identity_or_unknown_or_settled found with rfl | rfl | rfl
      · cases c <;> cases t <;> rfl
      · cases c <;> cases t <;> rfl
      · exact absurd rfl hfound
    · rw [evalFrom_cons_settled hf, hf, c.join_settled_cons]
      cases c <;> cases found <;> rfl

end search

@[simp] theorem eval_junction (truth : α → Truth) (c : Connective) (ts : List (Formula α)) :
    (junction c ts).eval truth = c.join (ts.map (eval truth)) := by
  rw [eval, evalFrom_eq_join (by cases c <;> nofun), c.join_identity_cons]

/-- Splicing loses no term: a formula has the truth of the junction of its terms. -/
theorem join_map_eval_terms (truth : α → Truth) (c : Connective) (f : Formula α) :
    c.join ((f.terms c).map (eval truth)) = f.eval truth := by
  have single : ∀ t : Truth, c.join [t] = t := by
    intro t
    cases c <;> cases t <;> rfl
  cases f with
  | atom a => simp [terms, single]
  | not f => simp [terms, single]
  | junction c' ts =>
    by_cases h : c' = c
    · simp [terms, h]
    · simp [terms, h, single]

/-- Induction on a formula, with the hypothesis for each term of a junction. -/
theorem induct {motive : Formula α → Prop} (atom : ∀ a, motive (.atom a))
    (junction : ∀ c ts, (∀ t ∈ ts, motive t) → motive (.junction c ts))
    (not : ∀ f, motive f → motive (.not f)) (f : Formula α) : motive f :=
  Formula.rec atom junction not (by simp)
    (fun t ts ht hts => by simpa using ⟨ht, hts⟩) f

end Formula

end RecordQuery
