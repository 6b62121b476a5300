import Mathlib.Data.String.Basic
import Mathlib.Order.Compare

/-!
# The order of texts

Texts are in the order of their first different characters.  Fields of a fixed width that stand
one after the other are in the order of the first field in which they differ.

## Main Statements

* `eq_compare` — an outcome for any two items that fits the strict order is their comparison
* `compare_then_compare` — so is the outcome for two fields that grow with the items
* `compare_ofList` — texts are in the order of their characters
* `compare_append_append`, `compare_cons_same` — fields of one width, and a mark between fields
-/

namespace RecordQuery

/-- A comparison is known by what it says of items in strict order. -/
theorem eq_compare {α : Type} [LinearOrder α] (order : α → α → Ordering)
    (swap : ∀ x y, order y x = (order x y).swap) (self : ∀ x, order x x = .eq)
    (lt : ∀ x y, x < y → order x y = .lt) (x y : α) : order x y = compare x y := by
  obtain h | rfl | h := lt_trichotomy x y
  · rw [lt x y h, compare_lt_iff_lt.2 h]
  · rw [self x, compare_eq_iff_eq.2 rfl]
  · rw [swap y x, lt y x h, compare_gt_iff_gt.2 h]
    rfl

/-- Two fields, the second one for ties of the first, are in the order of the items if they grow
with them. -/
theorem compare_then_compare {α β γ : Type} [LinearOrder α] [LinearOrder β] [LinearOrder γ]
    (f : α → β) (g : α → γ) (h : ∀ x y, x < y → f x < f y ∨ f x = f y ∧ g x < g y) (x y : α) :
    (compare (f x) (f y)).then (compare (g x) (g y)) = compare x y := by
  refine eq_compare (fun x y => (compare (f x) (f y)).then (compare (g x) (g y)))
    (fun x y => ?_) (fun x => ?_) (fun x y hlt => ?_) x y
  · rw [Ordering.swap_then, ← Std.OrientedOrd.eq_swap, ← Std.OrientedOrd.eq_swap]
  · rw [compare_eq_iff_eq.2 rfl, compare_eq_iff_eq.2 rfl]
    rfl
  · rw [Ordering.then_eq_lt, compare_lt_iff_lt, compare_eq_iff_eq, compare_lt_iff_lt]
    exact h x y hlt

theorem compare_cons_cons (x y : Char) (xs ys : List Char) :
    compare (x :: xs) (y :: ys) = (compare x y).then (compare xs ys) := by
  rw [List.compare_eq_compareLex, List.compareLex_cons_cons, ← List.compare_eq_compareLex]

/-- A mark that both sides have in one place makes no difference. -/
theorem compare_cons_same (c : Char) (xs ys : List Char) :
    compare (c :: xs) (c :: ys) = compare xs ys := by
  rw [compare_cons_cons, Std.ReflOrd.compare_self, Ordering.eq_then]

/-- **Fields of one width decide before what follows them.** -/
theorem compare_append_append {xs ys : List Char} (h : xs.length = ys.length)
    (xs' ys' : List Char) :
    compare (xs ++ xs') (ys ++ ys') = (compare xs ys).then (compare xs' ys') := by
  induction xs generalizing ys with
  | nil =>
    obtain rfl : ys = [] := List.eq_nil_of_length_eq_zero h.symm
    rw [Std.ReflOrd.compare_self, Ordering.eq_then, List.nil_append, List.nil_append]
  | cons x xs ih =>
    cases ys with
    | nil => exact absurd h (Nat.succ_ne_zero _)
    | cons y ys =>
      rw [List.cons_append, List.cons_append, compare_cons_cons, compare_cons_cons,
        ih (Nat.succ.inj h), Ordering.then_assoc]

/-- Texts are in the order of their characters. -/
theorem compare_ofList (xs ys : List Char) :
    compare (String.ofList xs) (String.ofList ys) = compare xs ys := by
  have hlists : ∀ {xs ys : List Char}, xs < ys → compare xs ys = .lt := by
    intro xs
    induction xs with
    | nil =>
      rintro (_ | ⟨y, ys⟩) h
      · exact absurd h (List.lt_irrefl [])
      · rfl
    | cons x xs ih =>
      rintro (_ | ⟨y, ys⟩) h
      · exact absurd h (List.not_lt_nil _)
      rw [compare_cons_cons, Ordering.then_eq_lt]
      obtain hxy | ⟨rfl, hrest⟩ := List.cons_lt_cons_iff.1 h
      · exact .inl (compareOfLessAndEq_eq_lt.2 hxy)
      · exact .inr ⟨Std.ReflOrd.compare_self, ih hrest⟩
  have htexts := eq_compare (fun s t : String => compare s.toList t.toList) (fun _ _ =>
    Std.OrientedOrd.eq_swap) (fun _ => Std.ReflOrd.compare_self)
    (fun s t h => hlists (String.lt_iff_toList_lt.1 h)) (.ofList xs) (.ofList ys)
  simpa only [String.toList_ofList] using htexts.symm

end RecordQuery
