import Mathlib.Data.List.Induction
import RecordQuery.Sorting

/-!
# The stable sort

What insertion makes of a list, given an order that fits together on its items.  To tell items
of one value apart they are numbered by their places; then exactly one arrangement of them is
sorted and keeps ties in place, and insertion finds it.

## Main Definitions

* `IsOrderOn` — a comparison that is total and transitive on the items of a list
* `ComesFirst` — which of two numbered items stands first in a stable arrangement
* `IsArrangement` — a stable arrangement of the items of a list

## Main Statements

* `IsOrderOn.lexicographic` — two orders, the second one for ties of the first, are an order
* `pairwise_insertionSort` — insertion leaves numbered items in their stable order
* `exists_isArrangement` — insertion of items is a stable arrangement without the numbers
* `IsArrangement.eq` — there is only one
-/

namespace RecordQuery

variable {α β : Type} {order : α → α → Ordering} {items : List α}

/-! ## Orders on the items of a list -/

/-- A comparison that is total and transitive on the items of a list. -/
structure IsOrderOn (order : α → α → Ordering) (items : List α) : Prop where
  /-- The comparison the other way round is the opposite one. -/
  swap : ∀ x ∈ items, ∀ y ∈ items, order y x = (order x y).swap
  trans : ∀ x ∈ items, ∀ y ∈ items, ∀ z ∈ items,
    (order x y).isLE → (order y z).isLE → (order x z).isLE

namespace IsOrderOn

variable {x y z : α}

theorem mono {fewer : List α} (h : IsOrderOn order items) (hsub : ∀ x ∈ fewer, x ∈ items) :
    IsOrderOn order fewer where
  swap x hx y hy := h.swap x (hsub x hx) y (hsub y hy)
  trans x hx y hy z hz := h.trans x (hsub x hx) y (hsub y hy) z (hsub z hz)

/-- Items may be compared by what is computed of them. -/
theorem comap (f : β → α) {items : List β} (h : IsOrderOn order (items.map f)) :
    IsOrderOn (fun x y => order (f x) (f y)) items where
  swap _ hx _ hy := h.swap _ (List.mem_map_of_mem hx) _ (List.mem_map_of_mem hy)
  trans _ hx _ hy _ hz :=
    h.trans _ (List.mem_map_of_mem hx) _ (List.mem_map_of_mem hy) _ (List.mem_map_of_mem hz)

/-- The opposite of an order is an order. -/
theorem opposite (h : IsOrderOn order items) :
    IsOrderOn (fun x y => (order x y).swap) items where
  swap x hx y hy := congrArg Ordering.swap (h.swap x hx y hy)
  trans x hx y hy z hz hxy hyz := by
    rw [← h.swap x hx y hy] at hxy
    rw [← h.swap y hy z hz] at hyz
    rw [← h.swap x hx z hz]
    exact h.trans z hz y hy x hx hyz hxy

/-- What comes strictly before an item comes strictly before all that the
item does not exceed. -/
theorem lt_of_lt_of_isLE (h : IsOrderOn order items) (hx : x ∈ items) (hy : y ∈ items)
    (hz : z ∈ items) (hxy : order x y = .lt) (hyz : (order y z).isLE) : order x z = .lt := by
  have hyx : order y x = .gt := by rw [h.swap x hx y hy, hxy]; rfl
  -- otherwise the way round over the third item would lead from the second one to the first
  by_contra hxz
  have hzx : (order z x).isLE := by
    rw [h.swap x hx z hz]
    cases hcase : order x z with
    | lt => exact absurd hcase hxz
    | eq => rfl
    | gt => rfl
  have hle : (order y x).isLE := h.trans y hy z hz x hx hyz hzx
  rw [hyx] at hle
  exact Bool.false_ne_true hle

theorem lt_of_isLE_of_lt (h : IsOrderOn order items) (hx : x ∈ items) (hy : y ∈ items)
    (hz : z ∈ items) (hxy : (order x y).isLE) (hyz : order y z = .lt) : order x z = .lt := by
  have hzy : (order z y).swap = .lt := by rw [← h.swap z hz y hy, hyz]
  have hyx : (order y x).swap.isLE := by rw [← h.swap y hy x hx]; exact hxy
  rw [h.swap z hz x hx]
  exact h.opposite.lt_of_lt_of_isLE hz hy hx hzy hyx

theorem isLE_then_iff {o p : Ordering} :
    (o.then p).isLE = true ↔ o = .lt ∨ o = .eq ∧ p.isLE = true := by
  cases o <;> cases p <;> decide

/-- **Two orders, the second one for ties of the first, are an order.** -/
theorem lexicographic {order' : α → α → Ordering} (h : IsOrderOn order items)
    (h' : IsOrderOn order' items) :
    IsOrderOn (fun x y => (order x y).then (order' x y)) items where
  swap x hx y hy := by
    simp only [h.swap x hx y hy, h'.swap x hx y hy]
    cases order x y <;> rfl
  trans x hx y hy z hz hxy hyz := by
    rw [isLE_then_iff] at hxy hyz ⊢
    have isLE_of : ∀ {a b : α},
        order a b = .lt ∨ order a b = .eq ∧ (order' a b).isLE = true → (order a b).isLE := by
      rintro a b (hab | ⟨hab, -⟩) <;> rw [hab] <;> rfl
    rcases hxy with hxy | ⟨hxy, hxy'⟩
    · exact .inl (h.lt_of_lt_of_isLE hx hy hz hxy (isLE_of hyz))
    rcases hyz with hyz | ⟨hyz, hyz'⟩
    · exact .inl (h.lt_of_isLE_of_lt hx hy hz (isLE_of (.inr ⟨hxy, hxy'⟩)) hyz)
    have hrest : (order' x z).isLE := h'.trans x hx y hy z hz hxy' hyz'
    have hxz : (order x z).isLE :=
      h.trans x hx y hy z hz (by rw [hxy]; rfl) (by rw [hyz]; rfl)
    cases hcase : order x z with
    | lt => exact .inl rfl
    | eq => exact .inr ⟨rfl, hrest⟩
    | gt => rw [hcase] at hxz; exact absurd hxz Bool.false_ne_true

end IsOrderOn

/-! ## Insertion -/

theorem perm_insertFromEnd (order : α → α → Ordering) (x : α) (ys : List α) :
    (insertFromEnd order x ys).Perm (x :: ys) := by
  induction ys with
  | nil => rfl
  | cons y ys ih =>
    rw [insertFromEnd]
    split
    · exact (ih.cons y).trans (List.Perm.swap x y ys)
    · rfl

theorem map_insertFromEnd (f : β → α) (x : β) (ys : List β) :
    (insertFromEnd (fun x y => order (f x) (f y)) x ys).map f
      = insertFromEnd order (f x) (ys.map f) := by
  induction ys with
  | nil => rfl
  | cons y ys ih =>
    rw [insertFromEnd, List.map_cons, insertFromEnd]
    split
    · rw [List.map_cons, ih]
    · rfl

theorem insertionSort_concat (order : α → α → Ordering) (items : List α) (x : α) :
    insertionSort order (items ++ [x])
      = (insertFromEnd order x (insertionSort order items).reverse).reverse := by
  rw [insertionSort, List.foldl_append, List.foldl_cons, List.foldl_nil, insertionSort,
    List.reverse_reverse]

theorem perm_insertionSort (order : α → α → Ordering) (items : List α) :
    (insertionSort order items).Perm items := by
  induction items using List.reverseRecOn with
  | nil => rfl
  | append_singleton items x ih =>
    have hinsert :
        (insertionSort order (items ++ [x])).Perm (x :: insertionSort order items) := by
      rw [insertionSort_concat]
      exact (List.reverse_perm _).trans
        ((perm_insertFromEnd order x _).trans ((List.reverse_perm _).cons x))
    exact hinsert.trans ((ih.cons x).trans (List.perm_append_singleton x items).symm)

theorem map_insertionSort (f : β → α) (items : List β) :
    (insertionSort (fun x y => order (f x) (f y)) items).map f
      = insertionSort order (items.map f) := by
  induction items using List.reverseRecOn with
  | nil => rfl
  | append_singleton items x ih =>
    rw [insertionSort_concat, List.map_reverse, map_insertFromEnd, List.map_reverse, ih,
      List.map_append, List.map_singleton, insertionSort_concat]

/-! ## Stable arrangements -/

/-- Which of two numbered items stands first: the one that comes before the other, and of two
that are equal the one with the smaller number. -/
def ComesFirst (order : α → α → Ordering) (x y : α × Nat) : Prop :=
  order x.1 y.1 = .lt ∨ order x.1 y.1 = .eq ∧ x.2 < y.2

/-- The items of a list, numbered by their places, in a sorted order that keeps ties in
place. -/
structure IsArrangement (order : α → α → Ordering) (items : List α)
    (arranged : List (α × Nat)) : Prop where
  perm : arranged.Perm items.zipIdx
  sorted : arranged.Pairwise (ComesFirst order)

theorem ComesFirst.isLE {x y : α × Nat} (h : ComesFirst order x y) : (order x.1 y.1).isLE := by
  rcases h with h | ⟨h, -⟩ <;> rw [h] <;> rfl

theorem ComesFirst.of_isLE {x y : α × Nat} (h : (order x.1 y.1).isLE) (hnumber : x.2 < y.2) :
    ComesFirst order x y := by
  cases hcase : order x.1 y.1 with
  | lt => exact .inl hcase
  | eq => exact .inr ⟨hcase, hnumber⟩
  | gt => rw [hcase] at h; exact absurd h Bool.false_ne_true

/-- Of two items only one can stand first. -/
theorem ComesFirst.asymm (h : IsOrderOn order items) {x y : α × Nat} (hx : x.1 ∈ items)
    (hy : y.1 ∈ items) (hxy : ComesFirst order x y) : ¬ ComesFirst order y x := by
  rintro (hyx | ⟨hyx, hnumber⟩) <;> rw [h.swap x.1 hx y.1 hy] at hyx <;>
    rcases hxy with hlt | ⟨heq, hless⟩
  · rw [hlt] at hyx; cases hyx
  · rw [heq] at hyx; cases hyx
  · rw [hlt] at hyx; cases hyx
  · omega

/-- A new item with the greatest number is inserted where it belongs. -/
theorem pairwise_insertFromEnd {x : α × Nat} {ys : List (α × Nat)}
    (h : IsOrderOn order ((x :: ys).map Prod.fst)) (hlast : ∀ y ∈ ys, y.2 < x.2)
    (hsorted : ys.Pairwise fun a b => ComesFirst order b a) :
    (insertFromEnd (fun x y => order x.1 y.1) x ys).Pairwise fun a b =>
      ComesFirst order b a := by
  induction ys with
  | nil => exact List.pairwise_singleton _ _
  | cons y ys ih =>
    obtain ⟨hy, hys⟩ := List.pairwise_cons.1 hsorted
    rw [insertFromEnd]
    split
    · rename_i hlt
      -- the new item moves past `y`
      have hrest := ih (h.mono (by simp +contextual)) (fun z hz => hlast z (.tail y hz)) hys
      refine List.pairwise_cons.2 ⟨fun z hz => ?_, hrest⟩
      rcases List.mem_cons.1 ((perm_insertFromEnd _ x ys).mem_iff.1 hz) with rfl | hz
      · exact .inl hlt
      · exact hy z hz
    · rename_i hnot
      -- the new item stays, and all that stands before `y` stands before it too
      have hyx : (order y.1 x.1).isLE := by
        rw [h.swap x.1 (by simp) y.1 (by simp)]
        cases hcase : order x.1 y.1 with
        | lt => exact absurd hcase hnot
        | eq => rfl
        | gt => rfl
      refine List.pairwise_cons.2 ⟨fun z hz => ?_, hsorted⟩
      refine .of_isLE ?_ (hlast z hz)
      rcases List.mem_cons.1 hz with rfl | hz'
      · exact hyx
      · exact h.trans z.1 (List.mem_map_of_mem (.tail x hz)) y.1 (by simp) x.1 (by simp)
          (hy z hz').isLE hyx

/-- **Insertion leaves numbered items sorted, and ties in the order of their numbers.** -/
theorem pairwise_insertionSort {items : List (α × Nat)}
    (h : IsOrderOn order (items.map Prod.fst))
    (hnumbers : items.Pairwise fun a b => a.2 < b.2) :
    (insertionSort (fun x y => order x.1 y.1) items).Pairwise (ComesFirst order) := by
  induction items using List.reverseRecOn with
  | nil => exact List.Pairwise.nil
  | append_singleton items x ih =>
    obtain ⟨hitems, -, hlast⟩ := List.pairwise_append.1 hnumbers
    have hmem : ∀ y, y ∈ (insertionSort (fun x y : α × Nat => order x.1 y.1) items).reverse →
        y ∈ items := fun y hy => (perm_insertionSort _ items).mem_iff.1 (List.mem_reverse.1 hy)
    rw [insertionSort_concat, List.pairwise_reverse]
    refine pairwise_insertFromEnd (h.mono ?_) ?_ ?_
    · intro a ha
      obtain ⟨y, hy, rfl⟩ := List.mem_map.1 ha
      refine List.mem_map_of_mem (List.mem_append.2 ?_)
      rcases List.mem_cons.1 hy with rfl | hy
      · exact .inr (List.mem_singleton_self y)
      · exact .inl (hmem y hy)
    · exact fun y hy => hlast y (hmem y hy) x (List.mem_singleton_self x)
    · rw [List.pairwise_reverse]
      exact ih (h.mono (by simp +contextual)) hitems

/-- The numbers of items by their places increase. -/
theorem pairwise_zipIdx (items : List α) : items.zipIdx.Pairwise fun a b => a.2 < b.2 := by
  rw [← List.pairwise_map (f := Prod.snd) (R := (· < ·)), List.zipIdx_map_snd]
  exact List.pairwise_lt_range'

/-- **The sort of items is their stable arrangement.** -/
theorem exists_isArrangement (h : IsOrderOn order items) :
    ∃ arranged, IsArrangement order items arranged ∧
      insertionSort order items = arranged.map Prod.fst := by
  have hfst : items.zipIdx.map Prod.fst = items := List.zipIdx_map_fst 0 items
  refine ⟨insertionSort (fun x y => order x.1 y.1) items.zipIdx,
    ⟨perm_insertionSort _ _, ?_⟩, ?_⟩
  · exact pairwise_insertionSort (hfst.symm ▸ h) (pairwise_zipIdx items)
  · rw [map_insertionSort, hfst]

/-- **There is only one stable arrangement.** -/
theorem IsArrangement.eq (h : IsOrderOn order items) {arranged other : List (α × Nat)}
    (harranged : IsArrangement order items arranged)
    (hother : IsArrangement order items other) :
    arranged = other := by
  have hmem : ∀ {list : List (α × Nat)} {x}, IsArrangement order items list → x ∈ list →
      x.1 ∈ items := by
    intro list x hlist hx
    rw [← List.zipIdx_map_fst 0 items]
    exact List.mem_map_of_mem (hlist.perm.mem_iff.1 hx)
  refine List.Perm.eq_of_pairwise (fun x y hx hy hxy hyx => ?_) harranged.sorted hother.sorted
    (harranged.perm.trans hother.perm.symm)
  exact absurd hyx (hxy.asymm h (hmem harranged hx) (hmem hother hy))

end RecordQuery
