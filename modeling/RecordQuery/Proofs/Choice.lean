import Mathlib.Data.List.Induction
import Mathlib.Data.List.Nodup
import RecordQuery.Proofs.Binding

/-!
# Choices of joined rows

What it means to choose a row for each join of a query.  A condition holds on a record if it is
true of some choice.

## Main Definitions

* `OneEach` — a list with one entry for each item of another, in terms of positions
* `enumerate` — all such lists, item by item
* `Join.Leads` — the join leads from a row of its owner to a row
* `Binding.Completes` — the binding has a row for each join, led to from the row of its owner
* `combinations` — all rows that complete a binding

## Main Statements

* `mem_enumerate`, `nodup_enumerate` — the enumeration has each list, and none twice
* `Join.mem_rowsAt` — a join offers the rows that it leads to
* `Condition.holdsBelow_iff` — a condition holds if it is true of some complete binding

## Design Notes

A join may hang off any earlier one, so what may be chosen for an item depends on all that was
chosen before it.  `OneEach` says so by positions, `enumerate` by recursion on the items.
-/

namespace RecordQuery

universe u v

variable {α : Type u} {γ : Type v}

/-! ## One entry for each item -/

/-- Whether a list has one entry for each item, allowed there after the entries before it. -/
structure OneEach (allows : List α → γ → α → Prop) (items : List γ) (xs : List α) : Prop where
  length_eq : xs.length = items.length
  allowed : ∀ i item x, items[i]? = some item → xs[i]? = some x → allows (xs.take i) item x

/-- The lists that go on with one entry for each item, out of those that are offered. -/
def enumerate (offers : List α → γ → List α) : List α → List γ → List (List α)
  | before, [] => [before]
  | before, item :: items =>
    (offers before item).flatMap fun x => enumerate offers (before ++ [x]) items

namespace OneEach

variable {allows : List α → γ → α → Prop}

theorem nil_iff {xs : List α} : OneEach allows [] xs ↔ xs = [] := by
  constructor
  · intro h
    exact List.eq_nil_of_length_eq_zero h.length_eq
  · rintro rfl
    exact ⟨rfl, fun i item x hitem => by simp at hitem⟩

/-- The first entries are one for each of the first items. -/
theorem take {items : List γ} {xs : List α} (h : OneEach allows items xs) (n : Nat) :
    OneEach allows (items.take n) (xs.take n) := by
  refine ⟨by simp [h.length_eq], fun i item x hitem hx => ?_⟩
  rw [List.getElem?_take, Option.ite_none_right_eq_some] at hitem hx
  rw [List.take_take, Nat.min_eq_left (Nat.le_of_lt hx.1)]
  exact h.allowed i item x hitem.2 hx.2

/-- One entry for each of some items and one more. -/
theorem concat_iff {items : List γ} {item : γ} {xs : List α} :
    OneEach allows (items ++ [item]) xs
      ↔ ∃ ys y, xs = ys ++ [y] ∧ OneEach allows items ys ∧ allows ys item y := by
  constructor
  · rintro ⟨hlength, hallowed⟩
    rw [List.length_append, List.length_singleton] at hlength
    rcases List.eq_nil_or_concat xs with rfl | ⟨ys, y, rfl⟩
    · exact absurd hlength (Nat.succ_ne_zero _).symm
    rw [List.concat_eq_append] at hlength hallowed ⊢
    have hys : ys.length = items.length := by simpa using hlength
    refine ⟨ys, y, rfl, ⟨hys, fun i item' x hitem hx => ?_⟩, ?_⟩
    -- what comes before an entry is the same with and without the last one
    · have hi : i < ys.length := (List.getElem?_eq_some_iff.1 hx).1
      have hallows := hallowed i item' x
        (by rwa [List.getElem?_append_left (hys ▸ hi)]) (by rwa [List.getElem?_append_left hi])
      rwa [List.take_append_of_le_length (Nat.le_of_lt hi)] at hallows
    · have hallows := hallowed ys.length item y
        (by rw [hys, List.getElem?_concat_length]) List.getElem?_concat_length
      rwa [List.take_left] at hallows
  · rintro ⟨ys, y, rfl, ⟨hlength, hallowed⟩, hlast⟩
    refine ⟨by simp [hlength], fun i item' x hitem hx => ?_⟩
    rcases Nat.lt_or_ge i ys.length with hi | hi
    · rw [List.getElem?_append_left (hlength ▸ hi)] at hitem
      rw [List.getElem?_append_left hi] at hx
      rw [List.take_append_of_le_length (Nat.le_of_lt hi)]
      exact hallowed i item' x hitem hx
    · obtain rfl : i = ys.length := by
        have hlt := (List.getElem?_eq_some_iff.1 hx).1
        rw [List.length_append, List.length_singleton] at hlt
        omega
      rw [List.getElem?_concat_length, Option.some.injEq] at hx
      rw [hlength, List.getElem?_concat_length, Option.some.injEq] at hitem
      subst hx hitem
      rwa [List.take_left]

end OneEach

section enumerate

variable {offers : List α → γ → List α}

/-- First the entries for the items in front, and then those for the others. -/
theorem enumerate_append (before : List α) (items more : List γ) :
    enumerate offers before (items ++ more)
      = (enumerate offers before items).flatMap fun xs => enumerate offers xs more := by
  induction items generalizing before with
  | nil => simp [enumerate]
  | cons item items ih =>
    simp only [List.cons_append, enumerate, ih, List.flatMap_assoc]

theorem enumerate_singleton (before : List α) (item : γ) :
    enumerate offers before [item] = (offers before item).map fun x => before ++ [x] := by
  rw [enumerate, List.map_eq_flatMap]
  rfl

theorem prefix_of_mem_enumerate {before xs : List α} {items : List γ}
    (h : xs ∈ enumerate offers before items) : before <+: xs := by
  induction items generalizing before with
  | nil =>
    obtain rfl := List.mem_singleton.1 h
    exact List.prefix_rfl
  | cons item items ih =>
    obtain ⟨x, -, hx⟩ := List.mem_flatMap.1 h
    exact (List.prefix_append before [x]).trans (ih hx)

/-- **The enumeration has each list with one entry for each item.** -/
theorem mem_enumerate {items : List γ} {xs : List α} :
    xs ∈ enumerate offers [] items
      ↔ OneEach (fun before item x => x ∈ offers before item) items xs := by
  induction items using List.reverseRecOn generalizing xs with
  | nil => rw [OneEach.nil_iff, enumerate, List.mem_singleton]
  | append_singleton items item ih =>
    rw [enumerate_append, List.mem_flatMap, OneEach.concat_iff]
    constructor
    · rintro ⟨ys, hys, hxs⟩
      rw [enumerate_singleton] at hxs
      obtain ⟨y, hy, rfl⟩ := List.mem_map.1 hxs
      exact ⟨ys, y, rfl, ih.1 hys, hy⟩
    · rintro ⟨ys, y, rfl, hys, hy⟩
      refine ⟨ys, ih.2 hys, ?_⟩
      rw [enumerate_singleton]
      exact List.mem_map_of_mem hy

/-- **The enumeration has no list twice** if no entry is offered twice at one place. -/
theorem nodup_enumerate (hoffers : ∀ before item, (offers before item).Nodup) (before : List α)
    (items : List γ) : (enumerate offers before items).Nodup := by
  induction items generalizing before with
  | nil => exact List.nodup_singleton before
  | cons item items ih =>
    refine List.nodup_flatMap.2 ⟨fun x _ => ih (before ++ [x]), ?_⟩
    refine (hoffers before item).imp fun {x y} hne xs hx hy => hne ?_
    -- two lists with different entries at one place
    obtain ⟨xs', rfl⟩ := prefix_of_mem_enumerate hx
    obtain ⟨ys', hys⟩ := prefix_of_mem_enumerate hy
    rw [List.append_assoc, List.append_assoc] at hys
    exact (List.cons.inj (List.append_cancel_left hys)).1.symm

end enumerate

/-! ## Rows of joins -/

/-- Whether a row is related to the row of the owner: it is an entry of the array under the
property of a collection, or the value under the property of a reference and not null. -/
def Join.Leads (owner row : Json) : Join → Prop
  | collection related =>
    ∃ entries, owner.field? related.collection.property = some (.array entries) ∧ row ∈ entries
  | reference _ r => owner.field? r.property = some row ∧ row.isNull = false

/-- Whether the binding has one row for each join, and each join leads to its row from the row
of its owner: the record, or a row that is bound before. -/
def Binding.Completes (joins : List Join) (binding : Binding) : Prop :=
  OneEach (fun before join row => ∃ owner,
    Binding.row? ⟨binding.record, before⟩ join.owner = some owner ∧ join.Leads owner row)
    joins binding.rows

/-- All ways to go on with one row for each join, given the rows of the joins before them. -/
def combinations (record : Json) : List Json → List Join → List (List Json) :=
  enumerate fun before join => join.rowsAt ⟨record, before⟩

theorem Json.mem_rows {name : String} {record row : Json} :
    row ∈ record.rows name
      ↔ ∃ entries, record.field? name = some (.array entries) ∧ row ∈ entries := by
  unfold rows
  cases record.field? name with
  | none => simp
  | some value => cases value <;> simp [array?]

theorem Json.present?_eq_some_iff {name : String} {record value : Json} :
    record.present? name = some value
      ↔ record.field? name = some value ∧ value.isNull = false := by
  rw [present?, Option.filter_eq_some_iff, Bool.not_eq_true']

theorem Join.rowsAt_of_none {binding : Binding} {join : Join}
    (h : binding.row? join.owner = none) : join.rowsAt binding = [] := by
  unfold rowsAt
  rw [h]

theorem Join.rowsAt_collection {binding : Binding} {related : Related} {owner : Json}
    (h : binding.row? related.owner = some owner) (index : Nat) :
    (mk index (.collection related)).rowsAt binding
      = owner.rows related.collection.property := by
  unfold rowsAt
  rw [show binding.row? (mk index (.collection related)).owner = some owner from h]

theorem Join.rowsAt_reference {binding : Binding} {source : Source} {r : Reference}
    {owner : Json} (h : binding.row? source = some owner) (index : Nat) :
    (mk index (.reference source r)).rowsAt binding = (owner.present? r.property).toList := by
  unfold rowsAt
  rw [show binding.row? (mk index (.reference source r)).owner = some owner from h]

/-- **A join offers the rows that it leads to** from the row of its owner. -/
theorem Join.mem_rowsAt {binding : Binding} {join : Join} {row : Json} :
    row ∈ join.rowsAt binding
      ↔ ∃ owner, binding.row? join.owner = some owner ∧ join.Leads owner row := by
  cases howner : binding.row? join.owner with
  | none => simp [rowsAt_of_none howner]
  | some owner =>
    simp only [Option.some.injEq, exists_eq_left']
    obtain ⟨index, link⟩ := join
    cases link with
    | collection related => rw [rowsAt_collection howner, Json.mem_rows, Leads]
    | reference source r =>
      have howner : binding.row? source = some owner := howner
      rw [rowsAt_reference howner, Option.mem_toList, Json.present?_eq_some_iff, Leads]

theorem mem_combinations {record : Json} {joins : List Join} {rows : List Json} :
    rows ∈ combinations record [] joins ↔ Binding.Completes joins ⟨record, rows⟩ := by
  simp only [combinations, mem_enumerate, Join.mem_rowsAt, Binding.Completes]

/-- A condition holds if it is true of some combination of rows. -/
theorem Condition.holdsBelow_eq_any (condition : Condition) (record : Json) (rows : List Json)
    (joins : List Join) :
    condition.holdsBelow ⟨record, rows⟩ joins
      = (combinations record rows joins).any fun rows =>
          condition.truth ⟨record, rows⟩ == .yes := by
  induction joins generalizing rows with
  | nil => simp [holdsBelow, combinations, enumerate]
  | cons join joins ih =>
    rw [holdsBelow, combinations, enumerate, List.any_flatMap]
    exact congrArg _ (funext fun row => ih (rows ++ [row]))

/-- **A condition holds on a record if it is true of some complete binding.** -/
theorem Condition.holdsBelow_iff {condition : Condition} {record : Json} {joins : List Join} :
    condition.holdsBelow ⟨record, []⟩ joins = true
      ↔ ∃ rows, Binding.Completes joins ⟨record, rows⟩ ∧
          condition.truth ⟨record, rows⟩ = .yes := by
  simp only [holdsBelow_eq_any, List.any_eq_true, mem_combinations, beq_iff_eq]

/-- No condition holds where some join has no row, however those before it are chosen. -/
theorem Condition.holdsBelow_eq_false {record : Json} {joins : List Join} {i : Nat}
    {join : Join} (hjoin : joins[i]? = some join)
    (hnone : ∀ rows, Binding.Completes (joins.take i) ⟨record, rows⟩ → ¬ ∃ owner row,
      Binding.row? ⟨record, rows⟩ join.owner = some owner ∧ join.Leads owner row)
    (condition : Condition) : condition.holdsBelow ⟨record, []⟩ joins = false := by
  rw [holdsBelow_eq_any, List.any_eq_false]
  intro rows hrows
  have hcompletes : Binding.Completes joins ⟨record, rows⟩ := mem_combinations.1 hrows
  have hi : i < rows.length := by
    rw [hcompletes.length_eq]
    exact (List.getElem?_eq_some_iff.1 hjoin).1
  obtain ⟨owner, howner, hleads⟩ :=
    hcompletes.allowed i join rows[i] hjoin (List.getElem?_eq_getElem hi)
  exact absurd ⟨owner, rows[i], howner, hleads⟩ (hnone (rows.take i) (hcompletes.take i))

end RecordQuery
