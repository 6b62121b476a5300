import RecordQuery.Json

/-!
# Sorting records

## Main Definitions

* `SortKey`, `Sorting` — columns to sort by, each in its direction
* `Json.sortOrder` — the order of two values of a column
* `Sorting.compare` — the order of two records
* `insertionSort` — the stable sort by an order
* `Sorting.sort` — sorts items by their records

## Design Notes

A missing value counts as larger than any other.  Values that have no common order, such as a
text and a number or two arrays, count as equal.  Items that compare as equal keep their order.
Where the order is not transitive the result depends on the steps taken: each item in turn moves
to the front past the items that it comes strictly before, up to the first one that it does not.
-/

namespace RecordQuery

/-- The direction of a sort. -/
inductive Direction
  | ascending
  | descending
  deriving DecidableEq, Repr

/-- A column to sort by. -/
structure SortKey where
  column : String
  direction : Direction
  deriving DecidableEq, Repr

/-- The columns to sort by, the leading one first. -/
abbrev Sorting := List SortKey

namespace Json

/-- The order of two numbers: exact between words of 64 bits, and as binary numbers
otherwise. -/
def Number.sortOrder (x y : Number) : Ordering :=
  match x.int64?, y.int64? with
  | some i, some j => compare i j
  | _, _ => (x.toBinary64.compare? y.toBinary64).getD .eq

/-- The order of two values; values without a common order count as equal. -/
def sortOrder : Json → Json → Ordering
  | number x, number y => x.sortOrder y
  | text s, text t => compare s t
  | bool a, bool b => compare a b
  | _, _ => .eq

/-- The order of two values that may be missing; a missing one is the largest. -/
def sortOrder? : Option Json → Option Json → Ordering
  | none, none => .eq
  | none, some _ => .gt
  | some _, none => .lt
  | some x, some y => x.sortOrder y

end Json

/-- The order of two records by one column. -/
def SortKey.compare (key : SortKey) (x y : Json) : Ordering :=
  let order := Json.sortOrder? (x.present? key.column) (y.present? key.column)
  match key.direction with
  | .ascending => order
  | .descending => order.swap

/-- The order of two records: that of the first column in which they differ. -/
def Sorting.compare : Sorting → Json → Json → Ordering
  | [], _, _ => .eq
  | key :: keys, x, y => (key.compare x y).then (Sorting.compare keys x y)

/-- Inserts an item into a sorted list that is given from its end. -/
def insertFromEnd {α : Type} (order : α → α → Ordering) (x : α) : List α → List α
  | [] => [x]
  | y :: ys => if order x y = .lt then y :: insertFromEnd order x ys else x :: y :: ys

/-- Sorts a list; items that compare as equal keep their order. -/
def insertionSort {α : Type} (order : α → α → Ordering) (items : List α) : List α :=
  (items.foldl (fun sorted x => insertFromEnd order x sorted) []).reverse

/-- Sorts items by their records. -/
def Sorting.sort {α : Type} (sorting : Sorting) (record : α → Json) (items : List α) : List α :=
  insertionSort (fun x y => Sorting.compare sorting (record x) (record y)) items

end RecordQuery
