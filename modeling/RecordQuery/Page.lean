import RecordQuery.Number.Power

/-!
# Pages

Windows of a result.

## Main Definitions

* `Page` — how many results to skip and how many to return at most
* `Page.numbered` — the page with a number, counted from zero, of pages of one size
* `Page.window` — the part of a list that lies on a page
-/

namespace RecordQuery

/-- A window of a result.  Negative numbers are allowed and count as zero. -/
structure Page where
  /-- The number of results to skip. -/
  offset : Int64
  /-- The greatest number of results to return. -/
  limit : Int64
  deriving DecidableEq, Repr

namespace Page

/-- The first hundred results. -/
def default : Page := ⟨0, 100⟩

/-- The nearest signed word of 64 bits to an integer. -/
def saturate (n : Int) : Int64 :=
  Int64.ofInt (max (-2 ^ 63) (min n (2 ^ 63 - 1)))

/-- The page with the given number, where pages have the given size.  An offset beyond the words
of 64 bits becomes the last of them. -/
def numbered (number size : Int64) : Page :=
  ⟨saturate (number.toInt * size.toInt), size⟩

/-- The part of a list that lies on the page. -/
def window {α : Type} (page : Page) (items : List α) : List α :=
  (items.drop page.offset.toInt.toNat).take page.limit.toInt.toNat

end Page

end RecordQuery
