import RecordQuery.Page
import RecordQuery.Sorting

/-!
# Options of a query

What is applied to the matching records once they are found.
-/

namespace RecordQuery

/-- The order and the window of a result. -/
structure QueryOptions where
  sorting : Sorting := []
  page : Option Page := none
  deriving DecidableEq

/-- The options that ask for one result: two are enough to tell one from many. -/
def QueryOptions.single : QueryOptions := { page := some ⟨0, 2⟩ }

end RecordQuery
