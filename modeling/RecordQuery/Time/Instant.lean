import RecordQuery.Number.Power

/-!
# Instants

Points in time to the nanosecond, leap seconds included.

## Main Definitions

* `Instant` — seconds since the first of January 1970, and nanoseconds
* `Instant.compare` — the order in time

## Design Notes

A leap second has no number of its own: it is the second `59` before it with a thousand million
nanoseconds more.  So it comes after every part of that second and before the next minute.
-/

namespace RecordQuery

/-- A point in time, in universal time. -/
@[ext] structure Instant where
  /-- The number of whole seconds since the first of January 1970. -/
  seconds : Int
  /-- The nanoseconds since the start of the second, or of the one before a leap second. -/
  nanos : Nat
  nanos_lt : nanos < 2 * 10 ^ 9
  leap_at_end : 10 ^ 9 ≤ nanos → seconds % 60 = 59
  deriving DecidableEq

namespace Instant

/-- The instant with the given parts; a leap second stands only at the end of a minute. -/
def ofParts? (seconds : Int) (nanos : Nat) : Option Instant :=
  if h : nanos < 2 * 10 ^ 9 ∧ (10 ^ 9 ≤ nanos → seconds % 60 = 59) then
    some ⟨seconds, nanos, h.1, h.2⟩
  else none

/-- Whether the instant lies in a leap second. -/
def isLeap (t : Instant) : Bool := 10 ^ 9 ≤ t.nanos

/-- The order in time. -/
def compare (s t : Instant) : Ordering :=
  (Ord.compare s.seconds t.seconds).then (Ord.compare s.nanos t.nanos)

end Instant

end RecordQuery
