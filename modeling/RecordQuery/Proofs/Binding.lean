import RecordQuery.Matching

/-!
# Rows of a binding

Which sources a binding has rows for.

## Main Definitions

* `Source.IsBelow` — the source is the root or one of the first joins
* `Atom.source` — the source that an atom reads from

## Main Statements

* `Binding.isSome_row?_iff` — a binding has rows for the sources below the number of its rows
-/

namespace RecordQuery

/-- Whether the source is the root or one of the first `n` joins. -/
def Source.IsBelow (n : Nat) : Source → Prop
  | root => True
  | join index => index < n

instance (n : Nat) : DecidablePred (Source.IsBelow n)
  | .root => .isTrue trivial
  | .join index => inferInstanceAs (Decidable (index < n))

/-- The source that an atom reads from. -/
def Atom.source : Atom → Source
  | column c _ => c.source
  | related r _ => r.owner

theorem Binding.isSome_row?_iff {binding : Binding} {source : Source} :
    (binding.row? source).isSome ↔ source.IsBelow binding.rows.length := by
  cases source <;> simp [row?, Source.IsBelow]

end RecordQuery
