import RecordQuery.Proofs.Logic.Formula
import RecordQuery.Filter

/-!
# Making conditions of restrictions

The equations of `Restriction.realize`, with the condition and the joins of the parts by name.

## Design Notes

The definitions take pairs apart with `let`, which hides the parts from rewriting.  Here each
equation names them by the projections; proofs rewrite with these and open nothing else.
-/

namespace RecordQuery

variable {n : Nat} (table : Table) (scope : Scope n) (start : Nat)

namespace Base

theorem resolve_joined (base : Base n) (relation : Relation) :
    (joined base relation).resolve table scope start
      = (⟨.join (start + (base.resolve table scope start).2.length), relation.target⟩,
          (base.resolve table scope start).2
            ++ [⟨start + (base.resolve table scope start).2.length,
                relation.seenFrom (base.resolve table scope start).1⟩]) := rfl

end Base

namespace Restriction

theorem realize_column (path : Path n) (test : Test) :
    (column path test).realize table scope start
      = (.atom (.column ⟨(path.base.resolve table scope start).1.source, path.embedded,
          path.field⟩ test), (path.base.resolve table scope start).2) := rfl

theorem realize_related (base : Base n) (collection : Collection) (presence : Presence) :
    (related base collection presence).realize table scope start
      = (.atom (.related (collection.seenFrom (base.resolve table scope start).1) presence),
          (base.resolve table scope start).2) := rfl

theorem realize_constant (c : Connective) :
    (constant c).realize table scope start = (.junction c [], []) := rfl

theorem realize_combine (c : Connective) (x y : Restriction n) :
    (combine c x y).realize table scope start
      = (.combine c (x.realize table scope start).1
            (y.realize table scope (start + (x.realize table scope start).2.length)).1,
          (x.realize table scope start).2
            ++ (y.realize table scope
              (start + (x.realize table scope start).2.length)).2) := rfl

theorem realize_not (x : Restriction n) :
    x.not.realize table scope start
      = (.not (x.realize table scope start).1, (x.realize table scope start).2) := rfl

theorem realize_withJoin (base : Base n) (body : Restriction (n + 1)) :
    (withJoin base body).realize table scope start
      = ((body.realize table (scope.extend (base.resolve table scope start).1)
            (start + (base.resolve table scope start).2.length)).1,
          (base.resolve table scope start).2
            ++ (body.realize table (scope.extend (base.resolve table scope start).1)
              (start + (base.resolve table scope start).2.length)).2) := rfl

end Restriction

end RecordQuery
