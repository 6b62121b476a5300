import RecordQuery.Proofs.BooleanLaws
import RecordQuery.Proofs.JoinSearch
import RecordQuery.Proofs.Logic.Substitution

/-!
# Missing values

What is decided of a record while a value is missing does not depend on that value: it stays
decided whatever the value turns out to be.  Only a test whether the value is missing takes it
for an answer that there is none, and so does a relation, which has no rows then.

## Main Definitions

* `Json.set` — a record with a value in the place of the one it has
* `Column.firstName` — the name that a column is first looked up under
* `Selection.LeavesOpen` — a selection takes nothing for granted if a value is missing
* `Filter.Persists` — what a filter decides of a record, it decides of another one

## Main Statements

* `Binding.column?_of_missing`, `Binding.column?_set` — a column is missing with the value that
  it is looked up under, and depends on no other
* `Atom.refinedBy_set` — an atom that leaves the value open is unknown without it, or ignores it
* `Filter.Persists.combine`, `Filter.Persists.negate` — combinations decide what their parts
  decide
* `Filter.persists_set` — a filter that leaves a value open decides the same of all records that
  differ in that value from one in which it is missing

## Design Notes

A relation or a column of a joined row may have the name of the missing value: it is not read
from the record.  Neither is a field within a value object.
-/

namespace RecordQuery

/-! ## Records -/

namespace Json

/-- The record with a value under a name, in the place of the one it has there. -/
def set (record : Json) (name : String) (value : Json) : Json :=
  match record with
  | object fields => object ((name, value) :: fields.filter fun field => field.1 != name)
  | other => other

theorem lookup_filter_of_ne {other name : String} (h : other ≠ name)
    (fields : List (String × Json)) :
    (fields.filter fun field => field.1 != name).lookup other = fields.lookup other := by
  induction fields with
  | nil => rfl
  | cons field fields ih =>
    obtain ⟨key, value⟩ := field
    by_cases hkey : key = name
    · subst hkey
      rw [List.filter_cons_of_neg (by simp), ih, List.lookup_cons, beq_false_of_ne h]
    · rw [List.filter_cons_of_pos (by simpa using hkey), List.lookup_cons, List.lookup_cons, ih]

/-- The other values of the record stay as they are. -/
theorem field?_set_of_ne {other name : String} (h : other ≠ name) (record value : Json) :
    (record.set name value).field? other = record.field? other := by
  cases record with
  | object fields =>
    show ((name, value) :: fields.filter fun field => field.1 != name).lookup other
      = fields.lookup other
    rw [List.lookup_cons, beq_false_of_ne h]
    exact lookup_filter_of_ne h fields
  | _ => rfl

theorem field?_of_missing {name : String} {record : Json} (h : record.present? name = none) :
    record.field? name = none ∨ record.field? name = some null := by
  cases hfield : record.field? name with
  | none => exact .inl rfl
  | some value =>
    refine .inr (congrArg some ?_)
    cases value with
    | null => rfl
    | _ => simp [present?, hfield, isNull, Option.filter] at h

end Json

/-! ## Columns and rows -/

/-- The name that a column is first looked up under: that of the outermost value object,
or that of the field. -/
def Column.firstName (c : Column) : String :=
  (c.embedded.head?.map Embedding.property).getD c.field

namespace Binding

variable {record : Json} {name : String} {rows : List Json}

/-- There is nothing in a null. -/
theorem nested?_null (es : List Embedding) (field : String) :
    (nested? .null es).bind (Json.present? field) = none := by
  cases es <;> rfl

/-- A column is missing with the value that it is first looked up under. -/
theorem column?_of_missing (hmissing : record.present? name = none) {c : Column}
    (hsource : c.source = .root) (hname : c.firstName = name) :
    column? ⟨record, rows⟩ c = none := by
  obtain ⟨source, embedded, field⟩ := c
  subst hsource hname
  cases embedded with
  | nil => exact hmissing
  | cons e es =>
    show ((record.field? e.property).bind fun value => nested? value es).bind
      (Json.present? field)
      = none
    obtain hfield | hfield := Json.field?_of_missing hmissing
    · have hfield' : record.field? e.property = none := hfield
      rw [hfield']
      rfl
    · have hfield' : record.field? e.property = some .null := hfield
      rw [hfield']
      exact nested?_null es field

/-- A column depends on no other value of the record than the one it is
first looked up under. -/
theorem column?_set {c : Column} (h : c.source = .root → c.firstName ≠ name) (value : Json) :
    column? ⟨record.set name value, rows⟩ c = column? ⟨record, rows⟩ c := by
  obtain ⟨source, embedded, field⟩ := c
  cases source with
  | join i => rfl
  | root =>
    have hfirst := Json.field?_set_of_ne (h rfl) record value
    cases embedded with
    | nil =>
      show (record.set name value).present? field = record.present? field
      exact congrArg (Option.filter _) hfirst
    | cons e es =>
      show (((record.set name value).field? e.property).bind fun v => nested? v es).bind
          (Json.present? field)
        = ((record.field? e.property).bind fun v => nested? v es).bind (Json.present? field)
      exact congrArg (fun v => (Option.bind v fun v => nested? v es).bind (Json.present? field))
        hfirst

theorem related?_set {r : Related} (h : r.owner = .root → r.collection.property ≠ name)
    (value : Json) :
    related? ⟨record.set name value, rows⟩ r = related? ⟨record, rows⟩ r := by
  obtain ⟨owner, ownerKey, collection⟩ := r
  cases owner with
  | join i => rfl
  | root =>
    have hfield := Json.field?_set_of_ne (h rfl) record value
    exact congrArg (fun v => some ((Option.bind v Json.array?).getD [])) hfield

end Binding

/-! ## What leaves a value open -/

/-- Whether an atom takes nothing for granted if the record has no value under a name: it
neither asks whether the value is missing nor for the rows that it holds. -/
def Atom.LeavesOpen (name : String) : Atom → Prop
  | column c (.isNull _) => c.source = .root → c.firstName ≠ name
  | column _ _ => True
  | related r _ => r.owner = .root → r.collection.property ≠ name

/-- Whether a selection takes nothing for granted if the record has no value under a name: no
atom does, and no join leads to the rows that the value holds. -/
structure Selection.LeavesOpen (name : String) (selection : Selection) : Prop where
  atoms : ∀ condition, selection.condition = some condition →
    ∀ a ∈ condition.atoms, a.LeavesOpen name
  joins : ∀ join ∈ selection.joins, join.owner = .root → join.property ≠ name

theorem Test.truth_missing {test : Test} (h : ∀ negated, test ≠ .isNull negated) :
    test.truth none = .unknown := by
  cases test with
  | isNull negated => exact absurd rfl (h negated)
  | _ => rfl

section

variable {record : Json} {name : String} {rows : List Json}

/-- **An atom that leaves the value open** is unknown where it reads the missing value, and
reads the same with any value otherwise. -/
theorem Atom.refinedBy_set (hmissing : record.present? name = none) {a : Atom}
    (hopen : a.LeavesOpen name) (value : Json) :
    (a.truth ⟨record, rows⟩).RefinedBy (a.truth ⟨record.set name value, rows⟩) := by
  cases a with
  | related r presence =>
    rw [truth, truth, Binding.related?_set hopen]
    exact .refl _
  | column c test =>
    by_cases hreads : c.source = .root ∧ c.firstName = name
    · have hnull : ∀ negated, test ≠ .isNull negated := by
        rintro negated rfl
        exact hopen hreads.1 hreads.2
      rw [truth, Binding.column?_of_missing hmissing hreads.1 hreads.2,
        Test.truth_missing hnull]
      exact .unknown _
    · have hother : c.source = .root → c.firstName ≠ name :=
        fun hsource hname => hreads ⟨hsource, hname⟩
      rw [truth, truth, Binding.column?_set hother]
      exact .refl _

theorem Condition.refinedBy_set (hmissing : record.present? name = none) {condition : Condition}
    (hopen : ∀ a ∈ condition.atoms, a.LeavesOpen name) (value : Json) :
    (condition.truth ⟨record, rows⟩).RefinedBy
      (condition.truth ⟨record.set name value, rows⟩) :=
  Formula.refinedBy_eval fun a ha => a.refinedBy_set hmissing (hopen a ha) value

/-- A join that does not lead to the rows under a name offers the same rows
with any value there. -/
theorem Join.rowsAt_set {join : Join} (h : join.owner = .root → join.property ≠ name)
    (value : Json) :
    join.rowsAt ⟨record.set name value, rows⟩ = join.rowsAt ⟨record, rows⟩ := by
  cases hsource : join.owner with
  | join i =>
    have hrow : Binding.row? ⟨record.set name value, rows⟩ join.owner
        = Binding.row? ⟨record, rows⟩ join.owner := by
      rw [hsource]
      rfl
    unfold rowsAt
    rw [hrow]
  | root =>
    have hfield := Json.field?_set_of_ne (h hsource) record value
    have hrow : ∀ record, Binding.row? ⟨record, rows⟩ join.owner = some record := by
      intro record
      rw [hsource]
      rfl
    obtain ⟨index, link⟩ := join
    cases link with
    | collection related =>
      have hrows : ∀ record, (mk index (.collection related)).rowsAt ⟨record, rows⟩
          = record.rows related.collection.property :=
        fun record => rowsAt_collection (hrow record) index
      rw [hrows, hrows]
      exact congrArg (fun v => (Option.bind v Json.array?).getD []) hfield
    | reference owner r =>
      have hrows : ∀ record, (mk index (.reference owner r)).rowsAt ⟨record, rows⟩
          = (record.present? r.property).toList :=
        fun record => rowsAt_reference (hrow record) index
      rw [hrows, hrows]
      exact congrArg (fun v => (Option.filter _ v).toList) hfield

theorem Binding.completes_set {joins : List Join}
    (h : ∀ join ∈ joins, join.owner = .root → join.property ≠ name) (value : Json) :
    Completes joins ⟨record.set name value, rows⟩ ↔ Completes joins ⟨record, rows⟩ := by
  have hrows : ∀ join ∈ joins, ∀ before,
      join.rowsAt ⟨record.set name value, before⟩ = join.rowsAt ⟨record, before⟩ :=
    fun join hjoin _ => join.rowsAt_set (h join hjoin) value
  simp only [Completes, ← Join.mem_rowsAt]
  constructor
  · rintro ⟨hlength, hallowed⟩
    refine ⟨hlength, fun i join row hjoin hrow => ?_⟩
    rw [← hrows join (List.mem_of_getElem? hjoin)]
    exact hallowed i join row hjoin hrow
  · rintro ⟨hlength, hallowed⟩
    refine ⟨hlength, fun i join row hjoin hrow => ?_⟩
    rw [hrows join (List.mem_of_getElem? hjoin)]
    exact hallowed i join row hjoin hrow

end

/-! ## Decisions that persist -/

/-- Whether what a filter decides of a record, it decides of another one as well: there are the
same rows for its joins, the condition has the same truth with them wherever it is definite, and
the filter accepts the other record too if it accepts the one. -/
structure Filter.Persists (table : Table) (record record' : Json) (filter : Filter) : Prop where
  completes_iff : ∀ rows, Binding.Completes (filter.selection table).joins ⟨record', rows⟩
    ↔ Binding.Completes (filter.selection table).joins ⟨record, rows⟩
  refinedBy : ∀ condition, (filter.selection table).condition = some condition →
    ∀ rows, (condition.truth ⟨record, rows⟩).RefinedBy (condition.truth ⟨record', rows⟩)
  accepts : filter.accepts table record = true → filter.accepts table record' = true

/-- A condition that is moved on reads from the rows behind those in front, if there are any. -/
theorem Condition.truth_shift_drop (condition : Condition) (m : Nat) (record : Json)
    (rows : List Json) :
    (condition.shift m).truth ⟨record, rows⟩ = condition.truth ⟨record, rows.drop m⟩ := by
  have hrow : ∀ source : Source, Binding.row? ⟨record, rows⟩ (source.shift m)
      = Binding.row? ⟨record, rows.drop m⟩ source := by
    intro source
    cases source with
    | root => rfl
    | join index => exact List.getElem?_drop.symm
  rw [truth, shift, Formula.eval_map]
  refine Formula.eval_congr fun a _ => ?_
  cases a with
  | column c test =>
    simp only [Atom.shift, Atom.truth, Column.shift, Binding.column?, hrow]
  | related r presence =>
    simp only [Atom.shift, Atom.truth, Related.shift, Binding.related?, hrow]

theorem Truth.RefinedBy.join {s s' t t' : Truth} (hs : s.RefinedBy s') (c : Connective)
    (ht : t.RefinedBy t') : (c.join [s, t]).RefinedBy (c.join [s', t']) := by
  have hpairs : ∀ p ∈ [(s, s'), (t, t')], p.1.RefinedBy p.2 :=
    List.forall_mem_cons.2 ⟨hs, List.forall_mem_singleton.2 ht⟩
  exact RefinedBy.join_map c hpairs

namespace Filter

/-- The other filters of a larger one. -/
def Frame.others : Frame → List Filter
  | here => []
  | left _ frame y => y :: frame.others
  | right _ x frame => x :: frame.others
  | complement frame => frame.others

variable {table : Table} {record record' : Json} {x y : Filter}

namespace Persists

/-- A filter accepts a record for the sake of some rows, and they are there for the other
one. -/
theorem of_refinedBy
    (completes_iff : ∀ rows, Binding.Completes (x.selection table).joins ⟨record', rows⟩
      ↔ Binding.Completes (x.selection table).joins ⟨record, rows⟩)
    (refinedBy : ∀ condition, (x.selection table).condition = some condition →
      ∀ rows, (condition.truth ⟨record, rows⟩).RefinedBy (condition.truth ⟨record', rows⟩)) :
    x.Persists table record record' := by
  refine ⟨completes_iff, refinedBy, fun haccepts => ?_⟩
  rw [accepts_iff] at haccepts ⊢
  refine haccepts.imp id ?_
  rintro ⟨condition, rows, hcondition, hrows, htruth⟩
  exact ⟨condition, rows, hcondition, (completes_iff rows).2 hrows,
    refinedBy condition hcondition rows true htruth⟩

theorem unrestricted : Filter.unrestricted.Persists table record record' := by
  refine of_refinedBy (fun rows => ?_) fun condition hcondition => ?_
  · rw [completes_unrestricted, completes_unrestricted]
  · exact absurd hcondition (Option.some_ne_none condition).symm

theorem negate (h : x.Persists table record record') :
    x.negate.Persists table record record' := by
  cases x with
  | unrestricted => exact unrestricted
  | restricted r =>
    refine of_refinedBy h.completes_iff fun condition hcondition rows => ?_
    obtain rfl := Option.some.inj hcondition
    exact (h.refinedBy _ rfl rows).negate

/-- **A combination decides what its parts decide.** -/
theorem combine {c : Connective} (hx : x.Persists table record record')
    (hy : y.Persists table record record') :
    (Filter.combine c x y).Persists table record record' := by
  cases x with
  | unrestricted => exact hy
  | restricted r =>
    cases y with
    | unrestricted => exact hx
    | restricted s =>
      refine of_refinedBy (fun rows => ?_) fun condition hcondition rows => ?_
      · simp only [completes_combine, hx.completes_iff, hy.completes_iff]
      · obtain rfl := Option.some.inj hcondition
        have hfront := hx.refinedBy (r.condition table) rfl rows
        have hback := hy.refinedBy (s.condition table) rfl (rows.drop (r.joins table).length)
        have htruth : ∀ record,
            ((Restriction.combine c r s).condition table).truth ⟨record, rows⟩
              = c.join [(r.condition table).truth ⟨record, rows⟩,
                (s.condition table).truth ⟨record, rows.drop (r.joins table).length⟩] := by
          intro record
          rw [Restriction.condition_combine, Condition.truth, Formula.eval_combine,
            ← Condition.truth_shift_drop]
          rfl
        show (((Restriction.combine c r s).condition table).truth ⟨record, rows⟩).RefinedBy
          (((Restriction.combine c r s).condition table).truth ⟨record', rows⟩)
        rw [htruth, htruth]
        exact hfront.join c hback

/-- A larger filter decides what its parts decide. -/
theorem fill {frame : Frame} (hx : x.Persists table record record')
    (hothers : ∀ y ∈ frame.others, y.Persists table record record') :
    (frame.fill x).Persists table record record' := by
  induction frame with
  | here => exact hx
  | left c frame y ih =>
    obtain ⟨hy, hrest⟩ := List.forall_mem_cons.1 hothers
    exact (ih hrest).combine hy
  | right c y frame ih =>
    obtain ⟨hy, hrest⟩ := List.forall_mem_cons.1 hothers
    exact hy.combine (ih hrest)
  | complement frame ih => exact (ih hothers).negate

end Persists

/-- **What is decided while a value is missing does not depend on it.**  Of a filter that leaves
the value open there are the same rows for its joins whatever the value is, its condition is as
true as without the value wherever it is true or false, and the filter accepts what it accepts
without the value.  In any larger filter its condition stands behind the joins of other parts,
and is decided just so there.  The complement decides what the filter decides, and so does a
larger filter as a whole if its other parts keep to what they decide. -/
theorem persists_set (table : Table) (record : Json) (name : String) (value : Json)
    (hmissing : record.present? name = none) :
    let record' := record.set name value
    (∀ filter : Filter, (filter.selection table).LeavesOpen name →
      filter.Persists table record record' ∧
      ∀ condition, (filter.selection table).condition = some condition → ∀ m rows,
        ((condition.shift m).truth ⟨record, rows⟩).RefinedBy
          ((condition.shift m).truth ⟨record', rows⟩)) ∧
    ∀ filter : Filter, filter.Persists table record record' →
      (~~~filter).Persists table record record' ∧
      ∀ frame : Frame, (∀ other ∈ frame.others, other.Persists table record record') →
        (frame.fill filter).Persists table record record' := by
  intro record'
  refine ⟨fun filter hopen => ?_, fun filter h => ⟨h.negate, fun _ => h.fill⟩⟩
  have hrefined : ∀ condition, (filter.selection table).condition = some condition → ∀ rows,
      (condition.truth ⟨record, rows⟩).RefinedBy (condition.truth ⟨record', rows⟩) := by
    intro condition hcondition rows
    exact Condition.refinedBy_set hmissing (hopen.atoms condition hcondition) value
  refine ⟨.of_refinedBy (fun rows => Binding.completes_set hopen.joins value) hrefined, ?_⟩
  intro condition hcondition m rows
  rw [Condition.truth_shift_drop, Condition.truth_shift_drop]
  exact hrefined condition hcondition (rows.drop m)

/-- A show with a good rating is found before anything is known of its seasons, and still is
when there turns out to be one only. -/
theorem persists_set_seasons :
    let ratings : Collection := ⟨"ratings", "show_id", ⟨"ratings", "id"⟩⟩
    let filter : Filter := .restricted (.combine .disj
      (.withJoin (.joined .root (.collection ratings))
        (.column ⟨.bound 0, [], "stars"⟩ (.compare .ge (.int 4))))
      (.column ⟨.root, [], "seasons"⟩ (.compare .gt (.int 2))))
    let rating : Json := .object [("stars", .number (.integer 5))]
    let record : Json := .object [("seasons", .null), ("ratings", .array [rating])]
    record.present? "seasons" = none ∧
      (filter.selection ⟨"shows", "id"⟩).LeavesOpen "seasons" ∧
      filter.accepts ⟨"shows", "id"⟩ record = true ∧
      filter.accepts ⟨"shows", "id"⟩ (record.set "seasons" (.number (.integer 1))) = true := by
  intro ratings filter rating record
  have hopen : (filter.selection ⟨"shows", "id"⟩).LeavesOpen "seasons" := by
    refine ⟨fun condition hcondition a ha => ?_, fun join hjoin _ => ?_⟩
    · obtain rfl := Option.some.inj hcondition
      have hatoms : a ∈ [Atom.column ⟨.join 0, [], "stars"⟩ (.compare .ge (.int 4)),
        .column ⟨.root, [], "seasons"⟩ (.compare .gt (.int 2))] := ha
      obtain rfl | ha := List.mem_cons.1 hatoms
      · trivial
      · obtain rfl := List.mem_singleton.1 ha
        trivial
    · have hjoins : join ∈ [Join.mk 0 (.collection ⟨.root, "id", ratings⟩)] := hjoin
      obtain rfl := List.mem_singleton.1 hjoins
      show "ratings" ≠ "seasons"
      decide
  have haccepts : filter.accepts ⟨"shows", "id"⟩ record = true := by decide
  obtain ⟨hpersists, -⟩ :=
    persists_set ⟨"shows", "id"⟩ record "seasons" (.number (.integer 1)) rfl
  exact ⟨rfl, hopen, haccepts, (hpersists filter hopen).1.accepts haccepts⟩

/-- A test whether the value is missing takes it for granted that there is none. -/
example :
    let filter : Filter := .field "seasons" (.isNull false)
    let record : Json := .object [("seasons", .null)]
    filter.accepts ⟨"shows", "id"⟩ record = true ∧
      filter.accepts ⟨"shows", "id"⟩ (record.set "seasons" (.number (.integer 1))) = false := by
  decide

end Filter

end RecordQuery
