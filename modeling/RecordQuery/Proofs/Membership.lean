import RecordQuery.Proofs.Composition
import RecordQuery.Proofs.Duality

/-!
# Tests of collections and joins

A test of a collection looks at its rows where it is made; the collection can as well be joined
and its row tested.  There is a row with a key if some joined row has the key, and there is a
row at all if there is a joined one.  That there is none says something about all joined rows,
and the complement of a test of the joined row does not.

## Main Definitions

* `Binders` — the joins bound around a restriction, and `Binders.close` puts them there
* `Presence.ofRow`, `Presence.asksForNone` — what a test of a collection asks of one row, and
  whether it asks that no row be so
* `Binders.tested`, `Binders.joined` — a test of a collection, and the collection joined instead
* `Binders.withKey`, `Binders.withRow` — the joined row has a key, or is just there

## Main Statements

* `Binders.realize_close` — a restriction comes after the joins bound around it
* `Restriction.attains_concat` — one join more gives one row more to choose
* `Binders.truth_tested` — a test of a collection by the truths at its joined rows
* `Binders.tested_agrees_with_joined` — where testing and joining come to the same, and where
  not

## Design Notes

A collection may hang off the root or off any join that exists by then.  `Binders` makes these
joins one by one, each from a base that may use the ones before it, so a statement on all
binders and all bases is one on all places where a collection can be met.
-/

namespace RecordQuery

/-! ## Bound joins -/

/-- The joins that are bound around a restriction, outermost first: `n` rows are in scope. -/
inductive Binders : Nat → Type
  | root : Binders 0
  | bind {n : Nat} (binders : Binders n) (base : Base n) : Binders (n + 1)

namespace Binders

variable {n : Nat} (table : Table)

/-- The restriction with the joins bound around it. -/
def close {n : Nat} : Binders n → Restriction n → Restriction 0
  | root, r => r
  | bind binders base, r => binders.close (.withJoin base r)

/-- The places of the bound rows, and the joins made for them. -/
def resolve {n : Nat} : Binders n → Scope n × List Join
  | root => (Scope.empty, [])
  | bind binders base =>
    let (scope, joins) := binders.resolve
    let (place, more) := base.resolve table scope joins.length
    (scope.extend place, joins ++ more)

theorem resolve_bind (binders : Binders n) (base : Base n) :
    (binders.bind base).resolve table
      = ((binders.resolve table).1.extend (base.resolve table (binders.resolve table).1
            (binders.resolve table).2.length).1,
          (binders.resolve table).2 ++ (base.resolve table (binders.resolve table).1
            (binders.resolve table).2.length).2) := rfl

/-- **A restriction is realized behind the joins that are bound around it.** -/
theorem realize_close (binders : Binders n) (r : Restriction n) :
    (binders.close r).realize table Scope.empty 0
      = ((r.realize table (binders.resolve table).1 (binders.resolve table).2.length).1,
          (binders.resolve table).2
            ++ (r.realize table (binders.resolve table).1
                (binders.resolve table).2.length).2) := by
  induction binders with
  | root => rfl
  | bind binders base ih =>
    rw [close, ih, Restriction.realize_withJoin, resolve_bind, List.length_append,
      List.append_assoc]

/-- The bound rows are the root and rows of the joins made for them. -/
theorem isBelow_resolve (binders : Binders n) (i : Fin n) :
    ((binders.resolve table).1 i).source.IsBelow (binders.resolve table).2.length := by
  induction binders with
  | root => exact i.elim0
  | bind binders base ih =>
    rw [resolve_bind, List.length_append]
    refine Fin.cases ?_ (fun i => ?_) i
    · exact base.isBelow_resolve ih
    · exact (ih i).mono (Nat.le_add_right _ _)

end Binders

/-! ## One join more -/

section concat

variable {table : Table} {record : Json} {joins : List Join} {join : Join}

theorem Binding.completes_concat {rows : List Json} :
    Completes (joins ++ [join]) ⟨record, rows⟩
      ↔ ∃ front row, rows = front ++ [row] ∧ Completes joins ⟨record, front⟩ ∧
          row ∈ join.rowsAt ⟨record, front⟩ := by
  simp only [Join.mem_rowsAt]
  exact OneEach.concat_iff

/-- The truths of a restriction with one join more are those at one row more. -/
theorem Restriction.attains_concat {r : Restriction 0} {t : Truth}
    (h : r.joins table = joins ++ [join]) :
    r.Attains table record t
      ↔ ∃ rows, Binding.Completes joins ⟨record, rows⟩ ∧ ∃ row ∈ join.rowsAt ⟨record, rows⟩,
          (r.condition table).truth (Binding.push ⟨record, rows⟩ row) = t := by
  rw [Attains, h]
  constructor
  · rintro ⟨rows, hrows, htruth⟩
    obtain ⟨front, row, rfl, hfront, hrow⟩ := Binding.completes_concat.1 hrows
    exact ⟨front, hfront, row, hrow, htruth⟩
  · rintro ⟨front, hfront, row, hrow, htruth⟩
    exact ⟨front ++ [row], Binding.completes_concat.2 ⟨front, row, rfl, hfront, hrow⟩, htruth⟩

/-- A restriction may do with one join less if it is true where the other one is true at some
row of that join. -/
theorem Filter.accepts_eq_of_concat {x y : Restriction 0}
    (hjoins : y.joins table = x.joins table ++ [join])
    (h : ∀ rows, rows.length = (x.joins table).length →
      ((x.condition table).truth ⟨record, rows⟩ = .yes
        ↔ ∃ row ∈ join.rowsAt ⟨record, rows⟩,
            (y.condition table).truth (Binding.push ⟨record, rows⟩ row) = .yes)) :
    (restricted x).accepts table record = (restricted y).accepts table record := by
  rw [Bool.eq_iff_iff, accepts_restricted, accepts_restricted,
    Restriction.attains_concat hjoins]
  exact exists_congr fun rows => and_congr_right fun hrows => h rows hrows.length_eq

end concat

/-! ## Rows of a collection -/

namespace Presence

/-- What a test of a collection asks of a row of it, the innermost of the bound rows. -/
def ofRow {n : Nat} (c : Collection) : Presence → Restriction (n + 1)
  | empty _ => .constant .conj
  | member key _ => .column ⟨.bound 0, [], c.target.primaryKey⟩ (.compare .eq key)

/-- Whether a test of a collection asks that no row be so, and otherwise that some row be. -/
def asksForNone : Presence → Bool
  | empty negated => !negated
  | member _ negated => negated

/-- How far a row is what a test of a collection asks of one. -/
def rowTruth (keyColumn : String) (row : Json) : Presence → Truth
  | empty _ => .yes
  | member key _ => (Test.compare .eq key).truth (row.present? keyColumn)

/-- A row has a key if the comparison with the value under its key column is true. -/
theorem hasKey_eq_truth (keyColumn : String) (key : Scalar) (row : Json) :
    hasKey keyColumn key row
      = ((Test.compare .eq key).truth (row.present? keyColumn) == .yes) := by
  rw [Test.truth_compare, ← Sql.hasValue_eq_hasKey, Sql.hasValue]

theorem holds_eq_any (keyColumn : String) (rows : List Json) (presence : Presence) :
    presence.holds keyColumn rows
      = (rows.any (fun row => presence.rowTruth keyColumn row == .yes)
          != presence.asksForNone) := by
  cases presence with
  | empty negated => cases rows <;> cases negated <;> rfl
  | member key negated =>
    have hkey : hasKey keyColumn key
        = fun row => rowTruth keyColumn row (member key negated) == .yes :=
      funext fun row => hasKey_eq_truth keyColumn key row
    rw [holds, hkey]
    rfl

end Presence

/-- A test of a collection is definite wherever its owner is bound: it looks at the rows that a
join to the collection offers. -/
theorem Atom.truth_related {binding : Binding} {related : Related}
    (howner : related.owner.IsBelow binding.rows.length) (index : Nat) (presence : Presence) :
    (Atom.related related presence).truth binding
      = Truth.ofBool (presence.holds related.collection.target.primaryKey
          ((Join.mk index (.collection related)).rowsAt binding)) := by
  obtain ⟨owner, howner⟩ := Option.isSome_iff_exists.1 (Binding.isSome_row?_iff.2 howner)
  rw [truth, Binding.related?, howner, Join.rowsAt_collection howner]
  rfl

theorem Binding.column?_push (binding : Binding) (row : Json) (field : String) :
    (binding.push row).column? ⟨.join binding.rows.length, [], field⟩ = row.present? field := by
  rw [column?, row?, push, List.getElem?_concat_length]
  rfl

namespace Binders

section forms

variable {n : Nat} (binders : Binders n) (base : Base n) (c : Collection)

/-- A test of the collection of a base. -/
def tested (presence : Presence) : Restriction 0 :=
  binders.close (.related base c presence)

/-- The collection of a base is joined, and the restriction is about the joined row. -/
def joined (r : Restriction (n + 1)) : Restriction 0 :=
  (binders.bind (.joined base (.collection c))).close r

/-- The collection of a base is joined, and the joined row has the key. -/
def withKey (key : Scalar) : Restriction 0 :=
  binders.joined base c (.column ⟨.bound 0, [], c.target.primaryKey⟩ (.compare .eq key))

/-- The collection of a base is joined, and nothing is asked of the joined row. -/
def withRow : Restriction 0 :=
  binders.joined base c (.constant .conj)

/-- The join to the collection, seen from the place of its base. -/
def collectionJoin (table : Table) : Join :=
  ⟨((binders.bind base).resolve table).2.length,
    .collection (c.seenFrom (((binders.bind base).resolve table).1 0))⟩

end forms

variable {table : Table} {n : Nat} {binders : Binders n} {base : Base n} {c : Collection}

theorem joins_tested (presence : Presence) :
    (binders.tested base c presence).joins table = ((binders.bind base).resolve table).2 := by
  rw [Restriction.joins, tested, realize_close, Restriction.realize_related, resolve_bind]

theorem condition_tested (presence : Presence) :
    (binders.tested base c presence).condition table
      = .atom (.related (c.seenFrom (((binders.bind base).resolve table).1 0)) presence) := by
  rw [Restriction.condition, tested, realize_close, Restriction.realize_related, resolve_bind]
  rfl

theorem resolve_joined :
    (binders.bind (.joined base (.collection c))).resolve table
      = ((binders.resolve table).1.extend
            ⟨.join ((binders.bind base).resolve table).2.length, c.target⟩,
          ((binders.bind base).resolve table).2 ++ [binders.collectionJoin base c table]) := by
  rw [resolve_bind, Base.resolve_joined, collectionJoin, resolve_bind, List.length_append,
    ← List.append_assoc]
  rfl

theorem joins_joined (presence : Presence) :
    (binders.joined base c (presence.ofRow c)).joins table
      = (binders.tested base c presence).joins table
        ++ [binders.collectionJoin base c table] := by
  rw [Restriction.joins, joined, realize_close, resolve_joined, joins_tested]
  cases presence with
  | empty negated => exact List.append_nil _
  | member key negated => exact List.append_nil _

/-- What is asked of a joined row is settled by that row. -/
theorem truth_joined (presence : Presence) {record : Json} {rows : List Json}
    (hrows : rows.length = ((binders.tested base c presence).joins table).length) (row : Json) :
    ((binders.joined base c (presence.ofRow c)).condition table).truth
        (Binding.push ⟨record, rows⟩ row)
      = presence.rowTruth c.target.primaryKey row := by
  -- the joined row stands right behind the rows of the joins before
  rw [joins_tested] at hrows
  rw [Restriction.condition, joined, realize_close, resolve_joined, ← hrows]
  cases presence with
  | empty negated => rfl
  | member key negated =>
    exact congrArg (Test.compare .eq key).truth (Binding.column?_push ⟨record, rows⟩ row _)

/-- **A test of a collection goes by the truths at its joined rows**: some row makes what is
asked of it true, or none does. -/
theorem truth_tested (presence : Presence) {record : Json} {rows : List Json}
    (hrows : rows.length = ((binders.tested base c presence).joins table).length) :
    ((binders.tested base c presence).condition table).truth ⟨record, rows⟩
      = Truth.ofBool (((binders.collectionJoin base c table).rowsAt ⟨record, rows⟩).any
          (fun row => ((binders.joined base c (presence.ofRow c)).condition table).truth
            (Binding.push ⟨record, rows⟩ row) == .yes) != presence.asksForNone) := by
  -- the test is definite because the owner of the collection is bound by then
  have howner : (((binders.bind base).resolve table).1 0).source.IsBelow rows.length := by
    rw [hrows, joins_tested]
    exact (binders.bind base).isBelow_resolve table 0
  simp only [truth_joined presence hrows]
  rw [condition_tested]
  exact (Atom.truth_related howner _ presence).trans
    (congrArg Truth.ofBool (presence.holds_eq_any _ _))

/-- A test for some row is as good as the joined form of it. -/
theorem accepts_tested_eq_joined (presence : Presence) (h : presence.asksForNone = false)
    (record : Json) :
    (Filter.restricted (binders.tested base c presence)).accepts table record
      = (Filter.restricted (binders.joined base c (presence.ofRow c))).accepts
          table record := by
  refine Filter.accepts_eq_of_concat (joins_joined presence) fun rows hrows => ?_
  rw [truth_tested presence hrows, h, Bool.bne_false, Truth.ofBool_eq_yes_iff, List.any_eq_true]
  simp only [beq_iff_eq]

/-- A test for no row holds where the joined form of it fails at all rows. -/
theorem truth_tested_eq_yes_iff (presence : Presence) (h : presence.asksForNone = true)
    (record : Json) {rows : List Json}
    (hrows : rows.length = ((binders.tested base c presence).joins table).length) :
    ((binders.tested base c presence).condition table).truth ⟨record, rows⟩ = .yes
      ↔ ∀ row ∈ (binders.collectionJoin base c table).rowsAt ⟨record, rows⟩,
          ((binders.joined base c (presence.ofRow c)).condition table).truth
            (Binding.push ⟨record, rows⟩ row) ≠ .yes := by
  rw [truth_tested presence hrows, h, Bool.bne_true, Truth.ofBool_eq_yes_iff, Bool.not_eq_true',
    List.any_eq_false]
  simp only [beq_iff_eq, ne_eq]

/-- The complement of a joined form holds where that form fails at some joined row. -/
theorem accepts_not_joined (presence : Presence) (record : Json) :
    (~~~Filter.restricted (binders.joined base c (presence.ofRow c))).accepts
        table record = true
      ↔ ∃ rows,
          Binding.Completes ((binders.tested base c presence).joins table) ⟨record, rows⟩ ∧
          ∃ row ∈ (binders.collectionJoin base c table).rowsAt ⟨record, rows⟩,
            ((binders.joined base c (presence.ofRow c)).condition table).truth
              (Binding.push ⟨record, rows⟩ row) = .no :=
  Filter.accepts_restricted.trans (Restriction.attains_not.trans
    (Restriction.attains_concat (joins_joined presence)))

/-- Joined rows of which nothing is asked leave nothing to the complement. -/
theorem accepts_not_withRow (record : Json) :
    (~~~Filter.restricted (binders.withRow base c)).accepts table record = false := by
  rw [Bool.eq_false_iff]
  intro haccepts
  obtain ⟨rows, hrows, row, -, hno⟩ := (accepts_not_joined (.empty true) record).1 haccepts
  rw [truth_joined (.empty true) hrows.length_eq] at hno
  exact absurd hno (show Truth.yes ≠ .no by decide)

/-! ### At the root -/

theorem accepts_tested_root {presence : Presence} (h : presence.asksForNone = true)
    (record : Json) :
    (Filter.restricted (root.tested .root c presence)).accepts table record = true
      ↔ ∀ row ∈ record.rows c.property, presence.rowTruth c.target.primaryKey row ≠ .yes := by
  have hnil : ([] : List Json).length = ((root.tested .root c presence).joins table).length :=
    rfl
  have htruth := truth_tested_eq_yes_iff presence h record hnil
  simp only [truth_joined presence hnil] at htruth
  refine Filter.accepts_restricted.trans (Iff.trans ?_ htruth)
  constructor
  · rintro ⟨rows, hrows, hyes⟩
    obtain rfl := OneEach.nil_iff.1 hrows
    exact hyes
  · exact fun hyes => ⟨[], OneEach.nil_iff.2 rfl, hyes⟩

theorem accepts_not_joined_root (presence : Presence) (record : Json) :
    (~~~Filter.restricted (root.joined .root c (presence.ofRow c))).accepts table record = true
      ↔ ∃ row ∈ record.rows c.property, presence.rowTruth c.target.primaryKey row = .no := by
  rw [accepts_not_joined]
  constructor
  · rintro ⟨rows, hrows, row, hrow, hno⟩
    obtain rfl := OneEach.nil_iff.1 hrows
    exact ⟨row, hrow, (truth_joined presence rfl row).symm.trans hno⟩
  · rintro ⟨row, hrow, hno⟩
    exact ⟨[], OneEach.nil_iff.2 rfl, row, hrow, (truth_joined presence rfl row).trans hno⟩

/-- Of a record without rows the tests for no row hold, and the complements do not. -/
theorem complement_without_rows (key : Scalar) :
    ((Filter.restricted (root.tested .root c (.member key true))).accepts table (.object [])
          = true ∧
        (~~~Filter.restricted (root.withKey .root c key)).accepts table (.object []) = false) ∧
      (Filter.restricted (root.tested .root c (.empty false))).accepts table (.object [])
          = true ∧
        (~~~Filter.restricted (root.withRow .root c)).accepts table (.object []) = false := by
  have hnone : ∀ row, row ∉ (Json.object []).rows c.property := fun row => List.not_mem_nil
  have htested : ∀ presence : Presence, presence.asksForNone = true →
      (Filter.restricted (root.tested .root c presence)).accepts table (.object []) = true :=
    fun presence h => (accepts_tested_root h _).2 fun row hrow => absurd hrow (hnone row)
  have hjoined : ∀ presence : Presence, (~~~Filter.restricted
      (root.joined .root c (presence.ofRow c))).accepts table (.object []) = false := by
    intro presence
    rw [Bool.eq_false_iff, ne_eq, accepts_not_joined_root]
    rintro ⟨row, hrow, -⟩
    exact hnone row hrow
  exact ⟨⟨htested (.member key true) rfl, hjoined (.member key true)⟩,
    htested (.empty false) rfl, hjoined (.empty false)⟩

/-- Among rows of two keys the test for no row with the one key fails, and
the complement holds. -/
theorem complement_among_keys : ∃ key record,
    (Filter.restricted (root.tested .root c (.member key true))).accepts table record = false ∧
      (~~~Filter.restricted (root.withKey .root c key)).accepts table record = true := by
  let row (n : Int) : Json := .object [(c.target.primaryKey, .number (.integer n))]
  let record : Json := .object [(c.property, .array [row 1, row 2])]
  have hrows : record.rows c.property = [row 1, row 2] := by
    simp [record, Json.rows, Json.field?, Json.array?]
  have hkey : ∀ n, (row n).present? c.target.primaryKey = some (.number (.integer n)) := by
    intro n
    simp [row, Json.present?, Json.field?, Json.isNull]
  refine ⟨.int 1, record, ?_, ?_⟩
  · rw [Bool.eq_false_iff, ne_eq, accepts_tested_root rfl, hrows]
    intro hnone
    refine hnone (row 1) List.mem_cons_self ?_
    rw [Presence.rowTruth, hkey]
    rfl
  · refine (accepts_not_joined_root (.member (.int 1) true) record).2 ⟨row 2, ?_, ?_⟩
    · rw [hrows]
      exact List.mem_cons_of_mem _ List.mem_cons_self
    · rw [Presence.rowTruth, hkey]
      rfl

/-- **A test of a collection agrees with joining the collection**, wherever it is made.  There
is a row with a key if a joined row has that key, and there is a row if there is a joined one.
At given rows of the joins before, there is no such row exactly if no joined row is one.  The
complement of the joined form says another thing, that some joined row definitely has another
key: it fails on a record without rows, and it holds where the rows have two keys, one of them
the one that is asked for. -/
theorem tested_agrees_with_joined (table : Table) {n : Nat} (binders : Binders n)
    (base : Base n) (c : Collection) (key : Scalar) :
    (∀ record,
      (Filter.restricted (binders.tested base c (.member key false))).accepts table record
          = (Filter.restricted (binders.withKey base c key)).accepts table record ∧
        (Filter.restricted (binders.tested base c (.empty true))).accepts table record
          = (Filter.restricted (binders.withRow base c)).accepts table record) ∧
    (∃ earlier join,
      (∀ presence, (binders.tested base c presence).joins table = earlier) ∧
      (binders.withKey base c key).joins table = earlier ++ [join] ∧
      (binders.withRow base c).joins table = earlier ++ [join] ∧
      (∀ record rows, rows.length = earlier.length →
        (((binders.tested base c (.member key true)).condition table).truth
            ⟨record, rows⟩ = .yes
          ↔ ∀ row ∈ join.rowsAt ⟨record, rows⟩,
              ((binders.withKey base c key).condition table).truth
                (Binding.push ⟨record, rows⟩ row) ≠ .yes) ∧
        (((binders.tested base c (.empty false)).condition table).truth ⟨record, rows⟩ = .yes
          ↔ ∀ row ∈ join.rowsAt ⟨record, rows⟩,
              ((binders.withRow base c).condition table).truth
                (Binding.push ⟨record, rows⟩ row) ≠ .yes)) ∧
      ∀ record,
        ((~~~Filter.restricted (binders.withKey base c key)).accepts table record = true
          ↔ ∃ rows, Binding.Completes earlier ⟨record, rows⟩ ∧
              ∃ row ∈ join.rowsAt ⟨record, rows⟩,
                ((binders.withKey base c key).condition table).truth
                  (Binding.push ⟨record, rows⟩ row) = .no) ∧
        (~~~Filter.restricted (binders.withRow base c)).accepts table record = false) ∧
    (∃ record,
      ((Filter.restricted (root.tested .root c (.member key true))).accepts table record
          = true ∧
        (~~~Filter.restricted (root.withKey .root c key)).accepts table record = false) ∧
      (Filter.restricted (root.tested .root c (.empty false))).accepts table record = true ∧
        (~~~Filter.restricted (root.withRow .root c)).accepts table record = false) ∧
    ∃ key record,
      (Filter.restricted (root.tested .root c (.member key true))).accepts table record
          = false ∧
        (~~~Filter.restricted (root.withKey .root c key)).accepts table record = true := by
  have hjoins : ∀ presence, (binders.tested base c presence).joins table
      = ((binders.bind base).resolve table).2 := joins_tested
  have hmore : ∀ presence : Presence, (binders.joined base c (presence.ofRow c)).joins table
      = ((binders.bind base).resolve table).2 ++ [binders.collectionJoin base c table] := by
    intro presence
    rw [joins_joined, hjoins]
  refine ⟨fun record => ⟨?_, ?_⟩, ⟨_, _, hjoins, hmore (.member key true), hmore (.empty true),
    fun record rows hrows => ⟨?_, ?_⟩, fun record => ⟨?_, accepts_not_withRow record⟩⟩,
    ⟨_, complement_without_rows key⟩, complement_among_keys⟩
  · exact accepts_tested_eq_joined (.member key false) rfl record
  · exact accepts_tested_eq_joined (.empty true) rfl record
  · rw [← hjoins (.member key true)] at hrows
    exact truth_tested_eq_yes_iff (.member key true) rfl record hrows
  · rw [← hjoins (.empty false)] at hrows
    exact truth_tested_eq_yes_iff (.empty false) rfl record hrows
  · rw [← hjoins (.member key true)]
    exact accepts_not_joined (.member key true) record

/-- A season with an episode without a key, one that is no object, and one with a key of another
type: no joined episode has the key, and none of them definitely has another one. -/
theorem tested_agrees_with_joined_episodes :
    let table : Table := ⟨"shows", "id"⟩
    let seasons : Collection := ⟨"seasons", "show_id", ⟨"seasons", "id"⟩⟩
    let episodes : Collection := ⟨"episodes", "season_id", ⟨"episodes", "id"⟩⟩
    let binders : Binders 1 := root.bind (.joined .root (.collection seasons))
    let season : Json := .object
      [("episodes", .array [.object [("id", .null)], .bool true, .object [("id", .text "1")]])]
    let record : Json := .object [("seasons", .array [season, .null])]
    let withKey := binders.withKey (.bound 0) episodes (.int 1)
    ∃ join, withKey.joins table = [⟨0, .collection (seasons.seenFrom ⟨.root, table⟩)⟩, join] ∧
      (∀ row ∈ join.rowsAt ⟨record, [season]⟩,
        (withKey.condition table).truth (Binding.push ⟨record, [season]⟩ row) ≠ .yes) ∧
      (~~~Filter.restricted withKey).accepts table record = false := by
  intro table seasons episodes binders season record withKey
  obtain ⟨-, ⟨earlier, join, hjoins, hmore, -, hnone, -⟩, -⟩ :=
    tested_agrees_with_joined table binders (.bound 0) episodes (.int 1)
  obtain rfl : [⟨0, .collection (seasons.seenFrom ⟨.root, table⟩)⟩] = earlier :=
    hjoins (.member (.int 1) true)
  exact ⟨join, hmore, (hnone record [season] rfl).1.1 rfl, rfl⟩

end Binders

end RecordQuery
