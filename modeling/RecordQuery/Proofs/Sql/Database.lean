import Mathlib.Data.Multiset.Defs
import RecordQuery.Proofs.Choice
import RecordQuery.Proofs.Sql.Evaluation
import RecordQuery.Proofs.Sql.QueryGrammar
import RecordQuery.Sql.Statement

/-!
# Answers of a database

What a query means, read as SQL over the contents of tables.  The rows of its tables are
combined in all ways; those combinations are kept for which the join conditions and the
condition are true; and what is asked is asked of these.  Rows come in bags: a row that is part
of several combinations is there several times, unless it is made distinct.

## Main Definitions

* `Sql.Database` — the contents of tables, and when two values are equal
* `Sql.Database.combinations`, `Sql.Database.kept` — one row of each table, in all ways
* `Sql.Database.answer?`, `Sql.Database.run?` — the answer to a query, and to a statement
* `Sql.Database.HasKeys` — the rows of a table have keys that tell them apart
* `Sql.Database.matched` — the rows of the first table that are part of a combination

## Main Statements

* `Sql.Database.mem_matched` — a row is matched if it is part of a combination that is kept
* `Sql.Database.filterMap_kept` — a row is there as many times as it has combinations
* `Sql.eraseDupsBy_replicates` — to make rows distinct undoes that they are repeated
* `Sql.Database.answer?_rows`, `Sql.Database.answer?_countDistinct`,
  `Sql.Database.answer?_existence` — all questions are about the matched rows

## Design Notes

A comparison with a null value is not true, and a combination is kept only if the conditions are
true.  To make rows distinct is another matter: there null values count as the same.  Values are
compared by a relation that belongs to the database; it need not be the identity.

The order is no part of an answer, and there is no answer to a query with a window, since
without a definite order there is no definite window.
-/

namespace RecordQuery

namespace Sql

/-- The contents of tables, and when two values are equal. -/
structure Database where
  /-- The columns of a table. -/
  columns : Option String → String → List String
  /-- The rows of a table. -/
  rows : Option String → String → List Json
  /-- Whether two values, neither of them null, are equal. -/
  equals : Json → Json → Bool
  equals_self : ∀ value, equals value value = true
  equals_comm : ∀ x y, equals x y = equals y x

/-- Rows of several tables, each with the name that it goes by. -/
abbrev Combination := List (String × Json)

/-- The value of a column, `none` where it is null. -/
def Combination.column? (rows : Combination) (c : QualifiedName) : Option Json :=
  (rows.lookup c.row).bind (Json.present? c.column)

/-- What is answered. -/
inductive Answer
  | rows (rows : Multiset Json)
  | number (n : Nat)
  | truth (b : Bool)

namespace Database

variable (db : Database)

/-- Whether a comparison of two values by equality is true; null equals nothing. -/
def agree : Option Json → Option Json → Bool
  | some x, some y => db.equals x y
  | _, _ => false

/-- Whether two values are not distinct; null is not distinct from null. -/
def same : Option Json → Option Json → Bool
  | some x, some y => db.equals x y
  | none, none => true
  | _, _ => false

/-- What a condition refers to, at a combination of rows. -/
def world (parameters : List Scalar) (rows : Combination) : World where
  column := rows.column?
  related q := (db.rows q.schema q.table).filter fun row =>
    db.agree (row.present? q.foreignKey) (rows.column? q.owner)
  parameter k := if 0 < k then parameters[(k - 1).toNat]? else none

/-- The rows of a table, each under the name that it goes by. -/
def named (table : NamedTable) : Combination :=
  (db.rows table.schema table.table).map fun row => (table.row, row)

/-- One row of each table, in all ways. -/
def combinations (source : TableExpr) : List Combination :=
  enumerate (fun _ table => db.named table) [] source.tables

/-- Whether the join conditions and the condition are true of a combination. -/
def keeps (parameters : List Scalar) (source : TableExpr) (rows : Combination) : Bool :=
  source.joins.all (fun join => db.agree (rows.column? join.left) (rows.column? join.right)) &&
    source.condition.all fun e => e.eval (db.world parameters rows) == some .yes

/-- The combinations for which the conditions are true. -/
def kept (parameters : List Scalar) (source : TableExpr) : List Combination :=
  (db.combinations source).filter (db.keeps parameters source)

/-- Whether two rows are not distinct in any of the columns. -/
def sameRow (columns : List String) (x y : Json) : Bool :=
  columns.all fun column => db.same (x.present? column) (y.present? column)

/-- The columns of the row with a name. -/
def columnsOf (source : TableExpr) (row : String) : List String :=
  ((source.tables.find? fun table => table.row == row).map fun table =>
    db.columns table.schema table.table).getD []

/-- The answer to a query, given the values for its placeholders. -/
def answer? (parameters : List Scalar) (query : QueryExpr) : Option Answer :=
  let kept := db.kept parameters query.source
  match query.window, query.select with
  | some _, _ => none
  | none, .rows false row =>
    let rows := kept.filterMap fun rows => rows.lookup row
    some (.rows rows)
  | none, .rows true row =>
    let rows := kept.filterMap fun rows => rows.lookup row
    some (.rows (rows.eraseDupsBy (db.sameRow (db.columnsOf query.source row))))
  | none, .count => some (.number kept.length)
  | none, .countDistinct c =>
    let values := kept.filterMap fun rows => rows.column? c
    some (.number (values.eraseDupsBy db.equals).length)
  | none, .existence => some (.truth !kept.isEmpty)

/-- The answer to a statement: to the query that its text spells. -/
def run? (statement : Statement) : Option Answer :=
  ((tokenize? statement.text.toList).bind parseQuery?).bind (db.answer? statement.parameters)

/-- The rows of a table have keys that tell them apart: their key is a column of the table, it
is null nowhere, and no two rows have equal keys. -/
structure HasKeys (schema : Option String) (table : Table) : Prop where
  column : table.primaryKey ∈ db.columns schema table.name
  present : ∀ row ∈ db.rows schema table.name, (row.present? table.primaryKey).isSome
  distinct : (db.rows schema table.name).Pairwise fun x y =>
    db.agree (x.present? table.primaryKey) (y.present? table.primaryKey) = false

end Database

/-! ## Making rows distinct -/

/-- **To make rows distinct undoes that they are repeated**: of the items that are there at all
each is left once, given that a relation tells different items apart. -/
theorem eraseDupsBy_replicates {α β : Type} {r : β → β → Bool} {key : α → β} (count : α → Nat)
    (hself : ∀ x, r x x = true) {xs : List α}
    (hdistinct : xs.Pairwise fun x y => r (key y) (key x) = false) :
    (xs.flatMap fun x => List.replicate (count x) (key x)).eraseDupsBy r
      = (xs.filter fun x => count x != 0).map key := by
  induction xs with
  | nil => rfl
  | cons x xs ih =>
    obtain ⟨hx, hxs⟩ := List.pairwise_cons.1 hdistinct
    rw [List.flatMap_cons]
    cases hcount : count x with
    | zero => simp [hcount, ih hxs]
    | succ n =>
      -- the other copies go, and nothing else does
      have hcopies : (List.replicate n (key x)).filter (fun y => decide (r y (key x) = false))
          = [] := by
        simp [hself]
      have hothers : (xs.flatMap fun y => List.replicate (count y) (key y)).filter
            (fun y => decide (r y (key x) = false))
          = xs.flatMap fun y => List.replicate (count y) (key y) := by
        refine List.filter_eq_self.2 fun y hy => ?_
        obtain ⟨z, hz, hy⟩ := List.mem_flatMap.1 hy
        rw [List.eq_of_mem_replicate hy]
        simpa using hx z hz
      rw [List.replicate_succ, List.cons_append, List.eraseDupsBy_cons, List.filter_append,
        hcopies, hothers, List.nil_append, ih hxs]
      simp [hcount]

/-- Items that are there once at most are not repeated. -/
theorem replicates_of_le_one {α : Type} {count : α → Nat} {xs : List α}
    (hcount : ∀ x ∈ xs, count x ≤ 1) :
    (xs.flatMap fun x => List.replicate (count x) x) = xs.filter fun x => count x != 0 := by
  induction xs with
  | nil => rfl
  | cons x xs ih =>
    have hxs := ih fun y hy => hcount y (List.mem_cons_of_mem x hy)
    have hx := hcount x List.mem_cons_self
    rw [List.flatMap_cons, hxs]
    obtain hzero | hone : count x = 0 ∨ count x = 1 := by omega
    · simp [hzero]
    · simp [hone]

namespace Database

variable (db : Database)

/-! ## Combinations by their first row -/

variable (parameters : List Scalar) (source : TableExpr)

/-- The combinations with a given row of the first table for which the conditions are true. -/
def keptFrom (row : Json) : List Combination :=
  (enumerate (fun _ table => db.named table) [(source.table.row, row)]
    (source.joins.map JoinedTable.table)).filter (db.keeps parameters source)

/-- The rows of the first table that are part of a combination for which the conditions are
true. -/
def matched : List Json :=
  (db.rows source.table.schema source.table.table).filter fun row =>
    !(db.keptFrom parameters source row).isEmpty

/-- A combination has one row of each table, under the name that it goes by. -/
theorem mem_combinations {rows : Combination} :
    rows ∈ db.combinations source
      ↔ OneEach (fun _ table entry => entry ∈ db.named table) source.tables rows :=
  mem_enumerate

/-- The combinations of one row stand side by side. -/
theorem kept_eq_flatMap :
    db.kept parameters source
      = (db.rows source.table.schema source.table.table).flatMap
          (db.keptFrom parameters source) := by
  rw [kept, combinations, TableExpr.tables, enumerate, named, List.flatMap_map,
    List.filter_flatMap]
  rfl

variable {parameters source}

theorem lookup_of_mem_keptFrom {row : Json} {rows : Combination}
    (h : rows ∈ db.keptFrom parameters source row) :
    rows.lookup source.table.row = some row := by
  obtain ⟨more, rfl⟩ := prefix_of_mem_enumerate (List.mem_of_mem_filter h)
  simp

/-- **A row is matched if it is part of a combination** for which the conditions are true. -/
theorem mem_matched {row : Json} :
    row ∈ db.matched parameters source
      ↔ ∃ rows ∈ db.kept parameters source, rows.lookup source.table.row = some row := by
  rw [matched, List.mem_filter, kept_eq_flatMap]
  constructor
  · rintro ⟨hrow, hkept⟩
    have hne : db.keptFrom parameters source row ≠ [] := by simpa using hkept
    obtain ⟨rows, hrows⟩ := List.exists_mem_of_ne_nil _ hne
    exact ⟨rows, List.mem_flatMap.2 ⟨row, hrow, hrows⟩, db.lookup_of_mem_keptFrom hrows⟩
  · rintro ⟨rows, hrows, hlookup⟩
    obtain ⟨row', hrow', hrows⟩ := List.mem_flatMap.1 hrows
    obtain rfl : row' = row :=
      Option.some.inj ((db.lookup_of_mem_keptFrom hrows).symm.trans hlookup)
    refine ⟨hrow', ?_⟩
    simpa using List.ne_nil_of_mem hrows

/-- There is a matched row if any combination is kept. -/
theorem isEmpty_matched :
    (db.matched parameters source).isEmpty = (db.kept parameters source).isEmpty := by
  rw [Bool.eq_iff_iff, List.isEmpty_iff, List.isEmpty_iff, matched, kept_eq_flatMap,
    List.filter_eq_nil_iff, List.flatMap_eq_nil_iff]
  simp

/-- **What a combination has of its first row**, it has as many times as the row has
combinations. -/
theorem filterMap_kept {β : Type} (value : Combination → Option β) (key : Json → β)
    (hvalue : ∀ row ∈ db.rows source.table.schema source.table.table,
      ∀ rows ∈ db.keptFrom parameters source row, value rows = some (key row)) :
    (db.kept parameters source).filterMap value
      = (db.rows source.table.schema source.table.table).flatMap fun row =>
          List.replicate (db.keptFrom parameters source row).length (key row) := by
  rw [kept_eq_flatMap, List.filterMap_flatMap]
  refine congrArg List.flatten (List.map_congr_left fun row hrow => ?_)
  rw [List.filterMap_congr (hvalue row hrow), ← List.map_const', ← List.filterMap_eq_map]
  rfl

/-! ## Rows with keys -/

variable {schema : Option String} {table : Table}

/-- The rows of a table with keys are all different. -/
theorem HasKeys.nodup (h : db.HasKeys schema table) : (db.rows schema table.name).Nodup := by
  refine h.distinct.imp_of_mem fun {x y} hx _ hxy => ?_
  rintro rfl
  obtain ⟨key, hkey⟩ := Option.isSome_iff_exists.1 (h.present x hx)
  rw [hkey] at hxy
  exact absurd (db.equals_self key) (Bool.eq_false_iff.1 hxy)

theorem sameRow_self (columns : List String) (row : Json) :
    db.sameRow columns row row = true := by
  refine List.all_eq_true.2 fun column _ => ?_
  cases row.present? column with
  | none => rfl
  | some value => exact db.equals_self value

theorem agree_comm (x y : Option Json) : db.agree x y = db.agree y x := by
  cases x <;> cases y <;> first | rfl | exact db.equals_comm _ _

/-- Rows with different keys are distinct, whatever the other columns are. -/
theorem HasKeys.sameRow_eq_false (h : db.HasKeys schema table) {x y : Json}
    (hx : x ∈ db.rows schema table.name)
    (hxy : db.agree (x.present? table.primaryKey) (y.present? table.primaryKey) = false) :
    db.sameRow (db.columns schema table.name) x y = false := by
  refine List.all_eq_false.2 ⟨table.primaryKey, h.column, ?_⟩
  obtain ⟨key, hkey⟩ := Option.isSome_iff_exists.1 (h.present x hx)
  rw [hkey] at hxy ⊢
  cases hy : y.present? table.primaryKey with
  | none => simp [same]
  | some value =>
    rw [hy] at hxy
    exact Bool.eq_false_iff.1 hxy

variable {name : String} (hsource : source.table = ⟨schema, table.name, name⟩)

include hsource

theorem columnsOf_root : db.columnsOf source name = db.columns schema table.name := by
  simp [columnsOf, TableExpr.tables, hsource]

/-- The rows of the first table, each as many times as it has combinations. -/
theorem filterMap_lookup_kept :
    ((db.kept parameters source).filterMap fun rows => rows.lookup name)
      = (db.rows schema table.name).flatMap fun row =>
          List.replicate (db.keptFrom parameters source row).length row := by
  have hrows : ∀ row ∈ db.rows source.table.schema source.table.table,
      ∀ rows ∈ db.keptFrom parameters source row, rows.lookup name = some (id row) := by
    intro row _ rows hrows
    have hlookup := db.lookup_of_mem_keptFrom hrows
    rwa [hsource] at hlookup
  rw [db.filterMap_kept _ id hrows, hsource]
  rfl

theorem matched_eq_filter :
    db.matched parameters source
      = (db.rows schema table.name).filter fun row =>
          (db.keptFrom parameters source row).length != 0 := by
  rw [matched, hsource]
  refine List.filter_congr fun row _ => ?_
  cases db.keptFrom parameters source row <;> rfl

/-- **Distinct rows are the matched rows**, however many combinations they have. -/
theorem eraseDupsBy_lookup_kept (h : db.HasKeys schema table) :
    ((db.kept parameters source).filterMap fun rows => rows.lookup name).eraseDupsBy
        (db.sameRow (db.columnsOf source name))
      = db.matched parameters source := by
  have hdistinct : (db.rows schema table.name).Pairwise fun x y =>
      db.sameRow (db.columns schema table.name) (id y) (id x) = false := by
    refine h.distinct.imp_of_mem fun {x y} _ hy hxy => ?_
    rw [agree_comm] at hxy
    exact h.sameRow_eq_false db hy hxy
  have hrows := eraseDupsBy_replicates
    (fun row => (db.keptFrom parameters source row).length) (db.sameRow_self _) hdistinct
  rw [db.filterMap_lookup_kept hsource, db.columnsOf_root hsource, db.matched_eq_filter hsource]
  rw [List.map_id] at hrows
  exact hrows

/-- **There are as many different keys as matched rows.** -/
theorem length_eraseDupsBy_column_kept (h : db.HasKeys schema table) :
    (((db.kept parameters source).filterMap fun rows =>
        rows.column? ⟨name, table.primaryKey⟩).eraseDupsBy db.equals).length
      = (db.matched parameters source).length := by
  have hkey : ∀ row ∈ db.rows schema table.name,
      row.present? table.primaryKey = some ((row.present? table.primaryKey).getD .null) := by
    intro row hrow
    obtain ⟨key, hkey⟩ := Option.isSome_iff_exists.1 (h.present row hrow)
    rw [hkey, Option.getD_some]
  have hvalue : ∀ row ∈ db.rows source.table.schema source.table.table,
      ∀ rows ∈ db.keptFrom parameters source row, rows.column? ⟨name, table.primaryKey⟩
        = some ((row.present? table.primaryKey).getD .null) := by
    intro row hrow rows hrows
    have hlookup := db.lookup_of_mem_keptFrom hrows
    rw [hsource] at hrow hlookup
    rw [Combination.column?, hlookup, Option.bind_some]
    exact hkey row hrow
  have hdistinct : (db.rows schema table.name).Pairwise fun x y =>
      db.equals ((y.present? table.primaryKey).getD .null)
        ((x.present? table.primaryKey).getD .null) = false := by
    refine h.distinct.imp_of_mem fun {x y} hx hy hxy => ?_
    rw [hkey x hx, hkey y hy] at hxy
    rw [db.equals_comm]
    exact hxy
  rw [db.filterMap_kept _ _ hvalue, hsource,
    eraseDupsBy_replicates _ db.equals_self hdistinct, List.length_map,
    db.matched_eq_filter hsource]

/-- Without joins no row is repeated. -/
theorem filterMap_lookup_kept_of_joins_eq_nil (hjoins : source.joins = []) :
    ((db.kept parameters source).filterMap fun rows => rows.lookup name)
      = db.matched parameters source := by
  rw [db.filterMap_lookup_kept hsource, db.matched_eq_filter hsource]
  refine replicates_of_le_one fun row _ => ?_
  rw [keptFrom, hjoins]
  exact List.length_filter_le _ _

theorem length_filterMap_lookup_kept :
    ((db.kept parameters source).filterMap fun rows => rows.lookup name).length
      = (db.kept parameters source).length := by
  rw [List.filterMap_length_eq_length]
  intro rows hrows
  rw [kept_eq_flatMap] at hrows
  obtain ⟨row, -, hrows⟩ := List.mem_flatMap.1 hrows
  have hlookup := db.lookup_of_mem_keptFrom hrows
  rw [hsource] at hlookup
  rw [hlookup, Option.isSome_some]

/-! ## Questions -/

variable (order : List (QualifiedName × Direction))

/-- **Asked for rows, a database answers with the matched rows**, each once, if they are made
distinct or nothing is joined. -/
theorem answer?_rows (h : db.HasKeys schema table) {distinct : Bool}
    (hdistinct : distinct = false → source.joins = []) :
    db.answer? parameters ⟨.rows distinct name, source, order, none⟩
      = some (.rows (db.matched parameters source)) := by
  cases distinct with
  | true => rw [← db.eraseDupsBy_lookup_kept hsource h, answer?]
  | false => rw [← db.filterMap_lookup_kept_of_joins_eq_nil hsource (hdistinct rfl), answer?]

/-- Asked for the number of rows, it answers with that of the matched rows if nothing is
joined. -/
theorem answer?_count (hjoins : source.joins = []) :
    db.answer? parameters ⟨.count, source, order, none⟩
      = some (.number (db.matched parameters source).length) := by
  rw [← db.filterMap_lookup_kept_of_joins_eq_nil hsource hjoins,
    db.length_filterMap_lookup_kept hsource, answer?]

/-- **Asked for the number of different keys, it answers with that of the matched rows.** -/
theorem answer?_countDistinct (h : db.HasKeys schema table) :
    db.answer? parameters ⟨.countDistinct ⟨name, table.primaryKey⟩, source, order, none⟩
      = some (.number (db.matched parameters source).length) := by
  rw [← db.length_eraseDupsBy_column_kept hsource h, answer?]

omit hsource in
/-- **Asked whether there are any rows, it answers whether there are matched rows.** -/
theorem answer?_existence :
    db.answer? parameters ⟨.existence, source, order, none⟩
      = some (.truth !(db.matched parameters source).isEmpty) := by
  rw [isEmpty_matched, answer?]

end Database

end Sql

end RecordQuery
