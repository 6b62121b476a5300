import RecordQuery.Proofs.Retrieval
import RecordQuery.Proofs.Sorting.Comparator

/-!
# Sorted answers

What a store answers to a query with a sort, said without comparing: the first column
that tells two records apart decides, and what no column tells apart stays in the
order in which it was saved.

## Main Definitions

* `OrderedKind` — the kinds of values that have an order of their own
* `Json.Precedes` — the order of two values of a column
* `Sorting.Puts` — the first column that tells two records apart puts one of them first
* `Sorting.IsSorted` — a sorted arrangement of items that were saved one after another

## Main Statements

* `Sorting.compare_eq_lt_iff`, `Sorting.compare_eq_eq_iff` — the comparison says what is put
  first
* `Sorting.exists_isSorted`, `Sorting.IsSorted.eq` — a sort leaves the one sorted arrangement
* `Store.findAllWith_sorted` — a store answers with it
-/

namespace RecordQuery

/-! ## Values of one kind -/

/-- The kinds of values that have an order of their own. -/
inductive OrderedKind
  | text
  | truth
  /-- Integers that fit a signed word of 64 bits. -/
  | integer
  /-- Binary numbers, none of them written as an integer. -/
  | real

/-- Whether a value is of a kind. -/
def OrderedKind.includes : OrderedKind → Json → Bool
  | text, .text _ => true
  | truth, .bool _ => true
  | integer, .number (.integer n) => -2 ^ 63 ≤ n ∧ n < 2 ^ 63
  | real, .number (.real _ _) => true
  | _, _ => false

/-- Whether one value of a column comes before another: texts by their characters, false before
true, numbers by what they stand for, and every value before a missing one. -/
inductive Json.Precedes : Option Json → Option Json → Prop
  | text {s t : String} (h : s < t) : Precedes (some (.text s)) (some (.text t))
  | truth : Precedes (some (.bool false)) (some (.bool true))
  | integer {m n : Int} (h : m < n) :
    Precedes (some (.number (.integer m))) (some (.number (.integer n)))
  | real {x y : Binary64} {hx : x.isFinite = true} {hy : y.isFinite = true}
    (h : x.value < y.value) :
    Precedes (some (.number (.real x hx))) (some (.number (.real y hy)))
  | missing (value : Json) : Precedes (some value) none

namespace Json

theorem precedes_text_iff {s t : String} :
    Precedes (some (.text s)) (some (.text t)) ↔ s < t := by
  constructor
  · intro h
    cases h with
    | text h => exact h
  · exact .text

theorem precedes_truth_iff {a b : Bool} :
    Precedes (some (.bool a)) (some (.bool b)) ↔ a = false ∧ b = true := by
  constructor
  · intro h
    cases h
    exact ⟨rfl, rfl⟩
  · rintro ⟨rfl, rfl⟩
    exact .truth

theorem precedes_integer_iff {m n : Int} :
    Precedes (some (.number (.integer m))) (some (.number (.integer n))) ↔ m < n := by
  constructor
  · intro h
    cases h with
    | integer h => exact h
  · exact .integer

theorem precedes_real_iff {x y : Binary64} {hx : x.isFinite = true} {hy : y.isFinite = true} :
    Precedes (some (.number (.real x hx))) (some (.number (.real y hy)))
      ↔ x.value < y.value := by
  constructor
  · intro h
    cases h with
    | real h => exact h
  · exact .real

end Json

namespace OrderedKind

variable {kind : OrderedKind} {x y : Json}

/-- What a sort makes of a kind. -/
def sortKind : OrderedKind → Json.SortKind
  | text => .text
  | truth => .truth
  | integer => .word
  | real => .binary

theorem exists_of_includes (h : kind.includes x = true) :
    match kind with
    | text => ∃ s, x = .text s
    | truth => ∃ b, x = .bool b
    | integer => ∃ n, x = .number (.integer n) ∧ (Json.Number.integer n).int64? = some n
    | real => ∃ y hy, x = .number (.real y hy) := by
  cases kind with
  | text => cases x <;> first | exact ⟨_, rfl⟩ | cases h
  | truth => cases x <;> first | exact ⟨_, rfl⟩ | cases h
  | integer =>
    cases x with
    | number n =>
      cases n with
      | integer n =>
        have hword : -2 ^ 63 ≤ n ∧ n < 2 ^ 63 := of_decide_eq_true h
        exact ⟨n, rfl, if_pos hword⟩
      | real y hy => cases h
    | null | bool _ | text _ | array _ | object _ => cases h
  | real =>
    cases x with
    | number n =>
      cases n with
      | integer n => cases h
      | real y hy => exact ⟨y, hy, rfl⟩
    | null | bool _ | text _ | array _ | object _ => cases h

theorem sortKind_of_includes (h : kind.includes x = true) : x.sortKind = kind.sortKind := by
  have hx := exists_of_includes h
  cases kind with
  | text => obtain ⟨s, rfl⟩ := hx; rfl
  | truth => obtain ⟨b, rfl⟩ := hx; rfl
  | integer =>
    obtain ⟨n, rfl, hword⟩ := hx
    rw [Json.sortKind, hword]
    rfl
  | real => obtain ⟨y, hy, rfl⟩ := hx; rfl

/-- **Two values of one kind are compared by the order of the kind.** -/
theorem sortOrder_eq_lt_iff (hx : kind.includes x = true) (hy : kind.includes y = true) :
    x.sortOrder y = .lt ↔ Json.Precedes (some x) (some y) := by
  have hx' := exists_of_includes hx
  have hy' := exists_of_includes hy
  cases kind with
  | text =>
    obtain ⟨s, rfl⟩ := hx'
    obtain ⟨t, rfl⟩ := hy'
    have hcompare : compare s t = .lt ↔ s < t := compareOfLessAndEq_eq_lt
    exact hcompare.trans Json.precedes_text_iff.symm
  | truth =>
    obtain ⟨a, rfl⟩ := hx'
    obtain ⟨b, rfl⟩ := hy'
    have hcompare : compare a b = .lt ↔ a = false ∧ b = true := by
      cases a <;> cases b <;> decide
    exact hcompare.trans Json.precedes_truth_iff.symm
  | integer =>
    obtain ⟨m, rfl, hm⟩ := hx'
    obtain ⟨n, rfl, hn⟩ := hy'
    rw [Json.sortOrder, Json.Number.sortOrder_of_words hm hn, Int.compare_eq_lt]
    exact Json.precedes_integer_iff.symm
  | real =>
    obtain ⟨x, hx, rfl⟩ := hx'
    obtain ⟨y, hy, rfl⟩ := hy'
    rw [Json.sortOrder, Json.Number.sortOrder_of_binary (.inl rfl), Int.compare_eq_lt]
    exact (Binary64.place_lt_iff x y).trans Json.precedes_real_iff.symm

/-- A missing value is the largest. -/
theorem sortOrder?_eq_lt_iff {x? y? : Option Json} (hx : ∀ x ∈ x?, kind.includes x = true)
    (hy : ∀ y ∈ y?, kind.includes y = true) :
    Json.sortOrder? x? y? = .lt ↔ Json.Precedes x? y? := by
  cases x? with
  | none => cases y? <;> exact ⟨nofun, nofun⟩
  | some x =>
    cases y? with
    | none => exact ⟨fun _ => .missing x, fun _ => rfl⟩
    | some y => exact sortOrder_eq_lt_iff (hx x rfl) (hy y rfl)

end OrderedKind

/-! ## Columns -/

namespace SortKey

/-- Whether a column puts the first of two records before the second: the smaller value comes
first ascending, and the larger one descending. -/
def Puts (key : SortKey) (x y : Json) : Prop :=
  match key.direction with
  | .ascending => Json.Precedes (x.present? key.column) (y.present? key.column)
  | .descending => Json.Precedes (y.present? key.column) (x.present? key.column)

/-- Whether a column tells two records apart. -/
def TellsApart (key : SortKey) (x y : Json) : Prop := key.Puts x y ∨ key.Puts y x

variable {key : SortKey} {kind : OrderedKind} {records : List Json} {x y : Json}

theorem compare_eq_lt_iff
    (h : ∀ value ∈ Json.values key.column records, kind.includes value = true)
    (hx : x ∈ records) (hy : y ∈ records) : key.compare x y = .lt ↔ key.Puts x y := by
  have hkind : ∀ r ∈ records, ∀ v ∈ r.present? key.column, kind.includes v = true :=
    fun r hr v hv => h v (List.mem_filterMap.2 ⟨r, hr, hv⟩)
  unfold compare Puts
  cases key.direction with
  | ascending => exact OrderedKind.sortOrder?_eq_lt_iff (hkind x hx) (hkind y hy)
  | descending =>
    dsimp only
    rw [← Json.sortOrder?_swap]
    exact OrderedKind.sortOrder?_eq_lt_iff (hkind y hy) (hkind x hx)

theorem compare_eq_eq_iff
    (h : ∀ value ∈ Json.values key.column records, kind.includes value = true)
    (hx : x ∈ records) (hy : y ∈ records) : key.compare x y = .eq ↔ ¬ key.TellsApart x y := by
  rw [TellsApart, ← compare_eq_lt_iff h hx hy, ← compare_eq_lt_iff h hy hx,
    key.compare_swap x y]
  cases key.compare x y <;> decide

end SortKey

/-! ## Records -/

namespace Sorting

/-- Whether the first column that tells two records apart puts the first record before the
second. -/
def Puts (sorting : Sorting) (x y : Json) : Prop :=
  ∃ before key after, sorting = before ++ key :: after ∧ (∀ k ∈ before, ¬ k.TellsApart x y) ∧
    key.Puts x y

/-- Whether some column tells two records apart. -/
def TellsApart (sorting : Sorting) (x y : Json) : Prop :=
  ∃ key ∈ sorting, key.TellsApart x y

/-- In each column to sort by the values of the records, as far as they are present, are of one
kind that has an order. -/
def IsOrdered (sorting : Sorting) (records : List Json) : Prop :=
  ∀ key ∈ sorting, ∃ kind : OrderedKind, ∀ value ∈ Json.values key.column records,
    kind.includes value = true

variable {sorting : Sorting} {records : List Json} {x y : Json}

theorem puts_cons {key : SortKey} {keys : Sorting} :
    Puts (key :: keys) x y ↔ key.Puts x y ∨ ¬ key.TellsApart x y ∧ Puts keys x y := by
  constructor
  · rintro ⟨before, k, after, heq, hbefore, hk⟩
    cases before with
    | nil =>
      obtain ⟨rfl, rfl⟩ := List.cons.inj heq
      exact .inl hk
    | cons b before =>
      obtain ⟨rfl, rfl⟩ := List.cons.inj heq
      obtain ⟨hkey, hrest⟩ := List.forall_mem_cons.1 hbefore
      exact .inr ⟨hkey, before, k, after, rfl, hrest, hk⟩
  · rintro (hkey | ⟨hkey, before, k, after, rfl, hbefore, hk⟩)
    · exact ⟨[], key, keys, rfl, by simp, hkey⟩
    · exact ⟨key :: before, k, after, rfl, List.forall_mem_cons.2 ⟨hkey, hbefore⟩, hk⟩

theorem IsOrdered.isUniform (h : sorting.IsOrdered records) :
    ∀ key ∈ sorting, Json.IsUniform key.column records := by
  intro key hkey
  obtain ⟨kind, hkind⟩ := h key hkey
  exact ⟨kind.sortKind,
    fun value hvalue => OrderedKind.sortKind_of_includes (hkind value hvalue)⟩

/-- **A record comes before another if the first column that tells them
apart puts it first.** -/
theorem compare_eq_lt_iff (h : sorting.IsOrdered records) (hx : x ∈ records)
    (hy : y ∈ records) :
    sorting.compare x y = .lt ↔ sorting.Puts x y := by
  induction sorting with
  | nil =>
    refine ⟨nofun, ?_⟩
    rintro ⟨before, key, after, heq, -⟩
    exact absurd heq (by simp)
  | cons key keys ih =>
    obtain ⟨⟨kind, hkind⟩, hkeys⟩ := List.forall_mem_cons.1 h
    rw [compare, Ordering.then_eq_lt, key.compare_eq_lt_iff hkind hx hy,
      key.compare_eq_eq_iff hkind hx hy, ih hkeys, puts_cons]

theorem compare_eq_eq_iff (h : sorting.IsOrdered records) (hx : x ∈ records)
    (hy : y ∈ records) :
    sorting.compare x y = .eq ↔ ¬ sorting.TellsApart x y := by
  induction sorting with
  | nil => exact ⟨fun _ => by simp [TellsApart], fun _ => rfl⟩
  | cons key keys ih =>
    obtain ⟨⟨kind, hkind⟩, hkeys⟩ := List.forall_mem_cons.1 h
    have hcons : TellsApart (key :: keys) x y ↔ key.TellsApart x y ∨ TellsApart keys x y := by
      simp [TellsApart]
    rw [compare, Ordering.then_eq_eq, key.compare_eq_eq_iff hkind hx hy, ih hkeys, hcons,
      not_or]

/-! ## Sorted arrangements -/

section Arrangements

variable {α : Type} {record : α → Json} {found : List α} {arranged other : List (α × Nat)}

/-- Which of two numbered items stands first: the one that is put first, or, if no column tells
their records apart, the one with the smaller number. -/
def StandsFirst (sorting : Sorting) (record : α → Json) (e f : α × Nat) : Prop :=
  sorting.Puts (record e.1) (record f.1) ∨
    ¬ sorting.TellsApart (record e.1) (record f.1) ∧ e.2 < f.2

/-- A sorted arrangement of items, each of them numbered by its place in the given list. -/
structure IsSorted (sorting : Sorting) (record : α → Json) (found : List α)
    (arranged : List (α × Nat)) : Prop where
  perm : arranged.Perm found.zipIdx
  sorted : arranged.Pairwise (sorting.StandsFirst record)

/-- A sorted arrangement is a stable one by the comparison of the records. -/
theorem isSorted_iff_isArrangement (h : sorting.IsOrdered (found.map record)) :
    sorting.IsSorted record found arranged
      ↔ IsArrangement (fun e f => sorting.compare (record e) (record f)) found arranged := by
  have hmem : arranged.Perm found.zipIdx → ∀ e ∈ arranged, record e.1 ∈ found.map record := by
    intro hperm e he
    refine List.mem_map_of_mem ?_
    rw [← List.zipIdx_map_fst 0 found]
    exact List.mem_map_of_mem (hperm.mem_iff.1 he)
  have hiff : arranged.Perm found.zipIdx → ∀ e ∈ arranged, ∀ f ∈ arranged,
      (sorting.StandsFirst record e f
        ↔ ComesFirst (fun e f => sorting.compare (record e) (record f)) e f) := by
    intro hperm e he f hf
    rw [StandsFirst, ComesFirst, compare_eq_lt_iff h (hmem hperm e he) (hmem hperm f hf),
      compare_eq_eq_iff h (hmem hperm e he) (hmem hperm f hf)]
  constructor
  · rintro ⟨hperm, hsorted⟩
    exact ⟨hperm, hsorted.imp_of_mem fun he hf => (hiff hperm _ he _ hf).1⟩
  · rintro ⟨hperm, hsorted⟩
    exact ⟨hperm, hsorted.imp_of_mem fun he hf => (hiff hperm _ he _ hf).2⟩

theorem IsOrdered.isOrderOn (h : sorting.IsOrdered (found.map record)) :
    IsOrderOn (fun e f => sorting.compare (record e) (record f)) found :=
  (isOrderOn_compare h.isUniform).comap record

/-- **A sort leaves a sorted arrangement.** -/
theorem exists_isSorted (h : sorting.IsOrdered (found.map record)) :
    ∃ arranged, sorting.IsSorted record found arranged ∧
      sorting.sort record found = arranged.map Prod.fst := by
  obtain ⟨arranged, harranged, hsort⟩ := exists_isArrangement h.isOrderOn
  exact ⟨arranged, (isSorted_iff_isArrangement h).2 harranged, hsort⟩

/-- **There is only one sorted arrangement.** -/
theorem IsSorted.eq (h : sorting.IsOrdered (found.map record))
    (harranged : sorting.IsSorted record found arranged)
    (hother : sorting.IsSorted record found other) : arranged = other :=
  IsArrangement.eq h.isOrderOn ((isSorted_iff_isArrangement h).1 harranged)
    ((isSorted_iff_isArrangement h).1 hother)

/-- Records that are told apart come strictly one before the other. -/
theorem pairwise_sort_of_tellsApart (h : sorting.IsOrdered (found.map record))
    (hapart : found.Pairwise fun e f => sorting.TellsApart (record e) (record f)) :
    (sorting.sort record found).Pairwise
      fun e f => sorting.compare (record e) (record f) = .lt := by
  obtain ⟨arranged, ⟨hperm, hsorted⟩, hsort⟩ := exists_isArrangement h.isOrderOn
  have hfound : (sorting.sort record found).Perm found := perm_insertionSort _ found
  have hapart' : (sorting.sort record found).Pairwise
      fun e f => sorting.TellsApart (record e) (record f) :=
    (hfound.pairwise_iff fun ⟨key, hkey, hk⟩ => ⟨key, hkey, hk.symm⟩).2 hapart
  have hle : (sorting.sort record found).Pairwise
      fun e f => (sorting.compare (record e) (record f)).isLE := by
    rw [Sorting.sort, hsort, List.pairwise_map]
    exact hsorted.imp fun hef => hef.isLE
  refine (hle.and hapart').imp_of_mem fun {e f} he hf ⟨hlt, hne⟩ => ?_
  have heq := compare_eq_eq_iff h (List.mem_map_of_mem (hfound.mem_iff.1 he))
    (List.mem_map_of_mem (hfound.mem_iff.1 hf))
  cases hcase : sorting.compare (record e) (record f) with
  | lt => rfl
  | eq => exact absurd hne (heq.1 hcase)
  | gt => rw [hcase] at hlt; exact absurd hlt Bool.false_ne_true

/-- **If all records are told apart it does not matter in which order they were saved.** -/
theorem sort_eq_of_perm (h : sorting.IsOrdered (found.map record)) {found' : List α}
    (hperm : found'.Perm found)
    (hapart : found.Pairwise fun e f => sorting.TellsApart (record e) (record f)) :
    sorting.sort record found' = sorting.sort record found := by
  have h' : sorting.IsOrdered (found'.map record) := fun key hkey =>
    (h key hkey).imp fun kind hkind value hvalue =>
      hkind value (((hperm.map record).filterMap _).mem_iff.1 hvalue)
  have hapart' : found'.Pairwise fun e f => sorting.TellsApart (record e) (record f) :=
    (hperm.pairwise_iff fun ⟨key, hkey, hk⟩ => ⟨key, hkey, hk.symm⟩).2 hapart
  have hsort : (sorting.sort record found').Perm (sorting.sort record found) :=
    (perm_insertionSort _ found').trans (hperm.trans (perm_insertionSort _ found).symm)
  refine hsort.eq_of_pairwise (fun e f _ _ hef hfe => ?_)
    (pairwise_sort_of_tellsApart h' hapart') (pairwise_sort_of_tellsApart h hapart)
  rw [sorting.compare_swap, hef] at hfe
  cases hfe

end Arrangements

end Sorting

/-! ## Answers -/

namespace Store

variable {α : Type} {type : EntityType α} {store : Store α} {filter : Filter}
  {record : α → Json}

/-- The records of a store, where each entity has one. -/
theorem records_of_record {entities : List α}
    (h : ∀ e ∈ entities, type.record e = .ok (record e)) :
    Store.records type entities = .ok (entities.map fun e => (record e, e)) := by
  induction entities with
  | nil => rfl
  | cons e entities ih =>
    obtain ⟨he, hentities⟩ := List.forall_mem_cons.1 h
    rw [records_cons_of_ok he, ih hentities]
    rfl

/-- **The answer to a query with a sort** is the sort of the entities that match. -/
theorem findAllWith_of_record (h : ∀ e ∈ store.entities, type.record e = .ok (record e))
    (sorting : Sorting) :
    store.findAllWith type filter { sorting }
      = .ok (sorting.sort record
          (store.entities.filter fun e => filter.accepts type.table (record e))) := by
  have hmatching : store.matching type filter
      = .ok ((store.entities.filter fun e => filter.accepts type.table (record e)).map
          fun e => (record e, e)) := by
    have hfilter : ((store.entities.map fun e => (record e, e)).filter
        fun r => filter.accepts type.table r.1)
          = (store.entities.filter fun e => filter.accepts type.table (record e)).map
              fun e => (record e, e) := List.filter_map
    rw [matching, records_of_record h]
    exact congrArg Except.ok hfilter
  have hsort : ∀ found : List α,
      (sorting.sort Prod.fst (found.map fun e => (record e, e))).map Prod.snd
        = sorting.sort record found := by
    intro found
    unfold Sorting.sort
    rw [← map_insertionSort (fun e => (record e, e)), List.map_map]
    exact List.map_id _
  rw [findAllWith, hmatching]
  exact congrArg Except.ok (hsort _)

/-- **Sorted answers.**  If some entity has no record the answer is the first fault.  Otherwise
let the values of the matching records in each column to sort by be of one kind.  Then the
answer is the one arrangement of the matching entities in which the first column that tells two
of them apart puts them in order, and those that no column tells apart stand in the order in
which they were saved.  If all of them are told apart the answer is the same in whatever order
the entities were saved. -/
theorem findAllWith_sorted (type : EntityType α) (store : Store α) (filter : Filter)
    (sorting : Sorting) :
    (∀ fault, store.entities.findSome? type.fault? = some fault →
      store.findAllWith type filter { sorting } = .error (.unserializable fault)) ∧
    ∀ record : α → Json, (∀ e ∈ store.entities, type.record e = .ok (record e)) →
      let found := store.entities.filter fun e => filter.accepts type.table (record e)
      sorting.IsOrdered (found.map record) →
        (∃ arranged, sorting.IsSorted record found arranged ∧
          (∀ other, sorting.IsSorted record found other → other = arranged) ∧
          store.findAllWith type filter { sorting } = .ok (arranged.map Prod.fst)) ∧
        ((found.Pairwise fun e f => sorting.TellsApart (record e) (record f)) →
          ∀ entities : List α, entities.Perm store.entities →
            Store.findAllWith type ⟨entities⟩ filter { sorting }
              = store.findAllWith type filter { sorting }) := by
  refine ⟨fun fault hfault => findAllWith_of_fault hfault _, ?_⟩
  intro record hrecord found hordered
  constructor
  · obtain ⟨arranged, harranged, hsort⟩ := Sorting.exists_isSorted hordered
    exact ⟨arranged, harranged, fun other hother => hother.eq hordered harranged,
      by rw [findAllWith_of_record hrecord, hsort]⟩
  · intro hapart entities hperm
    have hrecord' : ∀ e ∈ entities, type.record e = .ok (record e) :=
      fun e he => hrecord e (hperm.mem_iff.1 he)
    have hanswer : Store.findAllWith type ⟨entities⟩ filter { sorting }
        = .ok (sorting.sort record
            (entities.filter fun e => filter.accepts type.table (record e))) :=
      findAllWith_of_record hrecord' sorting
    rw [hanswer, findAllWith_of_record hrecord,
      Sorting.sort_eq_of_perm hordered (hperm.filter _) hapart]

/-- A film without a year comes first where the later year comes first, and names decide between
films of one year, in whatever order the films were saved. -/
theorem findAllWith_sorted_films :
    let type : EntityType Json := ⟨⟨"films", "id"⟩, .ok⟩
    let sorting : Sorting := [⟨"year", .descending⟩, ⟨"name", .ascending⟩]
    let film (year : Json) (name : String) : Json :=
      .object [("year", year), ("name", .text name)]
    let utopia := film .null "Utopia"
    let grove := film (.number (.integer 2013)) "Hemlock Grove"
    let dead := film (.number (.integer 2010)) "The Walking Dead"
    let sherlock := film (.number (.integer 2010)) "Sherlock"
    let films := [grove, dead, utopia, sherlock]
    sorting.IsOrdered films ∧
      (∃ arranged, sorting.IsSorted id films arranged ∧
        arranged.map Prod.fst = [utopia, grove, sherlock, dead]) ∧
      (films.Pairwise fun e f => sorting.TellsApart e f) ∧
      Store.findAllWith type ⟨films.reverse⟩ .unrestricted { sorting }
        = Store.findAllWith type ⟨films⟩ .unrestricted { sorting } := by
  intro type sorting film utopia grove dead sherlock films
  have hordered : sorting.IsOrdered films :=
    List.forall_mem_cons.2 ⟨⟨.integer, by decide⟩,
      List.forall_mem_cons.2 ⟨⟨.text, by decide⟩, by simp⟩⟩
  have hne : films.Pairwise fun e f => sorting.compare e f ≠ .eq := by decide +kernel
  have hapart : films.Pairwise fun e f => sorting.TellsApart e f :=
    hne.imp_of_mem fun he hf h => by_contra fun hnot =>
      h ((Sorting.compare_eq_eq_iff hordered he hf).2 hnot)
  have hanswers := (findAllWith_sorted type ⟨films⟩ .unrestricted sorting).2 id (fun _ _ => rfl)
  have hfound : (films.filter fun e => Filter.unrestricted.accepts type.table (id e)) = films :=
    rfl
  have hrun : Store.findAllWith type ⟨films⟩ .unrestricted { sorting }
      = .ok [utopia, grove, sherlock, dead] := rfl
  obtain ⟨⟨arranged, hsorted, -, hanswer⟩, hperm⟩ :=
    hanswers (by rw [hfound, List.map_id]; exact hordered)
  exact ⟨hordered, ⟨arranged, hsorted, Except.ok.inj (hanswer.symm.trans hrun)⟩, hapart,
    hperm hapart _ (List.reverse_perm films)⟩

end Store

end RecordQuery
