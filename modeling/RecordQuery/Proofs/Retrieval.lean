import RecordQuery.Store

/-!
# Answers of a store

All queries look at the same list: either some entity has no record, and each of them fails with
the first fault, or each of them answers from the entities that match.

## Main Definitions

* `EntityType.fault?` — why an entity has no record, if it has none
* `EntityType.accepts` — whether the record of an entity matches a filter

## Main Statements

* `Store.matching_of_fault`, `Store.matching_of_no_fault` — what the queries look at
* `Store.findAll_of_no_fault`, `Store.findOne_of_no_fault`, `Store.count_of_no_fault`,
  `Store.exists?_of_no_fault` — their answers
-/

namespace RecordQuery

/-! ## The stable sort by no column -/

theorem insertionSort_of_eq {α : Type} {order : α → α → Ordering} (h : ∀ x y, order x y = .eq)
    (items : List α) : insertionSort order items = items := by
  have hinsert : ∀ x sorted, insertFromEnd order x sorted = x :: sorted := by
    intro x sorted
    cases sorted with
    | nil => rfl
    | cons y ys => simp [insertFromEnd, h x y]
  simp only [insertionSort, hinsert, List.foldl_flip_cons_eq_append', List.append_nil,
    List.reverse_reverse]

@[simp]
theorem Sorting.sort_nil {α : Type} (record : α → Json) (items : List α) :
    Sorting.sort [] record items = items :=
  insertionSort_of_eq (fun _ _ => rfl) items

/-! ## Records -/

namespace EntityType

variable {α : Type}

/-- Why an entity has no record, if it has none. -/
def fault? (type : EntityType α) (entity : α) : Option RecordFault :=
  match type.record entity with
  | .ok _ => none
  | .error reason => some (RecordFault.ofText reason)

/-- Whether an entity has a record, and the record matches a filter. -/
def accepts (type : EntityType α) (filter : Filter) (entity : α) : Bool :=
  match type.record entity with
  | .ok record => filter.accepts type.table record
  | .error _ => false

end EntityType

namespace Store

variable {α : Type} {type : EntityType α} {store : Store α} {entities : List α}
  {fault : RecordFault}

theorem records_cons_of_ok {entity : α} {record : Json} (h : type.record entity = .ok record) :
    records type (entity :: entities)
      = (records type entities).map ((record, entity) :: ·) := by
  rw [records, List.mapM_cons, h]
  rfl

theorem records_cons_of_error {entity : α} {reason : String}
    (h : type.record entity = .error reason) :
    records type (entity :: entities)
      = .error (.unserializable (RecordFault.ofText reason)) := by
  rw [records, List.mapM_cons, h]
  rfl

/-- The first fault is the one that is told. -/
theorem records_of_fault (h : entities.findSome? type.fault? = some fault) :
    records type entities = .error (.unserializable fault) := by
  induction entities with
  | nil => simp at h
  | cons entity entities ih =>
    cases hrecord : type.record entity with
    | ok record =>
      have hrest : entities.findSome? type.fault? = some fault := by
        simpa [EntityType.fault?, hrecord] using h
      rw [records_cons_of_ok hrecord, ih hrest]
      rfl
    | error reason =>
      have hfault : RecordFault.ofText reason = fault := by
        simpa [EntityType.fault?, hrecord] using h
      rw [records_cons_of_error hrecord, hfault]

theorem records_of_no_fault (h : entities.findSome? type.fault? = none) :
    ∃ records, Store.records type entities = .ok records ∧ records.map Prod.snd = entities ∧
      ∀ r ∈ records, type.record r.2 = .ok r.1 := by
  induction entities with
  | nil => exact ⟨[], rfl, rfl, by simp⟩
  | cons entity entities ih =>
    cases hrecord : type.record entity with
    | ok record =>
      have hrest : entities.findSome? type.fault? = none := by
        simpa [EntityType.fault?, hrecord] using h
      obtain ⟨records, hrecords, hentities, hok⟩ := ih hrest
      refine ⟨(record, entity) :: records, ?_, by rw [List.map_cons, hentities], ?_⟩
      · rw [records_cons_of_ok hrecord, hrecords]
        rfl
      · exact List.forall_mem_cons.2 ⟨hrecord, hok⟩
    | error reason => simp [EntityType.fault?, hrecord] at h

/-! ## Queries -/

/-- **One entity without a record fails every query**, whatever the filter and whether or not
the entity would have been left out of the answer. -/
theorem matching_of_fault (h : store.entities.findSome? type.fault? = some fault)
    (filter : Filter) : store.matching type filter = .error (.unserializable fault) := by
  rw [matching, records_of_fault h]
  rfl

/-- **Otherwise each entity is found as often as it was saved**, and not once for each choice of
joined rows. -/
theorem matching_of_no_fault (h : store.entities.findSome? type.fault? = none)
    (filter : Filter) :
    ∃ found, store.matching type filter = .ok found ∧
      found.map Prod.snd = store.entities.filter (type.accepts filter) := by
  obtain ⟨records, hrecords, hentities, hok⟩ := records_of_no_fault h
  refine ⟨records.filter fun r => filter.accepts type.table r.1, ?_, ?_⟩
  · rw [matching, hrecords]
    rfl
  · rw [← hentities, List.filter_map]
    congr 1
    refine List.filter_congr fun r hr => ?_
    simp [EntityType.accepts, hok r hr]

variable {filter : Filter}

theorem findAllWith_of_fault (h : store.entities.findSome? type.fault? = some fault)
    (options : QueryOptions) :
    store.findAllWith type filter options = .error (.unserializable fault) := by
  rw [findAllWith, matching_of_fault h]
  rfl

theorem count_of_fault (h : store.entities.findSome? type.fault? = some fault) :
    store.count type filter = .error (.unserializable fault) := by
  rw [count, matching_of_fault h]
  rfl

theorem findAllWith_of_no_fault (h : store.entities.findSome? type.fault? = none)
    (page : Option Page) :
    store.findAllWith type filter { page }
      = .ok (page.elim (store.entities.filter (type.accepts filter))
          (·.window (store.entities.filter (type.accepts filter)))) := by
  obtain ⟨found, hfound, hentities⟩ := matching_of_no_fault h filter
  rw [findAllWith, hfound, ← hentities]
  cases page <;> simp [Except.map]

theorem findAll_of_no_fault (h : store.entities.findSome? type.fault? = none) :
    store.findAll type filter = .ok (store.entities.filter (type.accepts filter)) :=
  findAllWith_of_no_fault h none

theorem count_of_no_fault (h : store.entities.findSome? type.fault? = none) :
    store.count type filter = .ok (store.entities.filter (type.accepts filter)).length := by
  obtain ⟨found, hfound, hentities⟩ := matching_of_no_fault h filter
  rw [count, hfound, ← hentities, List.length_map]
  rfl

theorem exists?_of_no_fault (h : store.entities.findSome? type.fault? = none) :
    store.exists? type filter
      = .ok (decide (0 < (store.entities.filter (type.accepts filter)).length)) := by
  rw [exists?, count_of_no_fault h]
  rfl

/-- Two results are enough to tell one from many. -/
theorem findOne_of_no_fault (h : store.entities.findSome? type.fault? = none) :
    store.findOne type filter
      = match store.entities.filter (type.accepts filter) with
        | [] => .ok none
        | [entity] => .ok (some entity)
        | _ :: _ :: _ => .error (.incorrectResultSize 1 2) := by
  rw [findOne, QueryOptions.single, findAllWith_of_no_fault h]
  cases store.entities.filter (type.accepts filter) with
  | nil => rfl
  | cons entity rest => cases rest <;> rfl

end Store

end RecordQuery
