import Mathlib.Data.List.DropRight
import Mathlib.Data.List.Induction
import RecordQuery.Gateway
import RecordQuery.Proofs.Retrieval

/-!
# Histories of a store

A store goes through operations one after another, and questions stand among the
changes.  What a question is told depends on one list only: the entities saved since
everything was last deleted.

## Main Definitions

* `Question`, `Operation`, `Reply` — what a store can be told to do, and what it says to it
* `Store.step`, `Store.run` — one operation, and a history of them
* `savedSince` — the entities saved since the last deletion, read off a history

## Main Statements

* `Store.run_append`, `Store.run_ask` — histories one after another, and a question among them
* `Store.entities_run` — what a history leaves in the store
* `Store.replies_find` — the reply to a question anywhere in a history, and to all other
  operations
-/

namespace RecordQuery

/-- What may be asked of a store. -/
inductive Question
  | find (filter : Filter) (request : Request)
  | size
  | isEmpty

/-- What may be done to a store. -/
inductive Operation (α : Type)
  | save (entity : α)
  | saveAll (entities : List α)
  | deleteAll
  | ask (question : Question)

/-- What a store says to an operation that does not fail. -/
inductive Reply (α : Type)
  | done
  | entity (entity : α)
  | entities (entities : List α)
  | atMostOne (entity : Option α)
  | number (n : Nat)
  | truth (b : Bool)

namespace Operation

variable {α : Type}

/-- The entities that an operation saves. -/
def saved : Operation α → List α
  | save entity => [entity]
  | saveAll entities => entities
  | deleteAll => []
  | ask _ => []

/-- Whether an operation deletes all entities. -/
def deletes : Operation α → Bool
  | deleteAll => true
  | _ => false

end Operation

variable {α : Type}

/-- The entities saved since everything was last deleted, in the order of the history. -/
def savedSince (history : List (Operation α)) : List α :=
  (history.rtakeWhile (! ·.deletes)).flatMap Operation.saved

theorem savedSince_concat (history : List (Operation α)) (op : Operation α) :
    savedSince (history ++ [op])
      = if op.deletes then [] else savedSince history ++ op.saved := by
  rw [savedSince, List.rtakeWhile_concat]
  cases op.deletes with
  | true => rfl
  | false => simp [savedSince]

namespace Store

variable (type : EntityType α)

/-- The answer to a question. -/
def answer (store : Store α) : Question → Except QueryError (Reply α)
  | .find filter .all => (store.findAll type filter).map .entities
  | .find filter (.allWith options) => (store.findAllWith type filter options).map .entities
  | .find filter .one => (store.findOne type filter).map .atMostOne
  | .find filter .count => (store.count type filter).map .number
  | .find filter .exists => (store.exists? type filter).map .truth
  | .size => .ok (.number store.size)
  | .isEmpty => .ok (.truth store.isEmpty)

/-- One operation: what the store says to it, and the store afterwards. -/
def step (store : Store α) : Operation α → Except QueryError (Reply α) × Store α
  | .save entity => (.ok (.entity entity), store.save entity)
  | .saveAll entities => (.ok .done, store.saveAll entities)
  | .deleteAll => (.ok .done, .empty)
  | .ask question => (store.answer type question, store)

/-- A history of operations: one reply to each of them, and the store afterwards. -/
def run (store : Store α) : List (Operation α) → List (Except QueryError (Reply α)) × Store α
  | [] => ([], store)
  | op :: history =>
    let (reply, next) := store.step type op
    let (replies, last) := next.run history
    (reply :: replies, last)

variable {type} {store : Store α}

/-! ## What a history leaves -/

theorem run_append (before after : List (Operation α)) :
    store.run type (before ++ after)
      = ((store.run type before).1 ++ ((store.run type before).2.run type after).1,
          ((store.run type before).2.run type after).2) := by
  induction before generalizing store with
  | nil => rfl
  | cons op before ih => simp only [List.cons_append, run, ih]

theorem length_run (history : List (Operation α)) :
    (store.run type history).1.length = history.length := by
  induction history generalizing store with
  | nil => rfl
  | cons op history ih => rw [run, List.length_cons, ih, List.length_cons]

/-- A question is answered from the store as it is, and the history goes on from the same
store. -/
theorem run_ask (question : Question) (before after : List (Operation α)) :
    store.run type (before ++ .ask question :: after)
      = ((store.run type before).1 ++ (store.run type before).2.answer type question
            :: ((store.run type before).2.run type after).1,
          ((store.run type before).2.run type after).2) := by
  rw [run_append]
  rfl

/-- The reply to a question stands at its place. -/
theorem reply_ask (question : Question) (before after : List (Operation α)) :
    (store.run type (before ++ .ask question :: after)).1[before.length]?
      = some ((store.run type before).2.answer type question) := by
  have hlength : (store.run type before).1.length = before.length := length_run before
  rw [run_ask, ← hlength, List.getElem?_append_right (Nat.le_refl _), Nat.sub_self]
  rfl

/-- **A question changes nothing**: the replies to all other operations, those after it
included, are the same without it, and so is the store in the end. -/
theorem run_without_ask (question : Question) (before after : List (Operation α)) :
    let asked := store.run type (before ++ .ask question :: after)
    asked.1.eraseIdx before.length = (store.run type (before ++ after)).1 ∧
      asked.2 = (store.run type (before ++ after)).2 := by
  have hlength : (store.run type before).1.length = before.length := length_run before
  intro asked
  rw [show asked = _ from run_ask question before after, run_append before after]
  constructor
  · rw [List.eraseIdx_append_of_length_le hlength.le, hlength, Nat.sub_self]
    rfl
  · rfl

/-- An operation either deletes everything or saves its entities behind the others. -/
theorem entities_step (op : Operation α) :
    (store.step type op).2.entities
      = if op.deletes then [] else store.entities ++ op.saved := by
  cases op with
  | save entity => rfl
  | saveAll entities => rfl
  | deleteAll => rfl
  | ask question => exact (List.append_nil store.entities).symm

/-- **A history leaves what was saved since the last deletion.** -/
theorem entities_run (history : List (Operation α)) :
    ((empty : Store α).run type history).2.entities = savedSince history := by
  induction history using List.reverseRecOn with
  | nil => rfl
  | append_singleton history op ih =>
    rw [run_append, savedSince_concat, ← ih]
    exact entities_step op

/-! ## What a history is told -/

/-- All requests fail with the first fault. -/
theorem answer_of_fault {fault : RecordFault}
    (h : store.entities.findSome? type.fault? = some fault) (filter : Filter)
    (request : Request) :
    store.answer type (.find filter request) = .error (.unserializable fault) := by
  cases request with
  | all => rw [answer, findAll, findAllWith_of_fault h]; rfl
  | allWith options => rw [answer, findAllWith_of_fault h]; rfl
  | one => rw [answer, findOne, findAllWith_of_fault h]; rfl
  | count => rw [answer, count_of_fault h]; rfl
  | «exists» => rw [answer, exists?, count_of_fault h]; rfl

/-- **The replies of a history.**  A question is put to the entities saved since the last
deletion.  If one of these has no record the reply is the first fault.  Otherwise it is made
from the entities that match, each of them once for each time it was saved.  No question changes
the replies to other operations, or the store in the end. -/
theorem replies_find (type : EntityType α) (before after : List (Operation α))
    (filter : Filter) :
    let saved := savedSince before
    let found := saved.filter (type.accepts filter)
    let reply (request : Request) : Option (Except QueryError (Reply α)) :=
      (empty.run type (before ++ .ask (.find filter request) :: after)).1[before.length]?
    (∀ fault, saved.findSome? type.fault? = some fault →
      ∀ request, reply request = some (.error (.unserializable fault))) ∧
    (saved.findSome? type.fault? = none →
      reply .all = some (.ok (.entities found)) ∧
      reply .count = some (.ok (.number found.length)) ∧
      reply .exists = some (.ok (.truth (decide (0 < found.length)))) ∧
      reply .one = some (match found with
        | [] => .ok (.atMostOne none)
        | [entity] => .ok (.atMostOne (some entity))
        | _ :: _ :: _ => .error (.incorrectResultSize 1 2))) ∧
    ∀ question : Question,
      let asked := empty.run type (before ++ .ask question :: after)
      asked.1.eraseIdx before.length = (empty.run type (before ++ after)).1 ∧
        asked.2 = (empty.run type (before ++ after)).2 := by
  intro saved found reply
  have hentities : (empty.run type before).2.entities = saved := entities_run before
  have hreply : ∀ request,
      reply request = some ((empty.run type before).2.answer type (.find filter request)) :=
    fun request => reply_ask _ before after
  refine ⟨fun fault hfault request => ?_, fun hfault => ?_, fun question => ?_⟩
  · rw [hreply, answer_of_fault (hentities ▸ hfault)]
  · rw [← hentities] at hfault
    have hfound : (empty.run type before).2.entities.filter (type.accepts filter) = found := by
      rw [hentities]
    refine ⟨?_, ?_, ?_, ?_⟩
    · rw [hreply, answer, findAll_of_no_fault hfault, hfound]
      rfl
    · rw [hreply, answer, count_of_no_fault hfault, hfound]
      rfl
    · rw [hreply, answer, exists?_of_no_fault hfault, hfound]
      rfl
    · rw [hreply, answer, findOne_of_no_fault hfault, hfound]
      rcases found with _ | ⟨entity, _ | ⟨other, rest⟩⟩ <;> rfl
  · exact run_without_ask question before after

/-- A show that was saved twice is found twice, though each time two ratings fit.  Once a show
without a record is saved even a request for no results fails, until everything is deleted. -/
theorem replies_find_ratings :
    let type : EntityType (Except String Json) := ⟨⟨"shows", "id"⟩, id⟩
    let filter : Filter := .restricted (.withJoin
      (.joined .root (.collection ⟨"ratings", "show_id", ⟨"ratings", "id"⟩⟩))
      (.column ⟨.bound 0, [], "stars"⟩ (.compare .ge (.int 4))))
    let rating (stars : Int) : Json := .object [("stars", .number (.integer stars))]
    let popular : Except String Json := .ok (.object [("ratings", .array [rating 4, rating 5])])
    let broken : Except String Json := .error "key must be a string"
    let pair : List (Operation (Except String Json)) :=
      [.save popular, .ask .size, .save popular]
    let noResults : Request := .allWith { page := some ⟨0, 0⟩ }
    let history := .save broken :: .ask (.find filter .count) :: .deleteAll :: pair
    savedSince history = [popular, popular] ∧
      (empty.run type (history ++ [.ask (.find filter .all)])).1[6]?
        = some (.ok (.entities [popular, popular])) ∧
      (empty.run type (history ++ [.ask (.find filter .one)])).1[6]?
        = some (.error (.incorrectResultSize 1 2)) ∧
      (empty.run type
        (pair ++ .save broken :: [.ask (.find filter noResults), .deleteAll])).1[4]?
        = some (.error (.unserializable ⟨"key must be a string", none⟩)) := by
  intro type filter rating popular broken pair noResults history
  obtain ⟨-, hanswers, -⟩ := replies_find type history [] filter
  obtain ⟨hall, -, -, hone⟩ := hanswers rfl
  obtain ⟨hfault, -, -⟩ := replies_find type (pair ++ [.save broken]) [.deleteAll] filter
  exact ⟨rfl, hall, hone, hfault _ rfl noResults⟩

end Store

end RecordQuery
