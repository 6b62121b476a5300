/-!
# Three-valued truth

A test on data that may be missing has three outcomes.  The connectives are the strong ones of
Kleene: an outcome that does not depend on the missing part is definite.

## Main Definitions

* `Truth` — the three outcomes, `no`, `unknown` and `yes`
* `Truth.both`, `Truth.either`, `Truth.negate` — the binary connectives and the complement
* `Truth.all`, `Truth.any` — the connectives over lists

## Main Statements

* `Truth.all_eq_no_iff`, `Truth.all_eq_yes_iff` — when a conjunction is definite
* `Truth.any_eq_yes_iff`, `Truth.any_eq_no_iff` — when a disjunction is definite
-/

namespace RecordQuery

/-- The outcome of a test on data that may be missing. -/
inductive Truth
  | no
  | unknown
  | yes
  deriving DecidableEq, Repr

namespace Truth

/-- The definite outcome that a Boolean stands for. -/
def ofBool : Bool → Truth
  | true => yes
  | false => no

/-- A missing answer is unknown. -/
def ofOption : Option Bool → Truth
  | some b => ofBool b
  | none => unknown

/-- The complement; the complement of unknown is unknown. -/
def negate : Truth → Truth
  | no => yes
  | unknown => unknown
  | yes => no

/-- Conjunction: one `no` settles it, and otherwise one `unknown` leaves it open. -/
def both : Truth → Truth → Truth
  | no, _ => no
  | _, no => no
  | yes, t => t
  | unknown, _ => unknown

/-- Disjunction: one `yes` settles it, and otherwise one `unknown` leaves it open. -/
def either : Truth → Truth → Truth
  | yes, _ => yes
  | _, yes => yes
  | no, t => t
  | unknown, _ => unknown

/-- The conjunction of a list; the empty one is `yes`. -/
def all : List Truth → Truth
  | [] => yes
  | t :: ts => both t (all ts)

/-- The disjunction of a list; the empty one is `no`. -/
def any : List Truth → Truth
  | [] => no
  | t :: ts => either t (any ts)

@[simp] theorem negate_negate (t : Truth) : t.negate.negate = t := by cases t <;> rfl

@[simp] theorem negate_ofBool (b : Bool) : (ofBool b).negate = ofBool (!b) := by cases b <;> rfl

@[simp] theorem ofBool_eq_yes_iff {b : Bool} : ofBool b = yes ↔ b = true := by
  cases b <;> simp [ofBool]

@[simp] theorem yes_both (t : Truth) : both yes t = t := by cases t <;> rfl

@[simp] theorem no_either (t : Truth) : either no t = t := by cases t <;> rfl

theorem negate_both (s t : Truth) : (both s t).negate = either s.negate t.negate := by
  cases s <;> cases t <;> rfl

theorem negate_either (s t : Truth) : (either s t).negate = both s.negate t.negate := by
  cases s <;> cases t <;> rfl

theorem both_eq_no_iff {s t : Truth} : both s t = no ↔ s = no ∨ t = no := by
  cases s <;> cases t <;> decide

theorem both_eq_yes_iff {s t : Truth} : both s t = yes ↔ s = yes ∧ t = yes := by
  cases s <;> cases t <;> decide

theorem either_eq_yes_iff {s t : Truth} : either s t = yes ↔ s = yes ∨ t = yes := by
  cases s <;> cases t <;> decide

theorem either_eq_no_iff {s t : Truth} : either s t = no ↔ s = no ∧ t = no := by
  cases s <;> cases t <;> decide

theorem negate_all (ts : List Truth) : (all ts).negate = any (ts.map negate) := by
  induction ts with
  | nil => rfl
  | cons t ts ih => simp [all, any, negate_both, ih]

theorem negate_any (ts : List Truth) : (any ts).negate = all (ts.map negate) := by
  induction ts with
  | nil => rfl
  | cons t ts ih => simp [all, any, negate_either, ih]

/-- A conjunction fails when one of its parts fails. -/
theorem all_eq_no_iff {ts : List Truth} : all ts = no ↔ no ∈ ts := by
  induction ts with
  | nil => simp [all]
  | cons t ts ih => rw [all, both_eq_no_iff, ih, List.mem_cons, @eq_comm _ no t]

/-- A conjunction holds when each of its parts holds. -/
theorem all_eq_yes_iff {ts : List Truth} : all ts = yes ↔ ∀ t ∈ ts, t = yes := by
  induction ts with
  | nil => simp [all]
  | cons t ts ih => simp [all, both_eq_yes_iff, ih]

/-- A disjunction holds when one of its parts holds. -/
theorem any_eq_yes_iff {ts : List Truth} : any ts = yes ↔ yes ∈ ts := by
  induction ts with
  | nil => simp [any]
  | cons t ts ih => rw [any, either_eq_yes_iff, ih, List.mem_cons, @eq_comm _ yes t]

/-- A disjunction fails when each of its parts fails. -/
theorem any_eq_no_iff {ts : List Truth} : any ts = no ↔ ∀ t ∈ ts, t = no := by
  induction ts with
  | nil => simp [any]
  | cons t ts ih => simp [any, either_eq_no_iff, ih]

end Truth

end RecordQuery
