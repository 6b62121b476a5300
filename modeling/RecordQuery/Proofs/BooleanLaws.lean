import RecordQuery.Proofs.Composition

/-!
# Boolean laws of filters

The two sides of a Boolean law make different joins: in another order, or some of them
twice.  They accept the same records nevertheless, and one side may stand for the
other in any larger filter.

## Main Definitions

* `Restriction.Alike`, `Filter.Alike` — what a larger filter can tell of its parts is the same
* `Filter.Frame`, `Filter.Frame.fill` — a larger filter with a gap for a part

## Main Statements

* `Restriction.Alike.combine`, `Restriction.Alike.not` — combinations of filters
  that are alike are alike
* `Restriction.alike_combine_combine` and so on — the laws, one for both connectives
* `Filter.Alike.accepts_fill` — filters that are alike can be exchanged in any larger filter
* `Filter.accepts_laws` — the laws for records and larger filters

## Design Notes

Acceptance alone is not kept by the connectives.  What is kept is whether there are rows for all
joins, and which of the definite truths are attained.  Whether `unknown` is attained is left
out: it is not the same on both sides of distributivity, where the one row that a filter had to
choose becomes two.
-/

namespace RecordQuery

/-! ## Restrictions -/

namespace Restriction

/-- Whether two restrictions attain the same definite truths on a record, and both or neither
have rows for their joins there. -/
structure Alike (table : Table) (record : Json) (x y : Restriction 0) : Prop where
  rows_iff : (∃ t, x.Attains table record t) ↔ ∃ t, y.Attains table record t
  attains_iff : ∀ b, x.Attains table record (.ofBool b) ↔ y.Attains table record (.ofBool b)

variable {table : Table} {record : Json} {c : Connective} {x x' y y' z : Restriction 0}

theorem exists_attains_combine :
    (∃ t, (combine c x y).Attains table record t)
      ↔ (∃ t, x.Attains table record t) ∧ ∃ t, y.Attains table record t := by
  constructor
  · rintro ⟨t, ht⟩
    obtain ⟨s, u, hx, hy, -⟩ := attains_combine.1 ht
    exact ⟨⟨s, hx⟩, ⟨u, hy⟩⟩
  · rintro ⟨⟨s, hx⟩, ⟨u, hy⟩⟩
    exact ⟨_, attains_combine.2 ⟨s, u, hx, hy, rfl⟩⟩

theorem exists_attains_not :
    (∃ t, x.not.Attains table record t) ↔ ∃ t, x.Attains table record t := by
  constructor
  · rintro ⟨t, ht⟩
    exact ⟨_, attains_not.1 ht⟩
  · rintro ⟨t, ht⟩
    exact ⟨t.negate, attains_not.2 (by rwa [Truth.negate_negate])⟩

theorem attains_not_ofBool {b : Bool} :
    x.not.Attains table record (.ofBool b) ↔ x.Attains table record (.ofBool !b) := by
  rw [attains_not, Truth.negate_ofBool]

/-- A definite truth of a combination: one of the two needs both sides, and one is enough for
the other, if both sides have rows for their joins. -/
theorem attains_combine_ofBool {b : Bool} :
    (combine c x y).Attains table record (.ofBool b)
      ↔ if b = c.identity then
          x.Attains table record (.ofBool b) ∧ y.Attains table record (.ofBool b)
        else
          (x.Attains table record (.ofBool b) ∧ ∃ t, y.Attains table record t) ∨
            (∃ t, x.Attains table record t) ∧ y.Attains table record (.ofBool b) := by
  by_cases hb : b = c.identity
  · rw [if_pos hb, hb]
    exact attains_combine_identity
  · rw [if_neg hb, Bool.eq_not_of_ne hb]
    exact attains_combine_settled

namespace Alike

protected theorem refl (x : Restriction 0) : x.Alike table record x := ⟨.rfl, fun _ => .rfl⟩

/-- **Combinations of restrictions that are alike are alike.** -/
theorem combine (hx : x.Alike table record x') (hy : y.Alike table record y') :
    (combine c x y).Alike table record (.combine c x' y') := by
  constructor
  · rw [exists_attains_combine, exists_attains_combine, hx.rows_iff, hy.rows_iff]
  · intro b
    rw [attains_combine_ofBool, attains_combine_ofBool, hx.attains_iff, hy.attains_iff,
      hx.rows_iff, hy.rows_iff]

theorem not (h : x.Alike table record x') : x.not.Alike table record x'.not := by
  constructor
  · rw [exists_attains_not, exists_attains_not, h.rows_iff]
  · intro b
    rw [attains_not_ofBool, attains_not_ofBool, h.attains_iff]

end Alike

/-! ### The laws -/

theorem alike_combine_comm : (combine c x y).Alike table record (combine c y x) := by
  constructor
  · rw [exists_attains_combine, exists_attains_combine, and_comm]
  · intro b
    rw [attains_combine_ofBool, attains_combine_ofBool]
    split
    · exact and_comm
    · rw [or_comm, and_comm, @and_comm (∃ t, y.Attains table record t)]

theorem alike_combine_self : (combine c x x).Alike table record x := by
  constructor
  · rw [exists_attains_combine, and_self]
  · intro b
    have hrows : x.Attains table record (.ofBool b) → ∃ t, x.Attains table record t :=
      fun hx => ⟨_, hx⟩
    rw [attains_combine_ofBool]
    split
    · exact and_self_iff
    · rw [and_iff_left_of_imp hrows, and_iff_right_of_imp hrows, or_self]

theorem alike_not_not : x.not.not.Alike table record x := by
  constructor
  · rw [exists_attains_not, exists_attains_not]
  · intro b
    rw [attains_not_ofBool, attains_not_ofBool, Bool.not_not]

theorem alike_not_combine :
    (combine c x y).not.Alike table record (combine c.dual x.not y.not) := by
  constructor
  · simp only [exists_attains_not, exists_attains_combine]
  · intro b
    have hdual : (!b) = c.identity ↔ b = c.dual.identity := by
      cases c <;> cases b <;> decide
    rw [attains_not_ofBool, attains_combine_ofBool, attains_combine_ofBool]
    simp only [hdual, attains_not_ofBool, exists_attains_not]

/-- **One connective distributes over the other**, although a restriction is realized twice and
each copy may choose rows of its own. -/
theorem alike_combine_combine :
    (combine c x (combine c.dual y z)).Alike table record
      (combine c.dual (combine c x y) (combine c x z)) := by
  constructor
  · simp only [exists_attains_combine]
    exact and_and_left
  · intro b
    have hrows : ∀ {r : Restriction 0}, r.Attains table record (.ofBool b) →
        ∃ t, r.Attains table record t := fun hr => ⟨_, hr⟩
    have hdual : b = c.dual.identity ↔ ¬ b = c.identity := by
      cases c <;> cases b <;> decide
    simp only [attains_combine_ofBool, exists_attains_combine, hdual]
    by_cases hb : b = c.identity
    · simp only [if_pos hb, if_neg (not_not_intro hb)]
      constructor
      · rintro ⟨hx, ⟨hy, hz⟩ | ⟨hy, hz⟩⟩
        · exact .inl ⟨⟨hx, hy⟩, hrows hx, hz⟩
        · exact .inr ⟨⟨hrows hx, hy⟩, hx, hz⟩
      · rintro (⟨⟨hx, hy⟩, -, hz⟩ | ⟨⟨-, hy⟩, hx, hz⟩)
        · exact ⟨hx, .inl ⟨hy, hz⟩⟩
        · exact ⟨hx, .inr ⟨hy, hz⟩⟩
    · simp only [if_neg hb, if_pos hb]
      constructor
      · rintro (⟨hx, hy, hz⟩ | ⟨hx, hy, hz⟩)
        · exact ⟨.inl ⟨hx, hy⟩, .inl ⟨hx, hz⟩⟩
        · exact ⟨.inr ⟨hx, hy⟩, .inr ⟨hx, hz⟩⟩
      -- where the copies differ, one of them alone attains what is needed
      · rintro ⟨⟨hx, hy⟩ | ⟨hx, hy⟩, ⟨hx', hz⟩ | ⟨hx', hz⟩⟩
        · exact .inl ⟨hx, hy, hz⟩
        · exact .inl ⟨hx, hy, hrows hz⟩
        · exact .inl ⟨hx', hrows hy, hz⟩
        · exact .inr ⟨hx, hy, hz⟩

end Restriction

/-! ## Filters -/

namespace Filter

/-- Whether both filters restrict nothing, or two restrictions that are alike. -/
inductive Alike (table : Table) (record : Json) : Filter → Filter → Prop
  | unrestricted : Alike table record .unrestricted .unrestricted
  | restricted {x y : Restriction 0} (h : x.Alike table record y) :
    Alike table record (.restricted x) (.restricted y)

/-- A filter with a gap: the gap itself, a combination with the gap on one
side, or a complement. -/
inductive Frame
  | here
  | left (c : Connective) (frame : Frame) (y : Filter)
  | right (c : Connective) (x : Filter) (frame : Frame)
  | complement (frame : Frame)

/-- The filter with a part in its gap. -/
def Frame.fill (part : Filter) : Frame → Filter
  | here => part
  | left c frame y => .combine c (frame.fill part) y
  | right c x frame => .combine c x (frame.fill part)
  | complement frame => (frame.fill part).negate

variable {table : Table} {record : Json} {c : Connective} {x x' y y' : Filter}

namespace Alike

protected theorem refl (x : Filter) : x.Alike table record x := by
  cases x with
  | unrestricted => exact .unrestricted
  | restricted r => exact .restricted (.refl r)

theorem combine (hx : x.Alike table record x') (hy : y.Alike table record y') :
    (combine c x y).Alike table record (.combine c x' y') := by
  cases hx with
  | unrestricted => exact hy
  | restricted hx =>
    cases hy with
    | unrestricted => exact .restricted hx
    | restricted hy => exact .restricted (hx.combine hy)

theorem negate (h : x.Alike table record x') : x.negate.Alike table record x'.negate := by
  cases h with
  | unrestricted => exact .unrestricted
  | restricted h => exact .restricted h.not

theorem accepts_eq (h : x.Alike table record x') :
    x.accepts table record = x'.accepts table record := by
  cases h with
  | unrestricted => rfl
  | restricted h =>
    rw [Bool.eq_iff_iff, accepts_restricted, accepts_restricted]
    exact h.attains_iff true

/-- **Filters that are alike can be exchanged in any larger filter.** -/
theorem accepts_fill (h : x.Alike table record x') (frame : Frame) :
    (frame.fill x).accepts table record = (frame.fill x').accepts table record := by
  have hfill : (frame.fill x).Alike table record (frame.fill x') := by
    induction frame with
    | here => exact h
    | left c frame y ih => exact ih.combine (.refl y)
    | right c y frame ih => exact (Alike.refl y).combine ih
    | complement frame ih => exact ih.negate
  exact hfill.accepts_eq

end Alike

theorem alike_combine_comm : (combine c x y).Alike table record (combine c y x) := by
  cases x <;> cases y
  · exact .refl _
  · exact .refl _
  · exact .refl _
  · exact .restricted Restriction.alike_combine_comm

theorem alike_combine_self : (combine c x x).Alike table record x := by
  cases x with
  | unrestricted => exact .refl _
  | restricted r => exact .restricted Restriction.alike_combine_self

theorem alike_negate_negate : x.negate.negate.Alike table record x := by
  cases x with
  | unrestricted => exact .refl _
  | restricted r => exact .restricted Restriction.alike_not_not

theorem alike_negate_combine :
    (combine c x y).negate.Alike table record (combine c.dual x.negate y.negate) := by
  cases x <;> cases y
  · exact .refl _
  · exact .refl _
  · exact .refl _
  · exact .restricted Restriction.alike_not_combine

/-- One connective distributes over the other as long as all parts restrict something. -/
theorem alike_combine_combine {z : Filter} (hx : x.isUnrestricted = false)
    (hy : y.isUnrestricted = false) (hz : z.isUnrestricted = false) :
    (combine c x (combine c.dual y z)).Alike table record
      (combine c.dual (combine c x y) (combine c x z)) := by
  cases x with
  | unrestricted => exact absurd hx Bool.true_eq_false.mp
  | restricted x =>
    cases y with
    | unrestricted => exact absurd hy Bool.true_eq_false.mp
    | restricted y =>
      cases z with
      | unrestricted => exact absurd hz Bool.true_eq_false.mp
      | restricted z => exact .restricted Restriction.alike_combine_combine

/-- **The Boolean laws of filters.**  Filters can be rearranged by commutativity, idempotence,
double complement and the laws of De Morgan, whether they restrict something or not, and by
distributivity if all of them do.  The two sides accept the same records, by themselves and as
parts of any larger filter. -/
theorem accepts_laws (table : Table) (a b c : Filter) :
    let same (x y : Filter) : Prop := ∀ (frame : Frame) (record : Json),
      (frame.fill x).accepts table record = (frame.fill y).accepts table record
    same (a &&& b) (b &&& a) ∧ same (a ||| b) (b ||| a) ∧
    same (a &&& a) a ∧ same (a ||| a) a ∧
    same (~~~(~~~a)) a ∧
    same (~~~(a &&& b)) (~~~a ||| ~~~b) ∧ same (~~~(a ||| b)) (~~~a &&& ~~~b) ∧
    (a.isUnrestricted = false → b.isUnrestricted = false → c.isUnrestricted = false →
      same (a &&& (b ||| c)) ((a &&& b) ||| (a &&& c)) ∧
      same (a ||| (b &&& c)) ((a ||| b) &&& (a ||| c))) := by
  intro same
  have hsame : ∀ x y : Filter, (∀ record, x.Alike table record y) → same x y :=
    fun x y h frame record => (h record).accepts_fill frame
  refine ⟨hsame _ _ fun _ => ?_, hsame _ _ fun _ => ?_, hsame _ _ fun _ => ?_,
    hsame _ _ fun _ => ?_, hsame _ _ fun _ => ?_, hsame _ _ fun _ => ?_, hsame _ _ fun _ => ?_,
    fun ha hb hc => ⟨hsame _ _ fun _ => ?_, hsame _ _ fun _ => ?_⟩⟩
  · exact alike_combine_comm
  · exact alike_combine_comm
  · exact alike_combine_self
  · exact alike_combine_self
  · exact alike_negate_negate
  · exact alike_negate_combine
  · exact alike_negate_combine
  · exact alike_combine_combine (c := .conj) ha hb hc
  · exact alike_combine_combine (c := .disj) ha hb hc

/-- A condition on ratings is realized once on one side and twice on the other, and the
complements of both sides accept a show with a low rating. -/
theorem accepts_laws_ratings :
    let ratings : Collection := ⟨"ratings", "show_id", ⟨"ratings", "id"⟩⟩
    let titled : Filter := .field "title" (.isNull true)
    let atLeast (stars : Int64) : Filter := .restricted (.withJoin (.joined .root
      (.collection ratings)) (.column ⟨.bound 0, [], "stars"⟩ (.compare .ge (.int stars))))
    let once : Filter := atLeast 4 ||| (titled &&& atLeast 3)
    let twice : Filter := (atLeast 4 ||| titled) &&& (atLeast 4 ||| atLeast 3)
    let rating (stars : Int) : Json := .object [("stars", .number (.integer stars))]
    let record : Json :=
      .object [("title", .text "Dark"), ("ratings", .array [rating 2, rating 5])]
    (once.selection ⟨"shows", "id"⟩).joins.length = 2 ∧
      (twice.selection ⟨"shows", "id"⟩).joins.length = 3 ∧
      (~~~once).accepts ⟨"shows", "id"⟩ record = true ∧
      (~~~twice).accepts ⟨"shows", "id"⟩ record = true := by
  intro ratings titled atLeast once twice rating record
  have honce : (~~~once).accepts ⟨"shows", "id"⟩ record = true := by decide
  obtain ⟨-, -, -, -, -, -, -, hdistributive⟩ :=
    accepts_laws ⟨"shows", "id"⟩ (atLeast 4) titled (atLeast 3)
  have hsame := (hdistributive rfl rfl rfl).2 (.complement .here) record
  exact ⟨rfl, rfl, honce, hsame.symm.trans honce⟩

/-- Distributivity fails for what restricts nothing: on one side it is left out of the
alternatives, and on the other side it leaves one of them without its condition. -/
example :
    let named (title : String) : Filter := .field "title" (.compare .eq (.text title))
    let record : Json := .object [("title", .text "Dark")]
    (named "Dark" &&& (.unrestricted ||| named "Lost")).accepts ⟨"shows", "id"⟩ record = false ∧
      ((named "Dark" &&& .unrestricted) ||| (named "Dark" &&& named "Lost")).accepts
        ⟨"shows", "id"⟩ record = true := by
  decide

end Filter

end RecordQuery
