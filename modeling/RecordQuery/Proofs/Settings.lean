import RecordQuery.Proofs.Sql.Identifier
import RecordQuery.Settings

/-!
# Which settings are refused

Settings are given one after the other.  Of the schemas that are given only the last one is
checked, and likewise of the bounds on connections, so the check can be told from the list.

## Main Definitions

* `Settings.lastSchema?`, `Settings.lastMaxConnections?` — what was given last
* `Settings.Refused` — why settings are refused
* `QueryError.IsValidation` — the errors that blame a setting

## Main Statements

* `Settings.foldl_eq_getLast?_or` — of a kind of settings the last one counts
* `Settings.check_eq_error_iff` — the check fails exactly as said
* `Settings.exists_refused_iff` — when it fails at all

## Design Notes

The default bound on connections passes the check, so no bound has to be given.
-/

namespace RecordQuery

/-- The error blames a setting. -/
def QueryError.IsValidation (error : QueryError) : Prop :=
  ∃ detail, error.message = "Validation error: " ++ detail

/-- The schema that a setting names. -/
def Setting.schema? : Setting → Option String
  | .schema name => some name
  | _ => none

/-- The bound on connections that a setting gives. -/
def Setting.maxConnections? : Setting → Option UInt32
  | .maxConnections n => some n
  | _ => none

namespace Settings

/-! ## The last one of a kind -/

/-- The schema that was named last. -/
def lastSchema? (changes : List Setting) : Option String :=
  (changes.filterMap Setting.schema?).getLast?

/-- The bound on connections that was given last. -/
def lastMaxConnections? (changes : List Setting) : Option UInt32 :=
  (changes.filterMap Setting.maxConnections?).getLast?

/-- **Of a kind of settings the last one counts.**  If each change either gives what is read or
leaves it as it was, then after all changes it is what was given last. -/
theorem foldl_eq_getLast?_or {α : Type} (get : Settings → Option α) (read : Setting → Option α)
    (hstep : ∀ settings change, get (settings.apply change) = (read change).or (get settings))
    (changes : List Setting) (settings : Settings) :
    get (changes.foldl apply settings)
      = (changes.filterMap read).getLast?.or (get settings) := by
  induction changes generalizing settings with
  | nil => rfl
  | cons change changes ih =>
    rw [List.foldl_cons, ih, hstep]
    cases hread : read change with
    | none => rw [List.filterMap_cons_none hread, Option.none_or]
    | some a =>
      rw [List.filterMap_cons_some hread, List.getLast?_cons]
      cases (changes.filterMap read).getLast? <;> rfl

theorem schema_ofList (address : String) (changes : List Setting) :
    (ofList address changes).schema = lastSchema? changes := by
  refine (foldl_eq_getLast?_or schema Setting.schema? ?_ changes _).trans Option.or_none
  intro settings change
  cases change <;> rfl

theorem maxConnections_ofList (address : String) (changes : List Setting) :
    (ofList address changes).maxConnections = (lastMaxConnections? changes).getD 5 := by
  have hlast : some (ofList address changes).maxConnections
      = (lastMaxConnections? changes).or (some 5) := by
    refine foldl_eq_getLast?_or (some ·.maxConnections) Setting.maxConnections? ?_ changes _
    intro settings change
    cases change <;> rfl
  rwa [Option.or_some, Option.some.injEq] at hlast

/-! ## The check -/

/-- Why settings are refused: for the last schema, or if that is none or a plain name, for the
last bound on connections. -/
inductive Refused (changes : List Setting) : QueryError → Prop
  | schema {name : String} {fault : Sql.IdentifierError}
      (hlast : lastSchema? changes = some name)
      (hfault : Sql.checkIdentifier name = .error fault) :
      Refused changes (.invalidSchema fault)
  | connections (hschema : ∀ name, lastSchema? changes = some name → Sql.IsPlainName name)
      (hlast : lastMaxConnections? changes = some 0) : Refused changes .noConnections

theorem Refused.isValidation {changes : List Setting} {error : QueryError}
    (h : Refused changes error) : error.IsValidation := by
  cases h with
  | schema => exact ⟨_, rfl⟩
  | connections => exact ⟨"max_connections must be at least 1", by decide⟩

/-- Where the schema is no reason to refuse the settings, the bound on connections decides. -/
theorem maxConnections_refused_iff {changes : List Setting} {error : QueryError}
    (hschema : ∀ name, lastSchema? changes = some name → Sql.IsPlainName name) :
    (if (lastMaxConnections? changes).getD 5 = 0 then .error .noConnections else .ok ()
      : Except QueryError Unit) = .error error ↔ Refused changes error := by
  have hzero :
      (lastMaxConnections? changes).getD 5 = 0 ↔ lastMaxConnections? changes = some 0 := by
    cases lastMaxConnections? changes with
    | none => decide
    | some n => exact (Option.some_inj).symm
  constructor
  · intro h
    split at h
    · next hnone =>
      obtain rfl := Except.error.inj h
      exact .connections hschema (hzero.1 hnone)
    · exact absurd h nofun
  · intro h
    cases h with
    | schema hlast hfault =>
      exact absurd (hschema _ hlast) (Sql.exists_checkIdentifier_eq_error_iff.1 ⟨_, hfault⟩)
    | connections _ hlast => rw [if_pos (hzero.2 hlast)]

/-- **The check fails exactly as said**, with that error and no other one. -/
theorem check_eq_error_iff {address : String} {changes : List Setting} {error : QueryError} :
    (ofList address changes).check = .error error ↔ Refused changes error := by
  rw [check, schema_ofList, maxConnections_ofList]
  cases hlast : lastSchema? changes with
  | none => exact maxConnections_refused_iff (by rw [hlast]; nofun)
  | some name =>
    rw [Option.map_some]
    cases hcheck : Sql.checkIdentifier name with
    | ok =>
      refine maxConnections_refused_iff fun name' hname' => ?_
      obtain rfl : name = name' := Option.some.inj (hlast.symm.trans hname')
      exact Sql.checkIdentifier_eq_ok_iff.1 hcheck
    | error fault =>
      constructor
      · intro h
        obtain rfl := Except.error.inj h
        exact .schema hlast hcheck
      · intro h
        cases h with
        | schema hlast' hfault =>
          obtain rfl := Option.some.inj (hlast.symm.trans hlast')
          obtain rfl := Except.error.inj (hcheck.symm.trans hfault)
          rfl
        | connections hschema =>
          exact absurd (hschema name hlast)
            (Sql.exists_checkIdentifier_eq_error_iff.1 ⟨fault, hcheck⟩)

/-- The schema of settings that pass is a plain name, however they were made. -/
theorem isPlainName_of_check {settings : Settings} (h : settings.check = .ok ()) {name : String}
    (hname : settings.schema = some name) : Sql.IsPlainName name := by
  rw [check, hname, Option.map_some] at h
  cases hcheck : Sql.checkIdentifier name with
  | ok => exact Sql.checkIdentifier_eq_ok_iff.1 hcheck
  | error fault =>
    rw [hcheck] at h
    exact absurd h nofun

/-- When settings are refused at all. -/
theorem exists_refused_iff {changes : List Setting} :
    (∃ error, Refused changes error)
      ↔ (∃ name, lastSchema? changes = some name ∧ ¬Sql.IsPlainName name)
        ∨ lastMaxConnections? changes = some 0 := by
  constructor
  · rintro ⟨error, h⟩
    cases h with
    | @schema name fault hlast hfault =>
      exact .inl ⟨name, hlast, Sql.exists_checkIdentifier_eq_error_iff.1 ⟨fault, hfault⟩⟩
    | connections _ hlast => exact .inr hlast
  · intro h
    by_cases hschema : ∃ name, lastSchema? changes = some name ∧ ¬Sql.IsPlainName name
    · obtain ⟨name, hlast, hname⟩ := hschema
      obtain ⟨fault, hfault⟩ := Sql.exists_checkIdentifier_eq_error_iff.2 hname
      exact ⟨_, .schema hlast hfault⟩
    · refine ⟨_, .connections (fun name hlast => ?_) (h.resolve_left hschema)⟩
      exact Classical.not_not.1 fun hname => hschema ⟨name, hlast, hname⟩

end Settings

end RecordQuery
