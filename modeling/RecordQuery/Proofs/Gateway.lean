import RecordQuery.Gateway
import RecordQuery.Proofs.Reading
import RecordQuery.Proofs.Settings
import RecordQuery.Proofs.Sql.Delimiting
import RecordQuery.Proofs.Sql.TableNames

/-!
# Gateways are safe

There is no gateway but over settings that passed their check, and nothing is done for settings
that did not.  So the schema of a gateway is a plain name, and that is what its statements say
wherever they name a table.

## Main Definitions

* `Gateway.inquiry` — what a gateway is asked
* `Gateway.qualifier` — what stands in front of every table

## Main Statements

* `Gateway.ofSettings_eq_error_iff`, `Gateway.ofSettings_eq_ok_iff` — which gateways there are
* `Gateway.connectBy_of_check_eq_error` — refused settings open no connection
* `Gateway.text_eq_of_opensTable` — a table in the text of a statement
* `Gateway.accepts_exactly_safe` — exactly the safe settings are accepted, and statements show
  it
-/

namespace RecordQuery

/-! ## Tables of a statement -/

/-- The subqueries of a written condition are over tables of the schema. -/
theorem Condition.withinSchema_of_mem_search {schema : Option String} {first : Int32}
    {condition : Condition} {p : Sql.Predicate}
    (hp : p ∈ Formula.atoms (condition.search schema first)) : p.WithinSchema schema := by
  rw [atoms_search] at hp
  obtain ⟨⟨k, a⟩, -, rfl⟩ := List.mem_map.1 hp
  cases a with
  | column c test => cases test <;> trivial
  | related r presence => cases presence <;> rfl

namespace Inquiry

theorem schema_query (q : Inquiry) : q.statement.query.schema = q.schema := by
  rw [statement_eq]
  rfl

/-- The statement of an inquiry names tables of its schema only. -/
theorem namesTables_query (q : Inquiry) :
    Sql.NamesTables q.schema q.statement.query.lexemes := by
  rw [← schema_query]
  refine Sql.Query.namesTables_lexemes fun f hf p hp => ?_
  rw [condition_query] at hf
  obtain ⟨condition, -, rfl⟩ := Option.map_eq_some_iff.1 hf
  rw [schema_query]
  exact Condition.withinSchema_of_mem_search hp

end Inquiry

/-- Which statement is made for a request. -/
def Request.purpose : Request → Purpose
  | all => .rows {}
  | allWith options => .rows options
  | one => .rows .single
  | count => .count
  | «exists» => .existence

namespace Gateway

/-- What a gateway is asked. -/
def inquiry (gateway : Gateway) (table : Table) (filter : Filter) (request : Request) :
    Inquiry :=
  ⟨table, gateway.settings.schema, filter, request.purpose⟩

theorem statement_inquiry (gateway : Gateway) (table : Table) (filter : Filter)
    (request : Request) :
    (gateway.inquiry table filter request).statement
      = gateway.statement table filter request := by
  cases request <;> rfl

/-- What stands in front of every table: the schema between marks, if there is one. -/
def qualifier (gateway : Gateway) : String :=
  gateway.settings.schema.elim "" fun schema => "\"" ++ schema ++ "\"" ++ "."

/-- The schema of a gateway is a plain name, so it stands between its marks as it is. -/
theorem tableText_schema (gateway : Gateway) (table : String) :
    Sql.tableText gateway.settings.schema table
      = gateway.qualifier ++ Sql.quoteIdentifier table := by
  rw [qualifier]
  cases hschema : gateway.settings.schema with
  | none => rw [Sql.tableText_none, Option.elim_none, String.empty_append]
  | some schema =>
    have hplain : Sql.IsPlainName schema :=
      Settings.isPlainName_of_check gateway.check_eq_ok hschema
    rw [Sql.tableText_some, hplain.quoteIdentifier_eq, Option.elim_some]

/-- **A table in the text of a statement** has the schema of the gateway in front of it. -/
theorem text_eq_of_opensTable {gateway : Gateway} {table : Table} {filter : Filter}
    {request : Request} {before after : List Sql.Lexeme} {k : Sql.Keyword}
    (h : (gateway.statement table filter request).query.lexemes = before ++ .keyword k :: after)
    (hk : (Sql.Lexeme.keyword k).opensTable) :
    ∃ target rest, (gateway.statement table filter request).text
      = Sql.render before ++ k.text ++ " " ++ (gateway.qualifier ++ Sql.quoteIdentifier target)
        ++ " " ++ rest := by
  have hnames := (gateway.inquiry table filter request).namesTables_query
  rw [statement_inquiry] at hnames
  obtain ⟨target, rest, rfl⟩ := hnames (.keyword k) after ⟨before, h.symm⟩ hk
  refine ⟨target, Sql.render rest, ?_⟩
  rw [← tableText_schema, Sql.Statement.text, Sql.Query.text, h, ← String.toList_inj]
  simp [Sql.render, Sql.renderChars, Sql.tableText, Sql.Lexeme.chars, inquiry]

/-! ## Gateways -/

theorem ofSettings_eq_error_iff {settings : Settings} {error : QueryError} :
    ofSettings settings = .error error ↔ settings.check = .error error := by
  unfold ofSettings
  split
  · next hcheck => simp only [hcheck, reduceCtorEq]
  · next error' hcheck => rw [hcheck, Except.error.injEq, Except.error.injEq]

/-- A gateway has the settings that it was made for, and there is one for all that pass. -/
theorem ofSettings_eq_ok_iff {settings : Settings} {gateway : Gateway} :
    ofSettings settings = .ok gateway ↔ gateway.settings = settings := by
  unfold ofSettings
  constructor
  · intro h
    split at h
    · obtain rfl := Except.ok.inj h
      rfl
    · exact absurd h nofun
  · rintro rfl
    split
    · rfl
    · next error hcheck =>
      rw [gateway.check_eq_ok] at hcheck
      exact absurd hcheck nofun

section Connecting

variable {m : Type → Type} [Monad m] {dial : Settings → m (Except QueryError Unit)}

/-- Refused settings open no connection: whatever dialing does, it is not done. -/
theorem connectBy_of_check_eq_error {settings : Settings} {error : QueryError}
    (h : settings.check = .error error) : connectBy dial settings = pure (.error error) := by
  rw [connectBy, ofSettings_eq_error_iff.2 h]

/-- With the settings of a gateway a connection is opened. -/
theorem connectBy_settings (gateway : Gateway) : connectBy dial gateway.settings = do
    let dialed ← dial gateway.settings
    return dialed.map fun () => gateway := by
  rw [connectBy, ofSettings_eq_ok_iff.2 rfl]

end Connecting

/-! ## Safety -/

/-- **Exactly the safe settings are accepted.**  The names that pass are the plain ones.
Settings that are given one after the other fail for the last schema if it is no plain name,
else if the last bound on connections is zero, and else not at all.  A gateway is made of
settings that do not fail, and for those that do no connection is opened.  So in every statement
of a gateway, wherever a table is named, its schema is spelled as it was given. -/
theorem accepts_exactly_safe :
    (∀ name, Sql.checkIdentifier name = .ok () ↔ Sql.IsPlainName name) ∧
    (∀ (address : String) (changes : List Setting),
      (∀ error, (Settings.ofList address changes).check = .error error
        ↔ Settings.Refused changes error) ∧
      (∀ error, Settings.Refused changes error → error.IsValidation) ∧
      ((∃ error, (Settings.ofList address changes).check = .error error)
        ↔ (∃ name, Settings.lastSchema? changes = some name ∧ ¬Sql.IsPlainName name)
          ∨ Settings.lastMaxConnections? changes = some 0)) ∧
    (∀ settings : Settings,
      (∀ error, ofSettings settings = .error error ↔ settings.check = .error error) ∧
      (∀ gateway, ofSettings settings = .ok gateway ↔ gateway.settings = settings)) ∧
    (∀ (m : Type → Type) [Monad m] (dial : Settings → m (Except QueryError Unit)),
      (∀ settings error, settings.check = .error error →
        connectBy dial settings = pure (.error error)) ∧
      ∀ gateway : Gateway, connectBy dial gateway.settings = do
        let dialed ← dial gateway.settings
        return dialed.map fun () => gateway) ∧
    ∀ (gateway : Gateway) (table : Table) (filter : Filter) (request : Request),
      let statement := gateway.statement table filter request
      Sql.tokenize? statement.text.toList = some (Sql.tokens statement.query.lexemes) ∧
      ∀ before k after, statement.query.lexemes = before ++ .keyword k :: after →
        k = .from ∨ k = .join → ∃ target rest,
          statement.text = Sql.render before ++ k.text ++ " "
            ++ (gateway.qualifier ++ Sql.quoteIdentifier target) ++ " " ++ rest := by
  refine ⟨fun _ => Sql.checkIdentifier_eq_ok_iff, fun address changes => ⟨?_, ?_, ?_⟩,
    fun settings => ⟨fun _ => ofSettings_eq_error_iff, fun _ => ofSettings_eq_ok_iff⟩,
    fun m _ dial => ⟨fun _ _ => connectBy_of_check_eq_error, connectBy_settings⟩,
    fun gateway table filter request => ⟨?_, ?_⟩⟩
  · exact fun error => Settings.check_eq_error_iff
  · exact fun error => Settings.Refused.isValidation
  · rw [← Settings.exists_refused_iff]
    exact exists_congr fun error => Settings.check_eq_error_iff
  · rw [← statement_inquiry]
    exact (gateway.inquiry table filter request).tokenize?_text
  · intro before k after h hk
    refine text_eq_of_opensTable h ?_
    rcases hk with rfl | rfl <;> rfl

/-- The schema that was named last is refused before the bound is looked at.  One that is
accepted stands in front of the table of a subquery, too. -/
theorem accepts_exactly_safe_media :
    let refused : List Setting := [.schema "media", .maxConnections 0, .schema "order"]
    let accepted : List Setting :=
      [.schema "Media", .maxConnections 0, .schema "media", .maxConnections 2]
    let address := "postgres://localhost/tv"
    let shows : Table := ⟨"shows", "id"⟩
    let filter : Filter := .collection ⟨"genres", "show_id", ⟨"genres", "id"⟩⟩ (.empty true)
    let error : QueryError := .invalidSchema (.reserved "order")
    Settings.Refused refused error ∧ error.IsValidation ∧
    (Settings.ofList address refused).check = .error error ∧
    (∀ (m : Type → Type) [Monad m] (dial : Settings → m (Except QueryError Unit)),
      connectBy dial (Settings.ofList address refused) = pure (.error error)) ∧
    ∃ gateway, ofSettings (Settings.ofList address accepted) = .ok gateway ∧
      (gateway.statement shows filter .count).text
        = "SELECT COUNT(*) FROM \"media\".\"shows\" t0 WHERE EXISTS (SELECT 1 FROM "
          ++ "\"media\".\"genres\" m WHERE m.\"show_id\" = t0.\"id\")" ∧
      gateway.qualifier = "\"media\"." ∧
      ∃ target rest, (gateway.statement shows filter .count).text
        = "SELECT COUNT(*) FROM \"media\".\"shows\" t0 WHERE EXISTS (SELECT 1 " ++ "FROM" ++ " "
          ++ (gateway.qualifier ++ Sql.quoteIdentifier target) ++ " " ++ rest := by
  intro refused accepted address shows filter error
  obtain ⟨-, hsettings, hgateways, hconnect, htables⟩ := accepts_exactly_safe
  obtain ⟨hcheck, hvalidation, -⟩ := hsettings address refused
  have hrefused : Settings.Refused refused error := .schema rfl rfl
  have herror := (hcheck error).2 hrefused
  let gateway : Gateway := ⟨Settings.ofList address accepted, rfl⟩
  have hgateway : ofSettings (Settings.ofList address accepted) = .ok gateway :=
    ((hgateways _).2 gateway).2 rfl
  refine ⟨hrefused, hvalidation error hrefused, herror, fun m _ dial =>
    (hconnect m dial).1 _ error herror, gateway, hgateway, by decide +kernel, by decide, ?_⟩
  let lexemes := (gateway.statement shows filter .count).query.lexemes
  obtain ⟨target, rest, htext⟩ :=
    (htables gateway shows filter .count).2 (lexemes.take 24) .from
    (lexemes.drop 25) (by decide +kernel) (.inl rfl)
  have hbefore : Sql.render (lexemes.take 24)
      = "SELECT COUNT(*) FROM \"media\".\"shows\" t0 WHERE EXISTS (SELECT 1 " := by
    decide +kernel
  rw [hbefore] at htext
  exact ⟨target, rest, htext⟩

end Gateway

end RecordQuery
