import RecordQuery.Proofs.Sql.Lexing

/-!
# Quoted names end themselves

Where a quoted name ends can be told from the text alone, whatever characters the name is made
of and whatever follows it.  So no two names are written alike, and a table in front of a blank
tells its schema, if it has one, and its name.

## Main Definitions

* `Sql.readIdentifier?` — reads a quoted name at the front of a text
* `Sql.tableText` — a table as it stands in a statement
* `Sql.readTable?` — reads a table at the front of a text

## Main Statements

* `Sql.readQuoted?_eq_some_iff` — a quoted text is read where one is written, and nowhere else
* `Sql.readTable?_tableText_append` — a table is read back with its schema
* `Sql.quoteIdentifier_delimited` — quoted names are self-delimiting

## Design Notes

The rest behind a quoted name must not start with a quotation mark: with the closing mark it
would be read as a doubled one.  The rest behind a table must not start with a dot either, or
the name of the table would be read as that of a schema.
-/

namespace RecordQuery

namespace Sql

/-! ## Quoted texts -/

/-- What is read in quotation marks is written there with its marks doubled. -/
theorem eq_of_readQuoted?_eq_some {mark : Char} {cs read rest : List Char}
    (h : readQuoted? mark cs = some (read, rest)) :
    cs = doubled mark read ++ mark :: rest ∧ rest.head? ≠ some mark := by
  fun_induction readQuoted? mark cs generalizing read with
  | case1 => contradiction
  | case2 =>
    obtain ⟨rfl, rfl⟩ := Prod.mk.inj (Option.some.inj h)
    exact ⟨rfl, (Option.some_ne_none mark).symm⟩
  | case3 => contradiction
  | case4 c d cs hc ih =>
    obtain ⟨⟨front, back⟩, hfront, hparts⟩ := Option.map_eq_some_iff.1 h
    obtain ⟨rfl, rfl⟩ := Prod.mk.inj hparts
    obtain ⟨hcs, hback⟩ := ih hfront
    refine ⟨?_, hback⟩
    rw [hcs, doubled_cons, if_neg hc]
    rfl
  | case5 c cs hc ih =>
    obtain ⟨⟨front, back⟩, hfront, hparts⟩ := Option.map_eq_some_iff.1 h
    obtain ⟨rfl, rfl⟩ := Prod.mk.inj hparts
    obtain ⟨hcs, hback⟩ := ih hfront
    refine ⟨?_, hback⟩
    rw [hcs, doubled_cons, if_pos rfl, not_not.1 hc]
    rfl
  | case6 c d cs hc hd =>
    obtain ⟨rfl, rfl⟩ := Prod.mk.inj (Option.some.inj h)
    rw [not_not.1 hc]
    exact ⟨rfl, fun hhead => hd (Option.some.inj hhead)⟩

/-- **A quoted text is read exactly where one is written**, up to a closing mark that
no other mark follows. -/
theorem readQuoted?_eq_some_iff {mark : Char} {cs read rest : List Char} :
    readQuoted? mark cs = some (read, rest)
      ↔ cs = doubled mark read ++ mark :: rest ∧ rest.head? ≠ some mark := by
  constructor
  · exact eq_of_readQuoted?_eq_some
  · rintro ⟨rfl, hrest⟩
    exact readQuoted?_doubled hrest read

/-! ## Names -/

/-- Reads a quoted name at the front of a text: the name, and what follows its closing mark. -/
def readIdentifier? (text : String) : Option (String × String) :=
  match text.toList with
  | '"' :: cs =>
    (readQuoted? '"' cs).map fun (read, rest) => (String.ofList read, String.ofList rest)
  | _ => none

theorem toList_quoteIdentifier_append (name rest : String) :
    (quoteIdentifier name ++ rest).toList
      = '"' :: (doubled '"' name.toList ++ '"' :: rest.toList) := by
  simp [quoteIdentifier, quoted]

/-- A quoted name is read exactly where one is written. -/
theorem readIdentifier?_eq_some_iff {text name rest : String} :
    readIdentifier? text = some (name, rest)
      ↔ text = quoteIdentifier name ++ rest ∧ rest.toList.head? ≠ some '"' := by
  rw [← String.toList_inj, toList_quoteIdentifier_append]
  unfold readIdentifier?
  split
  · next cs htext =>
    simp only [htext, List.cons.injEq, true_and, Option.map_eq_some_iff, Prod.exists,
      readQuoted?_eq_some_iff, Prod.mk.injEq]
    constructor
    · rintro ⟨read, after, hcs, rfl, rfl⟩
      simpa only [String.toList_ofList] using hcs
    · intro h
      exact ⟨name.toList, rest.toList, h, String.ofList_toList, String.ofList_toList⟩
  · next hquote =>
    constructor
    · nofun
    · rintro ⟨htext, -⟩
      exact absurd htext (hquote _)

/-! ## Tables -/

/-- A table as it stands in a statement. -/
def tableText (schema : Option String) (table : String) : String :=
  render (tableLexemes schema table)

/-- Reads a table at the front of a text: a quoted name, or two of them
with a dot in between. -/
def readTable? (text : String) : Option ((Option String × String) × String) :=
  (readIdentifier? text).bind fun (name, rest) =>
    match rest.toList with
    | '.' :: cs =>
      (readIdentifier? (String.ofList cs)).map fun (table, rest) => ((some name, table), rest)
    | _ => some ((none, name), rest)

theorem tableText_none (table : String) : tableText none table = quoteIdentifier table := by
  simp [tableText, tableLexemes, render, renderChars, Lexeme.chars, quoteIdentifier]

theorem tableText_some (schema table : String) :
    tableText (some schema) table = quoteIdentifier schema ++ "." ++ quoteIdentifier table := by
  rw [← String.toList_inj]
  simp [tableText, tableLexemes, render, renderChars, Lexeme.chars, quoteIdentifier,
    Symbol.text]

/-- **A table is read back with its schema.** -/
theorem readTable?_tableText_append (schema : Option String) (table : String) {rest : String}
    (hmark : rest.toList.head? ≠ some '"') (hdot : rest.toList.head? ≠ some '.') :
    readTable? (tableText schema table ++ rest) = some ((schema, table), rest) := by
  cases schema with
  | none =>
    have hname : readIdentifier? (tableText none table ++ rest) = some (table, rest) :=
      readIdentifier?_eq_some_iff.2 ⟨by rw [tableText_none], hmark⟩
    rw [readTable?, hname, Option.bind_some]
    dsimp only
    split
    · next cs hrest =>
      rw [hrest, List.head?_cons] at hdot
      exact absurd rfl hdot
    · rfl
  | some schema =>
    have htable : readIdentifier? (quoteIdentifier table ++ rest) = some (table, rest) :=
      readIdentifier?_eq_some_iff.2 ⟨rfl, hmark⟩
    have hdotted : ("." ++ (quoteIdentifier table ++ rest)).toList
        = '.' :: (quoteIdentifier table ++ rest).toList := by
      rw [String.toList_append]
      rfl
    have hschema : readIdentifier? (tableText (some schema) table ++ rest)
        = some (schema, "." ++ (quoteIdentifier table ++ rest)) := by
      refine readIdentifier?_eq_some_iff.2 ⟨?_, ?_⟩
      · rw [tableText_some]
        simp only [String.append_assoc]
      · rw [hdotted, List.head?_cons]
        decide
    rw [readTable?, hschema, Option.bind_some]
    dsimp only
    rw [hdotted]
    show (readIdentifier? (String.ofList (quoteIdentifier table ++ rest).toList)).map _ = _
    rw [String.ofList_toList, htable, Option.map_some]

/-- **Quoted names are self-delimiting.**  A quoted name is read at the front of a text exactly
if the text goes on with the quoted name and then with the rest, and no mark is in front of the
rest.  So no two names are written alike, and in front of a blank a table tells whether it has a
schema, which one, and its name. -/
theorem quoteIdentifier_delimited :
    (∀ text name rest : String, readIdentifier? text = some (name, rest)
      ↔ text = quoteIdentifier name ++ rest ∧ rest.toList.head? ≠ some '"') ∧
    Function.Injective quoteIdentifier ∧
    ∀ (schema schema' : Option String) (table table' rest rest' : String),
      tableText schema table ++ " " ++ rest = tableText schema' table' ++ " " ++ rest'
        ↔ schema = schema' ∧ table = table' ∧ rest = rest' := by
  refine ⟨fun _ _ _ => readIdentifier?_eq_some_iff, ?_, ?_⟩
  · intro name name' h
    have hread : ∀ name, readIdentifier? (quoteIdentifier name ++ "") = some (name, "") :=
      fun name => readIdentifier?_eq_some_iff.2 ⟨rfl, nofun⟩
    have hsame : some (name, "") = some (name', "") := by rw [← hread, h, hread]
    exact (Prod.mk.inj (Option.some.inj hsame)).1
  · intro schema schema' table table' rest rest'
    have hread : ∀ schema table rest, readTable? (tableText schema table ++ " " ++ rest)
        = some ((schema, table), " " ++ rest) := by
      intro schema table rest
      have hblank : (" " ++ rest).toList.head? = some ' ' := by
        rw [String.toList_append]
        rfl
      rw [String.append_assoc]
      exact readTable?_tableText_append schema table (by rw [hblank]; decide)
        (by rw [hblank]; decide)
    constructor
    · intro h
      have hsame : some ((schema, table), " " ++ rest)
          = some ((schema', table'), " " ++ rest') := by
        rw [← hread, h, hread]
      obtain ⟨htable, hrest⟩ := Prod.mk.inj (Option.some.inj hsame)
      obtain ⟨hschema, htable⟩ := Prod.mk.inj htable
      exact ⟨hschema, htable, (String.append_right_inj " ").1 hrest⟩
    · rintro ⟨rfl, rfl, rfl⟩
      rfl

/-- With a dot behind it a table without a schema looks like a schema. -/
example : tableText none "a" ++ ".\"b\"" = tableText (some "a") "b" := by decide

end Sql

end RecordQuery
