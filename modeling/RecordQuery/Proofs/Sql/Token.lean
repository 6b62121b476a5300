import Mathlib.Tactic.SplitIfs
import RecordQuery.Sql.Lexeme

/-!
# Tokens of SQL

Splits the text of a statement into tokens by the lexical rules of SQL, without a look at how
the text was made.

## Main Definitions

* `Sql.Token` — keywords, other words, symbols, quoted names and texts, placeholders and numbers
* `Sql.readQuoted?` — reads a quoted text up to its closing mark
* `Sql.readToken?` — reads the token at the front of a text
* `Sql.tokenize?` — the tokens of a text

## Design Notes

In a quoted text a doubled mark stands for one, and every other character for itself; a
backslash is nothing special.  A word or a number ends where no letter, digit or
underscore follows.  The reader refuses what the statements have no use for instead of
guessing at it: comments, texts with a letter or a dollar sign before their mark,
operators other than comparisons.

A placeholder is a dollar sign and a number.  The number may carry a minus sign, since the
numbering of a condition by itself may start anywhere.
-/

namespace RecordQuery

namespace Sql

/-- A token of SQL. -/
inductive Token
  | keyword (k : Keyword)
  /-- A word that is no keyword. -/
  | word (s : String)
  | symbol (s : Symbol)
  /-- A quoted name, without its marks. -/
  | name (s : String)
  /-- A quoted text, without its marks. -/
  | literal (s : String)
  | placeholder (n : Int)
  | numeral (n : Nat)
  deriving DecidableEq, Repr

/-- All keywords. -/
def Keyword.all : List Keyword :=
  [.and, .asc, .between, .by, .count, .desc, .distinct, .escape, .exists, .false, .from, .in,
    .inner, .is, .join, .like, .limit, .not, .null, .offset, .on, .or, .order, .select, .true,
    .where]

/-- The keyword with the given text. -/
def Keyword.ofText? (text : List Char) : Option Keyword :=
  Keyword.all.find? fun k => k.text.toList == text

/-- Reads a quoted text of which the opening mark has been read: what stands in it, and what
follows its closing mark. -/
def readQuoted? (mark : Char) : List Char → Option (List Char × List Char)
  | [] => none
  | [c] => if c = mark then some ([], []) else none
  | c :: d :: cs =>
    if c ≠ mark then
      (readQuoted? mark (d :: cs)).map fun (read, rest) => (c :: read, rest)
    else if d = mark then (readQuoted? mark cs).map fun (read, rest) => (mark :: read, rest)
    else some ([], d :: cs)

/-- Whether a character may stand in a word or a number. -/
def isWordPart (c : Char) : Bool := c.isAlphanum || c == '_'

/-- Whether a character opens a quoted text. -/
def isMark (c : Char) : Bool := c == '"' || c == '\''

/-- Reads the longest run of characters of a word.  A run must not touch a quotation mark: it
would change how the quoted text is read. -/
def readRun? (cs : List Char) : Option (List Char × List Char) :=
  if (cs.dropWhile isWordPart).head?.any isMark then none
  else some (cs.takeWhile isWordPart, cs.dropWhile isWordPart)

/-- The number that a run of digits stands for. -/
def numberOfRun? (run : List Char) : Option Nat :=
  if run ≠ [] ∧ run.all Char.isDigit then some (Nat.ofDigitChars 10 run 0) else none

/-- The token that a run stands for: a number if a digit leads, and otherwise a word. -/
def tokenOfRun? (run : List Char) : Option Token :=
  if run.head?.any Char.isDigit then (numberOfRun? run).map .numeral
  else
    match Keyword.ofText? run with
    | some k => some (.keyword k)
    | none => some (.word (String.ofList run))

/-- Reads a natural number. -/
def readNumber? (cs : List Char) : Option (Nat × List Char) :=
  (readRun? cs).bind fun (run, rest) => (numberOfRun? run).map (·, rest)

/-- Reads the number of a placeholder. -/
def readPlaceholder? (cs : List Char) : Option (Int × List Char) :=
  if cs.head? = some '-' then (readNumber? cs.tail).map fun (n, rest) => (-n, rest)
  else (readNumber? cs).map fun (n, rest) => (n, rest)

/-- Reads a symbol, given its first character; the longest one counts. -/
def readSymbol? : Char → List Char → Option (Symbol × List Char)
  | '.', cs => some (.dot, cs)
  | ',', cs => some (.comma, cs)
  | '(', cs => some (.open, cs)
  | ')', cs => some (.close, cs)
  | '*', cs => some (.star, cs)
  | '=', cs => some (.eq, cs)
  | '<', '>' :: cs => some (.ne, cs)
  | '<', '=' :: cs => some (.le, cs)
  | '<', cs => some (.lt, cs)
  | '>', '=' :: cs => some (.ge, cs)
  | '>', cs => some (.gt, cs)
  | _, _ => none

/-- Reads a token, given its first character. -/
def readToken? (c : Char) (cs : List Char) : Option (Token × List Char) :=
  if c = '"' then
    (readQuoted? '"' cs).map fun (read, rest) => (.name (String.ofList read), rest)
  else if c = '\'' then
    (readQuoted? '\'' cs).map fun (read, rest) => (.literal (String.ofList read), rest)
  else if c = '$' then
    (readPlaceholder? cs).map fun (n, rest) => (.placeholder n, rest)
  else if isWordPart c then do
    let (run, rest) ← readRun? cs
    let token ← tokenOfRun? (c :: run)
    return (token, rest)
  else (readSymbol? c cs).map fun (s, rest) => (.symbol s, rest)

theorem length_le_of_readQuoted? {mark : Char} {cs read rest : List Char}
    (h : readQuoted? mark cs = some (read, rest)) : rest.length ≤ cs.length := by
  fun_induction readQuoted? mark cs generalizing read with
  | case1 => simp at h
  | case2 => simp_all
  | case3 => simp at h
  | case4 c d cs hc ih =>
    obtain ⟨⟨_, _⟩, hrest, hparts⟩ := Option.map_eq_some_iff.1 h
    obtain ⟨-, rfl⟩ := Prod.mk.inj hparts
    exact Nat.le_succ_of_le (ih hrest)
  | case5 c cs hc ih =>
    obtain ⟨⟨_, _⟩, hrest, hparts⟩ := Option.map_eq_some_iff.1 h
    obtain ⟨-, rfl⟩ := Prod.mk.inj hparts
    exact Nat.le_succ_of_le (Nat.le_succ_of_le (ih hrest))
  | case6 c d cs hc hd =>
    obtain ⟨-, rfl⟩ := Prod.mk.inj (Option.some.inj h)
    exact Nat.le_succ _

theorem length_le_of_readRun? {cs run rest : List Char} (h : readRun? cs = some (run, rest)) :
    rest.length ≤ cs.length := by
  unfold readRun? at h
  split at h
  · simp at h
  · obtain ⟨-, rfl⟩ := Prod.mk.inj (Option.some.inj h)
    exact (List.dropWhile_sublist _).length_le

theorem length_le_of_readNumber? {cs rest : List Char} {n : Nat}
    (h : readNumber? cs = some (n, rest)) : rest.length ≤ cs.length := by
  obtain ⟨⟨_, _⟩, hrun, h⟩ := Option.bind_eq_some_iff.1 h
  obtain ⟨_, -, hparts⟩ := Option.map_eq_some_iff.1 h
  obtain ⟨-, rfl⟩ := Prod.mk.inj hparts
  exact length_le_of_readRun? hrun

theorem length_le_of_readPlaceholder? {cs rest : List Char} {n : Int}
    (h : readPlaceholder? cs = some (n, rest)) : rest.length ≤ cs.length := by
  unfold readPlaceholder? at h
  split_ifs at h
  · obtain ⟨⟨_, _⟩, hread, hparts⟩ := Option.map_eq_some_iff.1 h
    obtain ⟨-, rfl⟩ := Prod.mk.inj hparts
    exact Nat.le_trans (length_le_of_readNumber? hread) (List.tail_sublist cs).length_le
  · obtain ⟨⟨_, _⟩, hread, hparts⟩ := Option.map_eq_some_iff.1 h
    obtain ⟨-, rfl⟩ := Prod.mk.inj hparts
    exact length_le_of_readNumber? hread

theorem length_le_of_readSymbol? {c : Char} {cs rest : List Char} {s : Symbol}
    (h : readSymbol? c cs = some (s, rest)) : rest.length ≤ cs.length := by
  unfold readSymbol? at h
  split at h <;> simp only [Option.some.injEq, Prod.mk.injEq, reduceCtorEq] at h <;>
    obtain ⟨-, rfl⟩ := h <;> simp

/-- A token takes its first character at least. -/
theorem length_le_of_readToken? {c : Char} {cs rest : List Char} {t : Token}
    (h : readToken? c cs = some (t, rest)) : rest.length ≤ cs.length := by
  unfold readToken? at h
  split_ifs at h
  · obtain ⟨⟨_, _⟩, hread, hparts⟩ := Option.map_eq_some_iff.1 h
    obtain ⟨-, rfl⟩ := Prod.mk.inj hparts
    exact length_le_of_readQuoted? hread
  · obtain ⟨⟨_, _⟩, hread, hparts⟩ := Option.map_eq_some_iff.1 h
    obtain ⟨-, rfl⟩ := Prod.mk.inj hparts
    exact length_le_of_readQuoted? hread
  · obtain ⟨⟨_, _⟩, hread, hparts⟩ := Option.map_eq_some_iff.1 h
    obtain ⟨-, rfl⟩ := Prod.mk.inj hparts
    exact length_le_of_readPlaceholder? hread
  · obtain ⟨⟨_, _⟩, hrun, h⟩ := Option.bind_eq_some_iff.1 h
    obtain ⟨_, -, h⟩ := Option.bind_eq_some_iff.1 h
    obtain ⟨-, rfl⟩ := Prod.mk.inj (Option.some.inj h)
    exact length_le_of_readRun? hrun
  · obtain ⟨⟨_, _⟩, hread, hparts⟩ := Option.map_eq_some_iff.1 h
    obtain ⟨-, rfl⟩ := Prod.mk.inj hparts
    exact length_le_of_readSymbol? hread

/-- The tokens of a text; `none` where the text is not made of tokens and blanks. -/
def tokenize? : List Char → Option (List Token)
  | [] => some []
  | c :: cs =>
    if c = ' ' then tokenize? cs
    else
      match h : readToken? c cs with
      | none => none
      | some (t, rest) =>
        have : rest.length ≤ cs.length := length_le_of_readToken? h
        (tokenize? rest).map (t :: ·)
termination_by cs => cs.length

end Sql

end RecordQuery
