import Mathlib.Data.List.Chain
import RecordQuery.Proofs.Sql.Token

/-!
# Reading lexemes back

The text of a sequence of lexemes splits into exactly the tokens that the lexemes stand for, as
long as no two of them touch that could be taken for one.

## Main Definitions

* `Sql.Lexeme.token?` — the token that a lexeme stands for
* `Sql.Separated` — of any two lexemes that touch, one is a delimiter

## Main Statements

* `Sql.readQuoted?_doubled` — a quoted text reads as what was put in quotes
* `Sql.tokenize?_renderChars` — separated lexemes read as their tokens
-/

namespace RecordQuery

namespace Sql

/-! ## Quoted texts -/

/-- Reading a quoted text gives back what was quoted, and leaves what follows it. -/
theorem readQuoted?_doubled {mark : Char} {rest : List Char} (hrest : rest.head? ≠ some mark)
    (cs : List Char) :
    readQuoted? mark (doubled mark cs ++ mark :: rest) = some (cs, rest) := by
  induction cs with
  | nil =>
    cases rest with
    | nil => simp [doubled, readQuoted?]
    | cons d ds =>
      have hd : d ≠ mark := by simpa using hrest
      simp [doubled, readQuoted?, hd]
  | cons c cs ih =>
    rw [doubled, List.flatMap_cons, ← doubled]
    by_cases hc : c = mark
    · simp [readQuoted?, hc, ih]
    · -- the character is read alone, whether or not the closing mark comes next
      obtain ⟨d, ds, hds⟩ : ∃ d ds, doubled mark cs ++ mark :: rest = d :: ds :=
        List.exists_cons_of_ne_nil (by simp)
      simp only [hc, ↓reduceIte, List.cons_append, List.nil_append, hds, readQuoted?, ne_eq,
        not_false_eq_true]
      rw [← hds, ih, Option.map_some]

/-! ## Runs of word characters -/

/-- The characters that end every token before them. -/
def delimiters : List Char := [' ', '.', ',', '(', ')', '*']

/-- Whether a text is at its end or goes on with a delimiter. -/
def Delimited (cs : List Char) : Prop := ∀ c ∈ cs.head?, c ∈ delimiters

theorem Delimited.head?_ne {cs : List Char} (h : Delimited cs) {c : Char}
    (hc : c ∉ delimiters) : cs.head? ≠ some c :=
  fun hhead => hc (h c hhead)

/-- A run of word characters is read as a whole. -/
theorem readRun?_append {run rest : List Char} (hrun : ∀ c ∈ run, isWordPart c)
    (hrest : Delimited rest) : readRun? (run ++ rest) = some (run, rest) := by
  have hplain : ∀ c ∈ delimiters, isWordPart c = false ∧ isMark c = false := by
    have hall : delimiters.all (fun c => !isWordPart c && !isMark c) = true := rfl
    intro c hc
    simpa using List.all_eq_true.1 hall c hc
  have htake : rest.takeWhile isWordPart = [] := by
    cases rest with
    | nil => rfl
    | cons c cs => exact List.takeWhile_cons_of_neg (by simp [hplain c (hrest c rfl)])
  have hdrop : rest.dropWhile isWordPart = rest := by
    cases rest with
    | nil => rfl
    | cons c cs => exact List.dropWhile_cons_of_neg (by simp [hplain c (hrest c rfl)])
  have hmark : rest.head?.any isMark = false := by
    cases rest with
    | nil => rfl
    | cons c cs => exact (hplain c (hrest c rfl)).2
  rw [readRun?, List.takeWhile_append_of_pos hrun, List.dropWhile_append_of_pos hrun, htake,
    hdrop, hmark, List.append_nil]
  rfl

/-- A run of word characters is one token. -/
theorem readToken?_run {c : Char} {cs rest : List Char} (hrun : ∀ d ∈ c :: cs, isWordPart d)
    (hrest : Delimited rest) :
    readToken? c (cs ++ rest) = (tokenOfRun? (c :: cs)).map (·, rest) := by
  have hc : isWordPart c = true := hrun c List.mem_cons_self
  have hne : ∀ d, isWordPart d = false → c ≠ d := by
    rintro d hd rfl
    rw [hc] at hd
    exact Bool.noConfusion hd
  rw [readToken?, if_neg (hne '"' rfl), if_neg (hne '\'' rfl), if_neg (hne '$' rfl), if_pos hc,
    readRun?_append (fun d hd => hrun d (List.mem_cons_of_mem _ hd)) hrest]
  cases h : tokenOfRun? (c :: cs) <;> simp [h]

/-- The digits of a number read as the number. -/
theorem numberOfRun?_toDigits (n : Nat) : numberOfRun? (Nat.toDigits 10 n) = some n := by
  have hdigits : (Nat.toDigits 10 n).all Char.isDigit = true :=
    List.all_eq_true.2 fun c hc => Nat.isDigit_of_mem_toDigits (by decide) (by decide) hc
  rw [numberOfRun?, if_pos ⟨Nat.toDigits_ne_nil, hdigits⟩, Nat.ofDigitChars_ten_toDigits]

/-- The digits of a number are characters of a word. -/
theorem isWordPart_of_mem_toDigits {n : Nat} {c : Char} (hc : c ∈ Nat.toDigits 10 n) :
    isWordPart c = true := by
  have hdigit : c.isDigit = true := Nat.isDigit_of_mem_toDigits (by decide) (by decide) hc
  simp [isWordPart, Char.isAlphanum, hdigit]

theorem readNumber?_toDigits (n : Nat) {rest : List Char} (hrest : Delimited rest) :
    readNumber? (Nat.toDigits 10 n ++ rest) = some (n, rest) := by
  have hrun := readRun?_append (fun _ => isWordPart_of_mem_toDigits (n := n)) hrest
  simp [readNumber?, hrun, numberOfRun?_toDigits]

/-- A written integer reads as the number of a placeholder. -/
theorem readPlaceholder?_toString (n : Int) {rest : List Char} (hrest : Delimited rest) :
    readPlaceholder? ((toString n).toList ++ rest) = some (n, rest) := by
  rw [Int.toString_eq_repr, Int.repr_eq_if]
  split_ifs with hn
  · -- a digit leads, so no sign is read
    have hlead : (Nat.toDigits 10 n.toNat ++ rest).head? ≠ some '-' := by
      rw [List.head?_append_of_ne_nil _ Nat.toDigits_ne_nil]
      intro hhead
      exact absurd (isWordPart_of_mem_toDigits (List.mem_of_mem_head? hhead)) (by decide)
    rw [Nat.toList_repr, readPlaceholder?, if_neg hlead, readNumber?_toDigits _ hrest]
    simp [Int.toNat_of_nonneg hn]
  · have hsign : ("-" ++ (-n).toNat.repr).toList ++ rest
        = '-' :: (Nat.toDigits 10 (-n).toNat ++ rest) := by
      rw [String.toList_append, Nat.toList_repr]
      rfl
    rw [hsign, readPlaceholder?, if_pos List.head?_cons, List.tail_cons,
      readNumber?_toDigits _ hrest]
    simp only [Option.map_some, Option.some.injEq, Prod.mk.injEq, and_true]
    omega

/-! ## One token -/

/-- The token at the front of a text is its first token. -/
theorem tokenize?_cons_of_readToken? {c : Char} {cs rest : List Char} {t : Token} (hc : c ≠ ' ')
    (h : readToken? c cs = some (t, rest)) :
    tokenize? (c :: cs) = (tokenize? rest).map (t :: ·) := by
  rw [tokenize?, if_neg hc]
  split
  · next hnone => simp [h] at hnone
  · next hsome =>
    obtain ⟨rfl, rfl⟩ := Prod.mk.inj (Option.some.inj (h.symm.trans hsome))
    rfl

theorem tokenize?_blank (cs : List Char) : tokenize? (' ' :: cs) = tokenize? cs := by
  rw [tokenize?, if_pos rfl]

theorem tokenize?_run {run rest : List Char} {t : Token} (hrun : ∀ c ∈ run, isWordPart c)
    (ht : tokenOfRun? run = some t) (hne : run ≠ []) (hrest : Delimited rest) :
    tokenize? (run ++ rest) = (tokenize? rest).map (t :: ·) := by
  obtain ⟨c, cs, rfl⟩ := List.exists_cons_of_ne_nil hne
  have hc : c ≠ ' ' := by
    rintro rfl
    exact absurd (hrun ' ' List.mem_cons_self) (by decide)
  have hread : readToken? c (cs ++ rest) = some (t, rest) := by
    rw [readToken?_run hrun hrest, ht, Option.map_some]
  exact tokenize?_cons_of_readToken? hc hread

theorem tokenize?_name (s : String) {rest : List Char} (hrest : Delimited rest) :
    tokenize? (quoted '"' s.toList ++ rest) = (tokenize? rest).map (.name s :: ·) := by
  have hread : readToken? '"' (doubled '"' s.toList ++ '"' :: rest) = some (.name s, rest) := by
    rw [readToken?, if_pos rfl, readQuoted?_doubled (hrest.head?_ne (by decide))]
    simp
  simpa [quoted] using tokenize?_cons_of_readToken? (by decide) hread

theorem tokenize?_literal (s : String) {rest : List Char} (hrest : Delimited rest) :
    tokenize? (quoted '\'' s.toList ++ rest) = (tokenize? rest).map (.literal s :: ·) := by
  have hread : readToken? '\'' (doubled '\'' s.toList ++ '\'' :: rest)
      = some (.literal s, rest) := by
    rw [readToken?, if_neg (by decide), if_pos rfl,
      readQuoted?_doubled (hrest.head?_ne (by decide))]
    simp
  simpa [quoted] using tokenize?_cons_of_readToken? (by decide) hread

theorem tokenize?_placeholder (n : Int) {rest : List Char} (hrest : Delimited rest) :
    tokenize? ('$' :: (toString n).toList ++ rest)
      = (tokenize? rest).map (.placeholder n :: ·) := by
  have hread : readToken? '$' ((toString n).toList ++ rest) = some (.placeholder n, rest) := by
    rw [readToken?, if_neg (by decide), if_neg (by decide), if_pos rfl,
      readPlaceholder?_toString n hrest]
    rfl
  exact tokenize?_cons_of_readToken? (by decide) hread

/-! ## Lexemes -/

theorem Keyword.tokenOfRun?_text (k : Keyword) :
    tokenOfRun? k.text.toList = some (.keyword k) := by
  cases k <;> rfl

theorem Keyword.isWordPart_of_mem_text {k : Keyword} {c : Char} (hc : c ∈ k.text.toList) :
    isWordPart c := by
  have hall : k.text.toList.all isWordPart := by cases k <;> rfl
  exact List.all_eq_true.1 hall c hc

theorem Keyword.toList_text_ne_nil (k : Keyword) : k.text.toList ≠ [] := by
  cases k <;> decide

/-- An alias is no keyword: keywords are written in capitals. -/
theorem Alias.tokenOfRun?_text (a : Alias) :
    tokenOfRun? a.text.toList = some (.word a.text) := by
  cases a with
  | root => rfl
  | inner => rfl
  | join index =>
    have htext : (Alias.join index).text.toList = 'j' :: (toString (index + 1)).toList := by
      rw [Alias.text, String.toList_append]
      rfl
    have hnone : Keyword.ofText? ('j' :: (toString (index + 1)).toList) = none := by
      have hcapital : ∀ k ∈ Keyword.all, k.text.toList.head? ≠ some 'j' := by decide
      rw [Keyword.ofText?, List.find?_eq_none]
      intro k hk heq
      exact hcapital k hk (by rw [beq_iff_eq.1 heq]; rfl)
    have hletter : ('j' :: (toString (index + 1)).toList).head?.any Char.isDigit = false := rfl
    rw [htext, tokenOfRun?, hletter, hnone, ← htext, String.ofList_toList]
    rfl

theorem Alias.toList_text_ne_nil (a : Alias) : a.text.toList ≠ [] := by
  cases a <;> simp [Alias.text]

theorem Alias.isWordPart_of_mem_text {a : Alias} {c : Char} (hc : c ∈ a.text.toList) :
    isWordPart c = true := by
  cases a with
  | root => exact List.all_eq_true.1 (show "t0".toList.all isWordPart = true from rfl) c hc
  | inner => exact List.all_eq_true.1 (show "m".toList.all isWordPart = true from rfl) c hc
  | join index =>
    rw [Alias.text, String.toList_append, List.mem_append] at hc
    rcases hc with hc | hc
    · exact List.all_eq_true.1 (show "j".toList.all isWordPart = true from rfl) c hc
    · rw [Nat.toString_eq_ofList_toDigits, String.toList_ofList] at hc
      exact isWordPart_of_mem_toDigits hc

namespace Lexeme

/-- The token that a lexeme stands for; a blank stands for none. -/
def token? : Lexeme → Option Token
  | blank => none
  | keyword k => some (.keyword k)
  | row a => some (.word a.text)
  | symbol s => some (.symbol s)
  | name s => some (.name s)
  | literal s => some (.literal s)
  | placeholder n => some (.placeholder n.toInt)
  | one => some (.numeral 1)

/-- Whether the lexeme ends every token before it and is not the start of a longer one. -/
def isDelimiter : Lexeme → Bool
  | blank => true
  | symbol s => s ∈ [.dot, .comma, .open, .close, .star]
  | _ => false

theorem delimited_chars {l : Lexeme} (h : l.isDelimiter) (rest : List Char) :
    Delimited (l.chars ++ rest) := by
  have hlead : ∃ c ∈ delimiters, l.chars.head? = some c := by
    cases l with
    | blank => exact ⟨' ', by decide, rfl⟩
    | symbol s => cases s <;> first | exact absurd h (by decide) | exact ⟨_, by decide, rfl⟩
    | _ => exact absurd h Bool.false_ne_true
  obtain ⟨c, hc, hhead⟩ := hlead
  intro d hd
  rw [List.head?_append, hhead] at hd
  obtain rfl : c = d := by simpa using hd
  exact hc

end Lexeme

/-- A symbol is read as a whole: a longer one would go on with a character that delimits
nothing. -/
theorem readToken?_symbol {s : Symbol} {rest : List Char}
    (h : (Lexeme.symbol s).isDelimiter ∨ Delimited rest) :
    ∃ c cs, s.text.toList = c :: cs ∧ c ≠ ' ' ∧
      readToken? c (cs ++ rest) = some (.symbol s, rest) := by
  cases s with
  | dot => exact ⟨'.', [], rfl, by decide, rfl⟩
  | comma => exact ⟨',', [], rfl, by decide, rfl⟩
  | «open» => exact ⟨'(', [], rfl, by decide, rfl⟩
  | close => exact ⟨')', [], rfl, by decide, rfl⟩
  | star => exact ⟨'*', [], rfl, by decide, rfl⟩
  | eq => exact ⟨'=', [], rfl, by decide, rfl⟩
  | ne => exact ⟨'<', ['>'], rfl, by decide, rfl⟩
  | le => exact ⟨'<', ['='], rfl, by decide, rfl⟩
  | ge => exact ⟨'>', ['='], rfl, by decide, rfl⟩
  | lt =>
    have hrest : Delimited rest := h.resolve_left (by decide)
    have hgt : rest.head? ≠ some '>' := hrest.head?_ne (by decide)
    have heq : rest.head? ≠ some '=' := hrest.head?_ne (by decide)
    refine ⟨'<', [], rfl, by decide, ?_⟩
    cases rest with
    | nil => rfl
    | cons c cs =>
      simp only [List.head?_cons, ne_eq, Option.some.injEq] at hgt heq
      simp [readToken?, readSymbol?, isWordPart, hgt, heq]
  | gt =>
    have hrest : Delimited rest := h.resolve_left (by decide)
    have heq : rest.head? ≠ some '=' := hrest.head?_ne (by decide)
    refine ⟨'>', [], rfl, by decide, ?_⟩
    cases rest with
    | nil => rfl
    | cons c cs =>
      simp only [List.head?_cons, ne_eq, Option.some.injEq] at heq
      simp [readToken?, readSymbol?, isWordPart, heq]

theorem tokenize?_symbol {s : Symbol} {rest : List Char}
    (h : (Lexeme.symbol s).isDelimiter ∨ Delimited rest) :
    tokenize? (s.text.toList ++ rest) = (tokenize? rest).map (.symbol s :: ·) := by
  obtain ⟨c, cs, htext, hc, hread⟩ := readToken?_symbol h
  rw [htext]
  exact tokenize?_cons_of_readToken? hc hread

/-- A lexeme that is a delimiter, or that a delimiter follows, reads as its token. -/
theorem Lexeme.tokenize?_chars {l : Lexeme} {rest : List Char}
    (h : l.isDelimiter ∨ Delimited rest) :
    tokenize? (l.chars ++ rest) = (tokenize? rest).map (l.token?.toList ++ ·) := by
  cases l with
  | blank => simp [chars, tokenize?_blank, token?]
  | symbol s => exact tokenize?_symbol h
  | keyword k =>
    have hrest : Delimited rest := h.resolve_left Bool.false_ne_true
    exact tokenize?_run (fun _ => k.isWordPart_of_mem_text) k.tokenOfRun?_text
      k.toList_text_ne_nil
      hrest
  | row a =>
    have hrest : Delimited rest := h.resolve_left Bool.false_ne_true
    exact tokenize?_run (fun _ => a.isWordPart_of_mem_text) a.tokenOfRun?_text
      a.toList_text_ne_nil
      hrest
  | name s => exact tokenize?_name s (h.resolve_left Bool.false_ne_true)
  | literal s => exact tokenize?_literal s (h.resolve_left Bool.false_ne_true)
  | placeholder n => exact tokenize?_placeholder n.toInt (h.resolve_left Bool.false_ne_true)
  | one =>
    have hrest : Delimited rest := h.resolve_left Bool.false_ne_true
    have hrun : ∀ c ∈ ['1'], isWordPart c := List.forall_mem_singleton.2 rfl
    exact tokenize?_run hrun rfl (by decide) hrest

/-- Lexemes of which no two that touch could be taken for one: of any two, one is a
delimiter. -/
def Separated (ls : List Lexeme) : Prop :=
  ls.IsChain fun x y => x.isDelimiter ∨ y.isDelimiter

/-- The tokens of lexemes. -/
def tokens (ls : List Lexeme) : List Token := ls.filterMap Lexeme.token?

/-- **Separated lexemes read as their tokens.** -/
theorem tokenize?_renderChars {ls : List Lexeme} (h : Separated ls) :
    tokenize? (renderChars ls) = some (tokens ls) := by
  induction ls with
  | nil => simp [renderChars, tokenize?, tokens]
  | cons l ls ih =>
    obtain ⟨hnext, htail⟩ := List.isChain_cons.1 h
    have hl : l.isDelimiter ∨ Delimited (renderChars ls) := by
      cases ls with
      | nil => exact .inr (by simp [Delimited, renderChars])
      | cons m ms => exact (hnext m rfl).imp_right fun hm => Lexeme.delimited_chars hm _
    rw [renderChars, List.flatMap_cons, ← renderChars, Lexeme.tokenize?_chars hl, ih htail]
    cases htoken : l.token? <;> simp [tokens, htoken]

/-! ## Tokens of groups -/

@[simp] theorem tokens_nil : tokens [] = [] := rfl

@[simp] theorem tokens_append (xs ys : List Lexeme) :
    tokens (xs ++ ys) = tokens xs ++ tokens ys :=
  List.filterMap_append

@[simp] theorem tokens_cons (l : Lexeme) (ls : List Lexeme) :
    tokens (l :: ls) = l.token?.toList ++ tokens ls := by
  cases h : l.token? <;> simp [tokens, h]

/-- What keeps concatenation keeps groups with a separator between them. -/
theorem map_intercalate {α β : Type} {f : List α → List β} (hnil : f [] = [])
    (happend : ∀ xs ys, f (xs ++ ys) = f xs ++ f ys) (sep : List α) (groups : List (List α)) :
    f (sep.intercalate groups) = (f sep).intercalate (groups.map f) := by
  induction groups with
  | nil => exact hnil
  | cons g groups ih =>
    cases groups with
    | nil => simp
    | cons h hs => simp only [List.intercalate_cons_cons, happend, ih, List.map_cons]

/-- What holds of lists put together holds of groups with a separator between them. -/
theorem intercalate_of_append {α : Type} {P : List α → Prop} (hnil : P [])
    (happend : ∀ {xs ys : List α}, P xs → P ys → P (xs ++ ys)) {sep : List α} (hsep : P sep)
    {groups : List (List α)} (hgroups : ∀ g ∈ groups, P g) : P (sep.intercalate groups) := by
  induction groups with
  | nil => exact hnil
  | cons g groups ih =>
    have hg : P g := hgroups g List.mem_cons_self
    have hrest : P (sep.intercalate groups) :=
      ih fun h hh => hgroups h (List.mem_cons_of_mem g hh)
    cases groups with
    | nil => simpa using hg
    | cons h hs =>
      rw [List.intercalate_cons_cons]
      exact happend (happend hg hsep) hrest

theorem nil_intercalate {α : Type} (groups : List (List α)) :
    [].intercalate groups = groups.flatten := by
  induction groups with
  | nil => rfl
  | cons g groups ih =>
    cases groups with
    | nil => simp
    | cons h hs =>
      rw [List.intercalate_cons_cons, ih, List.append_nil]
      exact List.flatten_cons.symm

theorem tokens_intercalate (sep : List Lexeme) (groups : List (List Lexeme)) :
    tokens (sep.intercalate groups) = (tokens sep).intercalate (groups.map tokens) :=
  map_intercalate tokens_nil tokens_append sep groups

@[simp] theorem tokens_words (groups : List (List Lexeme)) :
    tokens (Lexeme.words groups) = groups.flatMap tokens := by
  have hblank : tokens [.blank] = [] := rfl
  rw [Lexeme.words, tokens_intercalate, hblank, nil_intercalate, List.flatMap]

@[simp] theorem tokens_parens (ls : List Lexeme) :
    tokens (Lexeme.parens ls) = .symbol .open :: tokens ls ++ [.symbol .close] := by
  simp [Lexeme.parens, Lexeme.token?]

@[simp] theorem tokens_columnName (c : ColumnName) :
    tokens c.lexemes = [.word c.row.text, .symbol .dot, .name c.column] := by
  simp [ColumnName.lexemes, Lexeme.token?]

end Sql

end RecordQuery
