import Mathlib.Data.List.Forall2
import Mathlib.Data.List.Infix
import RecordQuery.Text.LikePattern

/-!
# Texts that fit a pattern

A text fits a pattern if it can be cut into consecutive parts, one for each piece of the
pattern, such that each part is one that its piece stands for.  Whether it does is decided
without looking at all cuts: character by character for all beginnings of the pattern, or just
as well from the end of the pattern for all suffixes of the text.

## Main Definitions

* `LikePattern.Spells` — characters spell the pieces of a pattern
* `LikePiece.Covers`, `LikePattern.Fits` — a piece stands for a part; a
  text can be cut into parts
* `Tells` — a list says which entries of another one have a property
* `LikePattern.suffixFits` — the suffixes of a text that fit a pattern, from its end
* `LikePattern.acceptsBySuffixes` — whether the text as a whole is one of them

## Main Statements

* `LikePattern.spells_or_lone` — characters spell a pattern unless they end in a lone escape
* `LikePattern.tells_lastRow` — what is listed for the beginnings of a pattern is
  whether the text fits them
* `LikePattern.tells_suffixFits` — what is listed for the suffixes of a text is whether they fit
* `LikePattern.like?_decides` — matching decides whether the text fits what the pattern spells

## Design Notes

Both tables are lists of truth values that belong to another list, that of the
beginnings of the pattern or that of the suffixes of the text.  One step of either of
them is one lemma on `Tells`.
-/

namespace RecordQuery

/-! ## Written patterns -/

/-- Whether characters spell a pattern.  Read from left to right, the escape character takes the
next one as it is; of the other characters `_` and `%` are the only special ones. -/
inductive LikePattern.Spells (escape : Char) : List Char → LikePattern → Prop
  | nil : Spells escape [] []
  | escaped {cs : List Char} {pattern : LikePattern} (c : Char)
      (rest : Spells escape cs pattern) :
    Spells escape (escape :: c :: cs) (.literal c :: pattern)
  | ordinary {cs : List Char} {pattern : LikePattern} {c : Char} (notEscape : c ≠ escape)
    (notRun : c ≠ '%') (notChar : c ≠ '_') (rest : Spells escape cs pattern) :
    Spells escape (c :: cs) (.literal c :: pattern)
  | underscore {cs : List Char} {pattern : LikePattern} (notEscape : '_' ≠ escape)
    (rest : Spells escape cs pattern) : Spells escape ('_' :: cs) (.anyChar :: pattern)
  | percent {cs : List Char} {pattern : LikePattern} (notEscape : '%' ≠ escape)
    (rest : Spells escape cs pattern) : Spells escape ('%' :: cs) (.anyRun :: pattern)

namespace LikePattern

section spelling

variable {escape : Char} {cs : List Char} {pattern : LikePattern}

theorem readChars?_escape (c : Char) (cs : List Char) :
    readChars? escape (escape :: c :: cs) = (readChars? escape cs).map (.literal c :: ·) := by
  rw [readChars?, if_pos rfl]

theorem readChars?_cons {c : Char} (h : c ≠ escape) (cs : List Char) :
    readChars? escape (c :: cs) = (readChars? escape cs).map (pieceOf c :: ·) := by
  cases cs with
  | nil => simp only [readChars?, if_neg h, Option.map_some]
  | cons d cs => rw [readChars?, if_neg h]

theorem readChars?_lone : readChars? escape [escape] = none := by
  rw [readChars?, if_pos rfl]

namespace Spells

theorem cons {c : Char} (h : c ≠ escape) (rest : Spells escape cs pattern) :
    Spells escape (c :: cs) (pieceOf c :: pattern) := by
  unfold pieceOf
  split
  · next hrun =>
    subst hrun
    exact .percent h rest
  · next hrun =>
    split
    · next hchar =>
      subst hchar
      exact .underscore h rest
    · next hchar => exact .ordinary h hrun hchar rest

/-- What is spelled is read, and then the rest. -/
theorem readChars?_append (h : Spells escape cs pattern) (rest : List Char) :
    readChars? escape (cs ++ rest) = (readChars? escape rest).map (pattern ++ ·) := by
  induction h with
  | nil => simp
  | escaped c _ ih =>
    rw [List.cons_append, List.cons_append, readChars?_escape, ih, Option.map_map]
    rfl
  | ordinary notEscape notRun notChar _ ih =>
    rw [List.cons_append, readChars?_cons notEscape, ih, Option.map_map, pieceOf, if_neg notRun,
      if_neg notChar]
    rfl
  | underscore notEscape _ ih =>
    rw [List.cons_append, readChars?_cons notEscape, ih, Option.map_map]
    rfl
  | percent notEscape _ ih =>
    rw [List.cons_append, readChars?_cons notEscape, ih, Option.map_map]
    rfl

theorem readChars?_eq (h : Spells escape cs pattern) : readChars? escape cs = some pattern := by
  have hread := h.readChars?_append []
  rwa [List.append_nil, readChars?, Option.map_some, List.append_nil] at hread

/-- An escape character behind it has nothing to take. -/
theorem readChars?_concat (h : Spells escape cs pattern) :
    readChars? escape (cs ++ [escape]) = none := by
  rw [h.readChars?_append, readChars?_lone, Option.map_none]

end Spells

/-- **Characters spell a pattern, or they end in an escape character that
has nothing to take.** -/
theorem spells_or_lone (escape : Char) (cs : List Char) :
    (∃ pattern, Spells escape cs pattern) ∨
      ∃ front pattern, cs = front ++ [escape] ∧ Spells escape front pattern := by
  induction cs using readChars?.induct escape with
  | case1 => exact .inl ⟨[], .nil⟩
  | case2 => exact .inr ⟨[], [], rfl, .nil⟩
  | case3 c h => exact .inl ⟨_, .cons h .nil⟩
  | case4 d cs ih =>
    rcases ih with ⟨pattern, hcs⟩ | ⟨front, pattern, rfl, hfront⟩
    · exact .inl ⟨_, .escaped d hcs⟩
    · exact .inr ⟨escape :: d :: front, _, rfl, .escaped d hfront⟩
  | case5 c d cs h ih =>
    rcases ih with ⟨pattern, hcs⟩ | ⟨front, pattern, hcs, hfront⟩
    · exact .inl ⟨_, .cons h hcs⟩
    · exact .inr ⟨c :: front, _, by rw [hcs, List.cons_append], .cons h hfront⟩

theorem readChars?_eq_some_iff :
    readChars? escape cs = some pattern ↔ Spells escape cs pattern := by
  refine ⟨fun hread => ?_, Spells.readChars?_eq⟩
  rcases spells_or_lone escape cs with ⟨pattern', hcs⟩ | ⟨front, pattern', rfl, hfront⟩
  · obtain rfl := Option.some.inj (hcs.readChars?_eq.symm.trans hread)
    exact hcs
  · exact absurd (hfront.readChars?_concat.symm.trans hread) (Option.some_ne_none _).symm

theorem readChars?_eq_none_iff :
    readChars? escape cs = none
      ↔ ∃ front pattern, cs = front ++ [escape] ∧ Spells escape front pattern := by
  constructor
  · intro hread
    rcases spells_or_lone escape cs with ⟨pattern, hcs⟩ | hlone
    · exact absurd (hcs.readChars?_eq.symm.trans hread) (Option.some_ne_none _)
    · exact hlone
  · rintro ⟨front, pattern, rfl, hfront⟩
    exact hfront.readChars?_concat

end spelling

end LikePattern

/-! ## Cutting a text -/

/-- Whether a piece stands for a part of a text. -/
def LikePiece.Covers : LikePiece → List Char → Prop
  | literal c, part => part = [c]
  | anyChar, part => ∃ c, part = [c]
  | anyRun, _ => True

/-- Whether a text can be cut into consecutive parts, one for each piece of a pattern. -/
def LikePattern.Fits (pattern : LikePattern) (text : List Char) : Prop :=
  ∃ parts : List (List Char), text = parts.flatten ∧ List.Forall₂ LikePiece.Covers pattern parts

namespace LikePattern

section fits

variable {piece : LikePiece} {pattern : LikePattern} {text : List Char}

theorem fits_nil : Fits [] text ↔ text = [] := by
  constructor
  · rintro ⟨parts, rfl, hparts⟩
    rw [List.forall₂_nil_left_iff.1 hparts, List.flatten_nil]
  · rintro rfl
    exact ⟨[], rfl, .nil⟩

theorem fits_cons :
    Fits (piece :: pattern) text
      ↔ ∃ part rest, text = part ++ rest ∧ piece.Covers part ∧ pattern.Fits rest := by
  constructor
  · rintro ⟨parts, rfl, hparts⟩
    obtain ⟨part, parts, hpart, hrest, rfl⟩ := List.forall₂_cons_left_iff.1 hparts
    exact ⟨part, parts.flatten, List.flatten_cons, hpart, parts, rfl, hrest⟩
  · rintro ⟨part, -, rfl, hpart, parts, rfl, hparts⟩
    exact ⟨part :: parts, List.flatten_cons.symm, .cons hpart hparts⟩

/-- A text fits two patterns side by side if it is two texts side by side that fit them. -/
theorem fits_append {more : LikePattern} :
    Fits (pattern ++ more) text
      ↔ ∃ front back, text = front ++ back ∧ pattern.Fits front ∧ more.Fits back := by
  induction pattern generalizing text with
  | nil =>
    constructor
    · intro hmore
      exact ⟨[], text, rfl, fits_nil.2 rfl, hmore⟩
    · rintro ⟨front, back, rfl, hfront, hback⟩
      rwa [fits_nil.1 hfront]
  | cons first pattern ih =>
    rw [List.cons_append, fits_cons]
    constructor
    · rintro ⟨part, rest, rfl, hpart, hrest⟩
      obtain ⟨front, back, rfl, hfront, hback⟩ := ih.1 hrest
      refine ⟨part ++ front, back, (List.append_assoc _ _ _).symm, ?_, hback⟩
      exact fits_cons.2 ⟨part, front, rfl, hpart, hfront⟩
    · rintro ⟨front, back, rfl, hfront, hback⟩
      obtain ⟨part, rest, rfl, hpart, hrest⟩ := fits_cons.1 hfront
      refine ⟨part, rest ++ back, List.append_assoc _ _ _, hpart, ?_⟩
      exact ih.2 ⟨rest, back, rfl, hrest, hback⟩

theorem fits_singleton : Fits [piece] text ↔ piece.Covers text := by
  rw [fits_cons]
  constructor
  · rintro ⟨part, rest, rfl, hpart, hrest⟩
    rwa [fits_nil.1 hrest, List.append_nil]
  · intro hpart
    exact ⟨text, [], (List.append_nil text).symm, hpart, fits_nil.2 rfl⟩

theorem fits_concat :
    Fits (pattern ++ [piece]) text
      ↔ ∃ front part, text = front ++ part ∧ pattern.Fits front ∧ piece.Covers part := by
  simp only [fits_append, fits_singleton]

/-- No text is left only for pieces that stand for no text at all. -/
theorem fits_concat_nil :
    Fits (pattern ++ [piece]) [] ↔ pattern.Fits [] ∧ piece.Covers [] := by
  rw [fits_concat]
  constructor
  · rintro ⟨front, part, hparts, hfront, hpart⟩
    obtain ⟨rfl, rfl⟩ := List.append_eq_nil_iff.1 hparts.symm
    exact ⟨hfront, hpart⟩
  · rintro ⟨hfront, hpart⟩
    exact ⟨[], [], rfl, hfront, hpart⟩

/-- A piece for one character takes the last one. -/
theorem fits_concat_one (passes : Char → Prop) {c : Char}
    (h : ∀ part, piece.Covers part ↔ ∃ d, part = [d] ∧ passes d) :
    Fits (pattern ++ [piece]) (text ++ [c]) ↔ pattern.Fits text ∧ passes c := by
  rw [fits_concat]
  constructor
  · rintro ⟨front, part, hparts, hfront, hpart⟩
    obtain ⟨d, rfl, hd⟩ := (h part).1 hpart
    obtain ⟨rfl, hc⟩ := List.append_inj' hparts rfl
    obtain rfl := (List.singleton_inj.1 hc).symm
    exact ⟨hfront, hd⟩
  · rintro ⟨hfront, hc⟩
    exact ⟨text, [c], rfl, hfront, (h [c]).2 ⟨c, rfl, hc⟩⟩

/-- A run takes no character more, or it takes the last one too. -/
theorem fits_concat_run {c : Char} :
    Fits (pattern ++ [.anyRun]) (text ++ [c])
      ↔ pattern.Fits (text ++ [c]) ∨ Fits (pattern ++ [.anyRun]) text := by
  simp only [fits_concat, LikePiece.Covers, and_true]
  constructor
  · rintro ⟨front, part, hparts, hfront⟩
    rcases List.eq_nil_or_concat part with rfl | ⟨part, d, rfl⟩
    · rw [hparts, List.append_nil]
      exact .inl hfront
    · rw [List.concat_eq_append, ← List.append_assoc] at hparts
      exact .inr ⟨front, part, (List.append_inj' hparts rfl).1, hfront⟩
  · rintro (hfits | ⟨front, part, rfl, hfront⟩)
    · exact ⟨text ++ [c], [], (List.append_nil _).symm, hfits⟩
    · exact ⟨front, part ++ [c], List.append_assoc _ _ _, hfront⟩

end fits

end LikePattern

/-! ## Tables of truth values -/

section tells

variable {α β : Type} {P Q : α → Prop}

/-- Whether a list of truth values says of each entry of another list
whether it has a property. -/
def Tells (P : α → Prop) (bs : List Bool) (xs : List α) : Prop :=
  List.Forall₂ (fun b x => b = true ↔ P x) bs xs

theorem Tells.congr {bs : List Bool} {xs : List α} (h : Tells P bs xs) (hpq : ∀ x, P x ↔ Q x) :
    Tells Q bs xs :=
  List.Forall₂.imp (fun _ x hx => hx.trans (hpq x)) h

theorem tells_map_iff {g : β → α} {bs : List Bool} {ys : List β} :
    Tells P bs (ys.map g) ↔ Tells (fun y => P (g y)) bs ys :=
  List.forall₂_map_right_iff

theorem Tells.exists_cons {bs : List Bool} {xs : List α} {x : α} (h : Tells P bs (x :: xs)) :
    ∃ b rest, bs = b :: rest ∧ (b = true ↔ P x) ∧ Tells P rest xs := by
  obtain ⟨b, rest, hb, hrest, rfl⟩ := List.forall₂_cons_right_iff.1 h
  exact ⟨b, rest, rfl, hb, hrest⟩

theorem Tells.getLastD {bs : List Bool} {xs : List α} {x : α} (h : Tells P bs (xs ++ [x])) :
    bs.getLastD false = true ↔ P x := by
  induction xs generalizing bs with
  | nil =>
    obtain ⟨b, rest, rfl, hb, hrest⟩ := Tells.exists_cons h
    obtain rfl := List.forall₂_nil_right_iff.1 hrest
    exact hb
  | cons y xs ih =>
    obtain ⟨b, rest, rfl, -, hrest⟩ := Tells.exists_cons h
    rw [← ih hrest]
    cases rest with
    | nil => exact absurd hrest.length_eq (by simp)
    | cons b' rest => rfl

end tells

theorem tails_eq_cons {α : Type} (xs : List α) : ∃ rest, xs.tails = xs :: rest := by
  cases xs with
  | nil => exact ⟨[], rfl⟩
  | cons x xs => exact ⟨xs.tails, rfl⟩

theorem inits_eq_cons {α : Type} (xs : List α) : ∃ rest, xs.inits = [] :: rest := by
  cases xs with
  | nil => exact ⟨[], rfl⟩
  | cons x xs => exact ⟨xs.inits.map (x :: ·), rfl⟩

theorem inits_eq_concat {α : Type} (xs : List α) : ∃ rest, xs.inits = rest ++ [xs] := by
  induction xs with
  | nil => exact ⟨[], rfl⟩
  | cons x xs ih =>
    obtain ⟨rest, hrest⟩ := ih
    exact ⟨[] :: rest.map (x :: ·), by simp [hrest]⟩

namespace LikePattern

/-! ### Character by character -/

section rows

variable {front : LikePattern} {text : List Char}

theorem fits_concat_nil_iff {piece : LikePiece} {reached : Bool}
    (h : reached = true ↔ front.Fits []) :
    (reached && piece == .anyRun) = true ↔ Fits (front ++ [piece]) [] := by
  rw [fits_concat_nil, Bool.and_eq_true, h, beq_iff_eq]
  refine and_congr_right fun _ => ?_
  cases piece <;> simp [LikePiece.Covers]

theorem tells_firstRow (front pattern : LikePattern) {reached : Bool}
    (h : reached = true ↔ front.Fits []) :
    Tells (fun ps => Fits (front ++ ps) []) (firstRow reached pattern) pattern.inits := by
  induction pattern generalizing front reached with
  | nil => exact .cons (by simpa using h) .nil
  | cons piece pattern ih =>
    refine .cons (by simpa using h) (tells_map_iff.2 ?_)
    refine Tells.congr (ih _ (fits_concat_nil_iff h)) fun ps => ?_
    rw [List.append_assoc, List.singleton_append]

theorem entry_iff {piece : LikePiece} {c : Char} {left diagonal above : Bool}
    (hleft : left = true ↔ front.Fits (text ++ [c]))
    (hdiagonal : diagonal = true ↔ front.Fits text)
    (habove : above = true ↔ Fits (front ++ [piece]) text) :
    entry c left diagonal above piece = true ↔ Fits (front ++ [piece]) (text ++ [c]) := by
  cases piece with
  | literal d =>
    rw [fits_concat_one (d = ·) (fun part => by simp [LikePiece.Covers]), entry,
      Bool.and_eq_true, hdiagonal, beq_iff_eq]
  | anyChar =>
    rw [fits_concat_one (fun _ => True) (fun part => by simp [LikePiece.Covers]), entry,
      hdiagonal, and_true]
  | anyRun => rw [fits_concat_run, entry, Bool.or_eq_true, hleft, habove]

theorem tells_nextRow (front pattern : LikePattern) {c : Char} {left : Bool} {row : List Bool}
    (hleft : left = true ↔ front.Fits (text ++ [c]))
    (hrow : Tells (fun ps => Fits (front ++ ps) text) row pattern.inits) :
    Tells (fun ps => Fits (front ++ ps) (text ++ [c])) (nextRow c left pattern row)
      pattern.inits := by
  induction pattern generalizing front left row with
  | nil => exact .cons (by simpa using hleft) .nil
  | cons piece pattern ih =>
    obtain ⟨diagonal, row, rfl, hdiagonal, hrow⟩ := Tells.exists_cons hrow
    rw [List.append_nil] at hdiagonal
    have hbelow : Tells (fun ps => Fits (front ++ [piece] ++ ps) text) row pattern.inits := by
      refine (tells_map_iff.1 hrow).congr fun ps => ?_
      rw [List.append_assoc, List.singleton_append]
    obtain ⟨more, hmore⟩ := inits_eq_cons pattern
    have hfirst := hbelow
    rw [hmore] at hfirst
    obtain ⟨above, row, rfl, habove, -⟩ := Tells.exists_cons hfirst
    rw [List.append_nil] at habove
    refine .cons (by simpa using hleft) (tells_map_iff.2 ?_)
    refine Tells.congr (ih _ (entry_iff hleft hdiagonal habove) hbelow) fun ps => ?_
    rw [List.append_assoc, List.singleton_append]

/-- **What is listed for the beginnings of a pattern is whether the text fits them.** -/
theorem tells_lastRow (pattern : LikePattern) (text : List Char) :
    Tells (fun ps => Fits ps text) (lastRow pattern text) pattern.inits := by
  induction text using List.reverseRecOn with
  | nil => exact tells_firstRow [] pattern (iff_of_true rfl (fits_nil.2 rfl))
  | append_singleton text c ih =>
    rw [lastRow, List.foldl_append]
    refine tells_nextRow [] pattern ?_ ih
    exact iff_of_false Bool.false_ne_true fun h => List.append_ne_nil_of_right_ne_nil _
      (List.cons_ne_nil c []) (fits_nil.1 h)

theorem accepts_iff_fits {pattern : LikePattern} :
    pattern.accepts text = true ↔ pattern.Fits text := by
  have htells := tells_lastRow pattern text
  obtain ⟨rest, hrest⟩ := inits_eq_concat pattern
  rw [hrest] at htells
  exact Tells.getLastD (P := fun ps => Fits ps text) htells

end rows

/-! ### From the end of the pattern -/

/-- Says of each suffix of a text whether it is empty. -/
def emptySuffixes : List Char → List Bool
  | [] => [true]
  | _ :: cs => false :: emptySuffixes cs

/-- Says of each entry of a list whether it or a later one is true. -/
def anyLater : List Bool → List Bool
  | [] => []
  | b :: bs =>
    match anyLater bs with
    | [] => [b]
    | later :: rest => (b || later) :: later :: rest

/-- Says of each suffix of a text whether it starts with a character that passes and goes on
with a suffix that is listed as fitting. -/
def afterOne (passes : Char → Bool) : List Char → List Bool → List Bool
  | c :: cs, _ :: b :: bs => (passes c && b) :: afterOne passes cs (b :: bs)
  | _, _ => [false]

/-- Puts a piece in front of pieces for which it is known which suffixes of the text fit
them. -/
def step (text : List Char) (piece : LikePiece) (fits : List Bool) : List Bool :=
  match piece with
  | .literal c => afterOne (· == c) text fits
  | .anyChar => afterOne (fun _ => true) text fits
  | .anyRun => anyLater fits

/-- Says of each suffix of a text whether it fits the pattern. -/
def suffixFits (text : List Char) (pattern : LikePattern) : List Bool :=
  pattern.foldr (step text) (emptySuffixes text)

/-- Whether a text as a whole fits the pattern, from the end of the pattern. -/
def acceptsBySuffixes (pattern : LikePattern) (text : List Char) : Bool :=
  (suffixFits text pattern).headD false

section suffixes

variable {P : List Char → Prop} {text : List Char} {fits : List Bool}

theorem tells_emptySuffixes (text : List Char) :
    Tells (· = []) (emptySuffixes text) text.tails := by
  induction text with
  | nil => exact .cons (iff_of_true rfl rfl) .nil
  | cons c cs ih => exact .cons (iff_of_false Bool.false_ne_true (List.cons_ne_nil c cs)) ih

theorem tells_afterOne (passes : Char → Bool) (h : Tells P fits text.tails) :
    Tells (fun cs => ∃ c rest, cs = c :: rest ∧ passes c = true ∧ P rest)
      (afterOne passes text fits) text.tails := by
  induction text generalizing fits with
  | nil =>
    refine .cons (iff_of_false Bool.false_ne_true ?_) .nil
    rintro ⟨c, rest, hcs, -⟩
    exact List.cons_ne_nil c rest hcs.symm
  | cons c cs ih =>
    obtain ⟨whole, fits, rfl, -, hfits⟩ := Tells.exists_cons h
    have hrest := ih hfits
    obtain ⟨suffixes, hsuffixes⟩ := tails_eq_cons cs
    rw [hsuffixes] at hfits
    obtain ⟨b, bs, rfl, hb, -⟩ := Tells.exists_cons hfits
    refine .cons ?_ hrest
    rw [Bool.and_eq_true, hb]
    constructor
    · rintro ⟨hc, hrest⟩
      exact ⟨c, cs, rfl, hc, hrest⟩
    · rintro ⟨c', rest, hcs, hc, hrest⟩
      obtain ⟨rfl, rfl⟩ := List.cons.inj hcs
      exact ⟨hc, hrest⟩

theorem tells_anyLater (h : Tells P fits text.tails) :
    Tells (fun cs => ∃ part rest, cs = part ++ rest ∧ P rest) (anyLater fits) text.tails := by
  induction text generalizing fits with
  | nil =>
    obtain ⟨b, bs, rfl, hb, hbs⟩ := Tells.exists_cons h
    obtain rfl := List.forall₂_nil_right_iff.1 hbs
    refine .cons (hb.trans ⟨fun hP => ⟨[], [], rfl, hP⟩, ?_⟩) .nil
    rintro ⟨part, rest, hnil, hP⟩
    rwa [(List.append_eq_nil_iff.1 hnil.symm).2] at hP
  | cons c cs ih =>
    obtain ⟨b, bs, rfl, hb, hbs⟩ := Tells.exists_cons h
    have hlater := ih hbs
    obtain ⟨suffixes, hsuffixes⟩ := tails_eq_cons cs
    have hcs := hlater
    rw [hsuffixes] at hcs
    obtain ⟨later, rest, hrest, hfirst, -⟩ := Tells.exists_cons hcs
    rw [hrest] at hlater
    rw [anyLater, hrest]
    refine .cons ?_ hlater
    rw [Bool.or_eq_true, hb, hfirst]
    constructor
    · rintro (hP | ⟨part, rest, rfl, hP⟩)
      · exact ⟨[], c :: cs, rfl, hP⟩
      · exact ⟨c :: part, rest, rfl, hP⟩
    · rintro ⟨part, rest, hcs, hP⟩
      cases part with
      | nil =>
        rw [List.nil_append] at hcs
        exact .inl (hcs ▸ hP)
      | cons d part =>
        obtain ⟨rfl, rfl⟩ := List.cons.inj hcs
        exact .inr ⟨part, rest, rfl, hP⟩

/-- A piece in front takes a part of each suffix and leaves the rest to the others. -/
theorem tells_step (piece : LikePiece) (h : Tells P fits text.tails) :
    Tells (fun cs => ∃ part rest, cs = part ++ rest ∧ piece.Covers part ∧ P rest)
      (step text piece fits) text.tails := by
  cases piece with
  | literal d =>
    refine (tells_afterOne (· == d) h).congr fun cs => ?_
    constructor
    · rintro ⟨c, rest, rfl, hc, hP⟩
      exact ⟨[c], rest, rfl, by rw [beq_iff_eq.1 hc]; rfl, hP⟩
    · rintro ⟨part, rest, rfl, rfl, hP⟩
      exact ⟨d, rest, rfl, beq_self_eq_true d, hP⟩
  | anyChar =>
    refine (tells_afterOne (fun _ => true) h).congr fun cs => ?_
    constructor
    · rintro ⟨c, rest, rfl, -, hP⟩
      exact ⟨[c], rest, rfl, ⟨c, rfl⟩, hP⟩
    · rintro ⟨part, rest, rfl, ⟨c, rfl⟩, hP⟩
      exact ⟨c, rest, rfl, rfl, hP⟩
  | anyRun =>
    refine (tells_anyLater h).congr fun cs => ?_
    simp only [LikePiece.Covers, true_and]

/-- **What is listed for the suffixes of a text is whether they fit the pattern.** -/
theorem tells_suffixFits (text : List Char) (pattern : LikePattern) :
    Tells pattern.Fits (suffixFits text pattern) text.tails := by
  induction pattern with
  | nil => exact (tells_emptySuffixes text).congr fun cs => fits_nil.symm
  | cons piece pattern ih => exact (tells_step piece ih).congr fun cs => fits_cons.symm

theorem acceptsBySuffixes_iff_fits {pattern : LikePattern} :
    pattern.acceptsBySuffixes text = true ↔ pattern.Fits text := by
  have htells := tells_suffixFits text pattern
  obtain ⟨suffixes, hsuffixes⟩ := tails_eq_cons text
  rw [hsuffixes] at htells
  obtain ⟨b, bs, hfits, hb, -⟩ := Tells.exists_cons htells
  rw [acceptsBySuffixes, hfits, List.headD_cons, hb]

end suffixes

/-- **Matching decides what a pattern says.**  There is no answer if the pattern ends in an
escape character that has nothing to take, read from left to right.  Otherwise the characters
spell pieces, and the answer is whether the text can be cut into consecutive parts, one for each
piece.  Going through the pattern once, piece by piece from its end, gives the same answer. -/
theorem like?_decides (text pattern : String) (escape : Char) :
    (like? text pattern escape = none
      ↔ ∃ front pieces, pattern.toList = front ++ [escape] ∧ Spells escape front pieces) ∧
    (∀ fits, like? text pattern escape = some fits
      ↔ ∃ pieces, Spells escape pattern.toList pieces ∧
          (fits = true ↔ pieces.Fits text.toList)) ∧
    like? text pattern escape
      = (read? escape pattern).map fun pieces => pieces.acceptsBySuffixes text.toList := by
  refine ⟨?_, fun fits => ?_, ?_⟩
  · rw [like?, Option.map_eq_none_iff, read?, readChars?_eq_none_iff]
  · rw [like?, Option.map_eq_some_iff]
    refine exists_congr fun pieces => ?_
    rw [read?, readChars?_eq_some_iff, ← accepts_iff_fits]
    refine and_congr_right fun _ => ?_
    rw [eq_comm, Bool.eq_iff_iff]
  · rw [like?]
    congr 1
    funext pieces
    rw [Bool.eq_iff_iff, accepts_iff_fits, acceptsBySuffixes_iff_fits]

/-- With `%` as the escape character, `%%` is a percent sign and `%` alone at the end has
nothing to take. -/
example : like? "5%" "_%%" '%' = some true ∧ like? "5%" "_%" '%' = none := by decide

end LikePattern

end RecordQuery
