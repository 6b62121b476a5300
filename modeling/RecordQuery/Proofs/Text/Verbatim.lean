import RecordQuery.Proofs.Text.LikePattern

/-!
# Texts taken as they are

With the escape character before each character that a pattern takes for something else, any
text becomes a pattern that only the text itself fits.  Open at one end or at both, by a run
there, the pattern asks whether a text begins with it, ends with it, or has it somewhere inside.

## Main Definitions

* `LikePattern.verbatim` — a text as a pattern that asks for just this text

## Main Statements

* `LikePattern.spells_verbatimChars` — it spells one literal for each character of the text
* `LikePattern.fits_literals`, `LikePattern.fits_run_append` — what fits
  literals and an open end
* `LikePattern.like?_verbatim` — matching compares with the text, or searches for it

## Design Notes

The escape character may itself be one of the special ones.  If it is `%` there is no way to
write a run, so the ends cannot be open.
-/

namespace RecordQuery

namespace LikePattern

/-- Whether a pattern with the given escape character takes a character for something else. -/
def isSpecial (escape c : Char) : Bool := c == '%' || c == '_' || c == escape

/-- How a character of a text is written in a pattern. -/
def verbatimChar (escape c : Char) : List Char :=
  if isSpecial escape c then [escape, c] else [c]

/-- The characters of a pattern that asks for a text as it is. -/
def verbatimChars (escape : Char) (text : List Char) : List Char :=
  text.flatMap (verbatimChar escape)

/-- A pattern that asks for a text as it is. -/
def verbatim (escape : Char) (text : String) : String :=
  String.ofList (verbatimChars escape text.toList)

section spelling

variable {escape : Char} {front back : List Char} {pattern more : LikePattern}

theorem Spells.append (hfront : Spells escape front pattern) (hback : Spells escape back more) :
    Spells escape (front ++ back) (pattern ++ more) := by
  rw [← readChars?_eq_some_iff, hfront.readChars?_append, hback.readChars?_eq, Option.map_some]

theorem spells_verbatimChar (escape c : Char) :
    Spells escape (verbatimChar escape c) [.literal c] := by
  unfold verbatimChar
  split
  · exact .escaped c .nil
  · next hspecial =>
    simp only [isSpecial, Bool.or_eq_true, beq_iff_eq, not_or] at hspecial
    obtain ⟨⟨hrun, hchar⟩, hescape⟩ := hspecial
    exact .ordinary hescape hrun hchar .nil

/-- **A text taken as it is spells its characters.** -/
theorem spells_verbatimChars (escape : Char) (text : List Char) :
    Spells escape (verbatimChars escape text) (text.map .literal) := by
  induction text with
  | nil => exact .nil
  | cons c text ih =>
    rw [verbatimChars, List.flatMap_cons, List.map_cons]
    exact (spells_verbatimChar escape c).append ih

theorem spells_verbatim (escape : Char) (text : String) :
    Spells escape (verbatim escape text).toList (text.toList.map .literal) := by
  rw [verbatim, String.toList_ofList]
  exact spells_verbatimChars escape text.toList

/-- A percent sign spells a run unless it is the escape character. -/
theorem spells_run (h : escape ≠ '%') : Spells escape ['%'] [.anyRun] :=
  .percent h.symm .nil

end spelling

section fits

variable {pattern : LikePattern} {text : List Char}

/-- Only a text itself fits its characters. -/
theorem fits_literals {cs : List Char} : Fits (cs.map .literal) text ↔ text = cs := by
  induction cs generalizing text with
  | nil => exact fits_nil
  | cons c cs ih =>
    rw [List.map_cons, fits_cons]
    constructor
    · rintro ⟨part, rest, rfl, rfl, hrest⟩
      rw [ih.1 hrest, List.singleton_append]
    · rintro rfl
      exact ⟨[c], cs, rfl, rfl, ih.2 rfl⟩

/-- A run in front leaves some end of the text to the pattern. -/
theorem fits_run_append :
    Fits ([.anyRun] ++ pattern) text
      ↔ ∃ front rest, text = front ++ rest ∧ pattern.Fits rest := by
  rw [fits_append]
  simp only [fits_singleton, LikePiece.Covers, true_and]

/-- A run behind leaves some beginning of the text to the pattern. -/
theorem fits_append_run :
    Fits (pattern ++ [.anyRun]) text
      ↔ ∃ front rest, text = front ++ rest ∧ pattern.Fits front := by
  rw [fits_append]
  simp only [fits_singleton, LikePiece.Covers, and_true]

theorem fits_literals_append_run {cs : List Char} :
    Fits (cs.map .literal ++ [.anyRun]) text ↔ cs <+: text := by
  simp only [fits_append_run, fits_literals]
  constructor
  · rintro ⟨front, rest, rfl, rfl⟩
    exact ⟨rest, rfl⟩
  · rintro ⟨rest, rfl⟩
    exact ⟨cs, rest, rfl, rfl⟩

theorem fits_run_append_literals {cs : List Char} :
    Fits ([.anyRun] ++ cs.map .literal) text ↔ cs <:+ text := by
  simp only [fits_run_append, fits_literals]
  constructor
  · rintro ⟨front, rest, rfl, rfl⟩
    exact ⟨front, rfl⟩
  · rintro ⟨front, rfl⟩
    exact ⟨front, cs, rfl, rfl⟩

theorem fits_run_append_literals_append_run {cs : List Char} :
    Fits ([.anyRun] ++ (cs.map .literal ++ [.anyRun])) text ↔ cs <:+: text := by
  simp only [fits_run_append, fits_literals_append_run]
  constructor
  · rintro ⟨front, rest, rfl, after, rfl⟩
    exact ⟨front, after, List.append_assoc front cs after⟩
  · rintro ⟨front, after, rfl⟩
    exact ⟨front, cs ++ after, List.append_assoc front cs after, after, rfl⟩

end fits

/-- Matching decides any condition that says what fits the pieces that are spelled. -/
theorem like?_of_spells {text pattern : String} {escape : Char} {pieces : LikePattern}
    {P : Prop} [Decidable P] (hspells : Spells escape pattern.toList pieces)
    (hfits : pieces.Fits text.toList ↔ P) : like? text pattern escape = some (decide P) := by
  have haccepts : pieces.accepts text.toList = decide P := by
    rw [Bool.eq_iff_iff, accepts_iff_fits, hfits, decide_eq_true_iff]
  rw [like?, read?, hspells.readChars?_eq, Option.map_some, haccepts]

/-- **Matching a text taken as it is** compares with the text, whatever characters it has and
whatever the escape character is.  Where a percent sign still stands for a run, one behind it
asks whether the text is a beginning, one in front of it whether it is an end, and both whether
it occurs at all.  There is an answer in each case. -/
theorem like?_verbatim (text wanted : String) (escape : Char) :
    let pattern := verbatim escape wanted
    like? text pattern escape = some (decide (text = wanted)) ∧
    (escape ≠ '%' →
      like? text ("%" ++ pattern ++ "%") escape
        = some (decide (wanted.toList <:+: text.toList)) ∧
      like? text (pattern ++ "%") escape = some (decide (wanted.toList <+: text.toList)) ∧
      like? text ("%" ++ pattern) escape = some (decide (wanted.toList <:+ text.toList))) := by
  intro pattern
  have hpattern : Spells escape pattern.toList (wanted.toList.map .literal) :=
    spells_verbatim escape wanted
  refine ⟨like?_of_spells hpattern ?_, fun hescape => ⟨?_, ?_, ?_⟩⟩
  · rw [fits_literals, String.toList_inj]
  · refine like?_of_spells ?_ fits_run_append_literals_append_run
    rw [String.toList_append, String.toList_append, List.append_assoc]
    exact (spells_run hescape).append (hpattern.append (spells_run hescape))
  · refine like?_of_spells ?_ fits_literals_append_run
    rw [String.toList_append]
    exact hpattern.append (spells_run hescape)
  · refine like?_of_spells ?_ fits_run_append_literals
    rw [String.toList_append]
    exact (spells_run hescape).append hpattern

/-- With `_` as the escape character a text that ends in both special characters is found at the
end of another one, and is not the whole of it. -/
theorem like?_verbatim_underscore :
    verbatim '_' "5%_" = "5_%__" ∧ '_' ≠ '%' ∧
      like? "rise: 5%_" "5_%__" '_' = some false ∧
      like? "rise: 5%_" "%5_%__%" '_' = some true ∧
      like? "rise: 5%_" "5_%__%" '_' = some false ∧
      like? "rise: 5%_" "%5_%__" '_' = some true := by
  have hpattern : verbatim '_' "5%_" = "5_%__" := by decide
  have hescape : '_' ≠ '%' := by decide
  obtain ⟨hwhole, hopen⟩ := like?_verbatim "rise: 5%_" "5%_" '_'
  obtain ⟨hinside, hfront, hback⟩ := hopen hescape
  rw [hpattern] at hwhole hinside hfront hback
  exact ⟨hpattern, hescape, hwhole, hinside, hfront, hback⟩

end LikePattern

end RecordQuery
