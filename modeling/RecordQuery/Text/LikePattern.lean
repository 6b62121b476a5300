/-!
# Patterns of text

Patterns in which `%` stands for any run of characters and `_` for any one character, and an
escape character takes the special meaning from the character after it.

## Main Definitions

* `LikePattern` — a pattern as the pieces it asks for
* `LikePattern.read?` — reads a pattern; one that ends in a lone escape character is none
* `LikePattern.accepts` — whether a text as a whole fits a pattern

## Design Notes

Whether a text fits is decided character by character: a row says of each beginning of the
pattern whether the characters so far fit it.  A further character turns that row into the next
one, so the work is one step for each piece and character.
-/

namespace RecordQuery

/-- One piece of a pattern. -/
inductive LikePiece
  | literal (c : Char)
  | anyChar
  | anyRun
  deriving DecidableEq, Repr

/-- A pattern of text. -/
abbrev LikePattern := List LikePiece

namespace LikePattern

/-- The piece that a character without escape stands for. -/
def pieceOf (c : Char) : LikePiece :=
  if c = '%' then .anyRun else if c = '_' then .anyChar else .literal c

/-- Reads the characters of a pattern.  The escape character is looked at first, so it may be
one of the special characters itself. -/
def readChars? (escape : Char) : List Char → Option LikePattern
  | [] => some []
  | [c] => if c = escape then none else some [pieceOf c]
  | c :: d :: cs =>
    if c = escape then (readChars? escape cs).map (.literal d :: ·)
    else (readChars? escape (d :: cs)).map (pieceOf c :: ·)

/-- Reads a pattern. -/
def read? (escape : Char) (pattern : String) : Option LikePattern :=
  readChars? escape pattern.toList

/-- Says of each beginning of a pattern whether the empty text fits it, given whether it fits
the pieces before the pattern. -/
def firstRow (reached : Bool) : LikePattern → List Bool
  | [] => [reached]
  | piece :: pattern => reached :: firstRow (reached && piece == .anyRun) pattern

/-- Whether a text that goes on with `c` fits pieces up to a given one: `left` is whether it
fits those before that one, and `diagonal` and `above` are whether it did so without `c`, for
the pieces before that one and with it. -/
def entry (c : Char) (left diagonal above : Bool) : LikePiece → Bool
  | .literal d => diagonal && d == c
  | .anyChar => diagonal
  | .anyRun => left || above

/-- Says of each beginning of a pattern whether a text fits it, given what was said of the text
without its last character `c`. -/
def nextRow (c : Char) (left : Bool) : LikePattern → List Bool → List Bool
  | piece :: pattern, diagonal :: above :: row =>
    left :: nextRow c (entry c left diagonal above piece) pattern (above :: row)
  | _, _ => [left]

/-- Says of each beginning of a pattern whether a text fits it. -/
def lastRow (pattern : LikePattern) (text : List Char) : List Bool :=
  text.foldl (fun row c => nextRow c false pattern row) (firstRow true pattern)

/-- Whether a text as a whole fits the pattern. -/
def accepts (pattern : LikePattern) (text : List Char) : Bool :=
  (lastRow pattern text).getLastD false

end LikePattern

/-- Whether a text fits a written pattern; `none` if the pattern ends in a lone escape
character. -/
def like? (text pattern : String) (escape : Char) : Option Bool :=
  (LikePattern.read? escape pattern).map fun pieces => pieces.accepts text.toList

end RecordQuery
