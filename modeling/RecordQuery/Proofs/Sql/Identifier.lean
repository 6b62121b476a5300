import Mathlib.Data.Bool.AllAny
import RecordQuery.Sql.Identifier

/-!
# Plain names

A name from the settings is accepted exactly if it is a plain one.  A plain name stands between
its marks as it is, since there is no mark in it to be doubled.

## Main Definitions

* `Sql.IsPlainName` — plain names, by their alphabet and by the words that are none

## Main Statements

* `Sql.checkIdentifier_eq_ok_iff` — the accepted names are the plain ones
* `Sql.IsPlainName.quoteIdentifier_eq` — a plain name is quoted without a change

## Design Notes

The check compares characters with the ends of two ranges and writes a name in capitals to look
it up.  What a plain name is, is said here without ranges and with both sides in small letters.
-/

namespace RecordQuery

namespace Sql

/-- The small letters of a plain name. -/
def letters : List Char :=
  ['a', 'b', 'c', 'd', 'e', 'f', 'g', 'h', 'i', 'j', 'k', 'l', 'm', 'n', 'o', 'p', 'q', 'r',
    's', 't', 'u', 'v', 'w', 'x', 'y', 'z']

/-- The digits of a plain name. -/
def digits : List Char := ['0', '1', '2', '3', '4', '5', '6', '7', '8', '9']

/-- A plain name: a small letter or an underscore, then small letters, digits and underscores up
to its end.  No reserved word is a plain name, however it is capitalized. -/
structure IsPlainName (name : String) : Prop where
  spelled : ∃ c cs, name.toList = c :: cs ∧ (c ∈ letters ∨ c = '_') ∧
    ∀ d ∈ cs, d ∈ letters ∨ d ∈ digits ∨ d = '_'
  unreserved : ∀ word ∈ reservedWords, name.toLower ≠ word.toLower

/-! ## Characters -/

/-- A range of characters lies in an alphabet that has the characters of its code points. -/
theorem mem_of_mem_range {alphabet : List Char} {first last c : Char}
    (hrange : ∀ n ≤ last.toNat, first.toNat ≤ n → Char.ofNat n ∈ alphabet)
    (hfirst : first ≤ c) (hlast : c ≤ last) : c ∈ alphabet := by
  have hmem : Char.ofNat c.toNat ∈ alphabet := hrange c.toNat hlast hfirst
  rwa [Char.ofNat_toNat] at hmem

theorem isNameStart_iff {c : Char} : isNameStart c = true ↔ c ∈ letters ∨ c = '_' := by
  have hletters : ∀ c ∈ letters, 'a' ≤ c ∧ c ≤ 'z' :=
    List.all_iff_forall_prop.1 (by decide)
  simp only [isNameStart, Bool.or_eq_true, Bool.and_eq_true, decide_eq_true_eq, beq_iff_eq]
  refine or_congr_left ⟨fun ⟨hfirst, hlast⟩ => ?_, hletters c⟩
  exact mem_of_mem_range (by decide) hfirst hlast

theorem isNamePart_iff {c : Char} :
    isNamePart c = true ↔ c ∈ letters ∨ c ∈ digits ∨ c = '_' := by
  have hdigits : ∀ c ∈ digits, '0' ≤ c ∧ c ≤ '9' :=
    List.all_iff_forall_prop.1 (by decide)
  simp only [isNamePart, Bool.or_eq_true, Bool.and_eq_true, decide_eq_true_eq, isNameStart_iff]
  rw [or_assoc, or_comm (a := c = '_')]
  refine or_congr_right (or_congr_left ⟨fun ⟨hfirst, hlast⟩ => ?_, hdigits c⟩)
  exact mem_of_mem_range (by decide) hfirst hlast

/-! ## Names -/

theorem isPlain_iff {cs : List Char} :
    isPlain cs = true ↔ ∃ d ds, cs = d :: ds ∧ (d ∈ letters ∨ d = '_') ∧
      ∀ e ∈ ds, e ∈ letters ∨ e ∈ digits ∨ e = '_' := by
  cases cs with
  | nil => simp [isPlain]
  | cons c cs =>
    simp only [isPlain, Bool.and_eq_true, List.all_eq_true, isNameStart_iff, isNamePart_iff,
      List.cons.injEq]
    constructor
    · intro h
      exact ⟨c, cs, ⟨rfl, rfl⟩, h⟩
    · rintro ⟨d, ds, ⟨rfl, rfl⟩, h⟩
      exact h

theorem mem_of_isPlain {cs : List Char} (h : isPlain cs = true) :
    ∀ c ∈ cs, c ∈ letters ++ digits ++ ['_'] := by
  obtain ⟨d, ds, rfl, hd, hds⟩ := isPlain_iff.1 h
  intro c hc
  rw [List.mem_append, List.mem_append, List.mem_singleton, or_assoc]
  rcases List.mem_cons.1 hc with rfl | hc
  · exact hd.imp_right .inr
  · exact hds c hc

/-- A plain name is one in small letters, and the one that its capitals stand for. -/
theorem map_toLower_of_isPlain {cs : List Char} (h : isPlain cs = true) :
    cs.map Char.toLower = cs ∧ (cs.map Char.toUpper).map Char.toLower = cs := by
  have hcase : ∀ c ∈ letters ++ digits ++ ['_'], c.toLower = c ∧ c.toUpper.toLower = c :=
    List.all_iff_forall_prop.1 (by decide)
  constructor
  · refine (List.map_congr_left fun c hc => ?_).trans (List.map_id' cs)
    exact (hcase c (mem_of_isPlain h c hc)).1
  · rw [List.map_map]
    refine (List.map_congr_left fun c hc => ?_).trans (List.map_id' cs)
    exact (hcase c (mem_of_isPlain h c hc)).2

theorem isReserved_iff {name : String} (h : isPlain name.toList = true) :
    isReserved name = true ↔ ∃ word ∈ reservedWords, name.toLower = word.toLower := by
  obtain ⟨hlower, hupper⟩ := map_toLower_of_isPlain h
  have hcapitals : ∀ word ∈ reservedWords,
      (word.toList.map Char.toLower).map Char.toUpper = word.toList := by decide +kernel
  rw [isReserved, List.contains_iff_mem]
  constructor
  · intro hmem
    refine ⟨_, hmem, ?_⟩
    have hsame : name.toList.map Char.toLower
        = (String.ofList (name.toList.map Char.toUpper)).toList.map Char.toLower := by
      rw [String.toList_ofList, hupper, hlower]
    rw [← String.toList_map, ← String.toList_map] at hsame
    exact String.toList_inj.1 hsame
  · rintro ⟨word, hword, hsame⟩
    have hname : name.toList = word.toList.map Char.toLower := by
      rw [← hlower, ← String.toList_map, ← String.toList_map]
      exact congrArg String.toList hsame
    rw [hname, hcapitals word hword, String.ofList_toList]
    exact hword

/-- **The accepted names are the plain ones.** -/
theorem checkIdentifier_eq_ok_iff {name : String} :
    checkIdentifier name = .ok () ↔ IsPlainName name := by
  unfold checkIdentifier
  by_cases hplain : isPlain name.toList = true
  · have hempty : ¬name.isEmpty = true := by
      intro hempty
      rw [String.isEmpty_iff.1 hempty] at hplain
      exact absurd hplain (by decide)
    rw [if_neg hempty, if_neg (by rw [hplain]; decide)]
    constructor
    · intro hok
      refine ⟨isPlain_iff.1 hplain, fun word hword hsame => ?_⟩
      rw [if_pos ((isReserved_iff hplain).2 ⟨word, hword, hsame⟩)] at hok
      exact absurd hok nofun
    · intro hname
      refine if_neg fun hreserved => ?_
      obtain ⟨word, hword, hsame⟩ := (isReserved_iff hplain).1 hreserved
      exact hname.unreserved word hword hsame
  · constructor
    · rw [Bool.eq_false_iff.2 hplain]
      split <;> nofun
    · exact fun hname => absurd (isPlain_iff.2 hname.spelled) hplain

/-- A name that is not plain is refused for one fault or another. -/
theorem exists_checkIdentifier_eq_error_iff {name : String} :
    (∃ fault, checkIdentifier name = .error fault) ↔ ¬IsPlainName name := by
  rw [← checkIdentifier_eq_ok_iff]
  cases checkIdentifier name with
  | ok => exact ⟨nofun, fun h => absurd rfl h⟩
  | error fault => exact ⟨nofun, fun _ => ⟨fault, rfl⟩⟩

/-- A text without the mark is quoted as it is. -/
theorem doubled_eq_self {mark : Char} {cs : List Char} (h : mark ∉ cs) :
    doubled mark cs = cs := by
  induction cs with
  | nil => rfl
  | cons c cs ih =>
    obtain ⟨hc, hcs⟩ := not_or.1 (mt List.mem_cons.2 h)
    rw [doubled_cons, if_neg (Ne.symm hc), ih hcs]
    rfl

/-- **A plain name is quoted without a change.** -/
theorem IsPlainName.quoteIdentifier_eq {name : String} (h : IsPlainName name) :
    quoteIdentifier name = "\"" ++ name ++ "\"" := by
  have hmark : '"' ∉ name.toList := fun hmem =>
    absurd (mem_of_isPlain (isPlain_iff.2 h.spelled) _ hmem) (by decide)
  rw [← String.toList_inj]
  simp [quoteIdentifier, quoted, doubled_eq_self hmark]

end Sql

end RecordQuery
