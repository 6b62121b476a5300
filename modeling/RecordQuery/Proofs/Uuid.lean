import RecordQuery.Proofs.Text.Numeral
import RecordQuery.Uuid

/-!
# Written identifiers

Written identifiers are in the order of the identifiers, and are read back.

## Main Statements

* `Uuid.compare_text` — texts of identifiers are in the order of the identifiers
* `Uuid.read?_text` — the text of an identifier is read back
-/

namespace RecordQuery

-- sums start from the literal zero, whatever other zeros a library brings
attribute [local instance (high)] Zero.ofOfNat0

namespace Uuid

/-! ## Groups -/

theorem hyphenate_cons (n : Nat) {ns : List Nat} (hns : ns ≠ []) (cs : List Char) :
    hyphenate (n :: ns) cs = cs.take n ++ '-' :: hyphenate ns (cs.drop n) := by
  cases ns with
  | nil => exact absurd rfl hns
  | cons m ms => rfl

theorem length_hyphenate (ns : List Nat) (cs : List Char) :
    (hyphenate ns cs).length = cs.length + (ns.length - 1) := by
  induction ns generalizing cs with
  | nil => rfl
  | cons n ns ih =>
    rcases eq_or_ne ns [] with rfl | hns
    · rfl
    · have hpos := List.length_pos_of_ne_nil hns
      have hcs : (cs.take n).length + (cs.drop n).length = cs.length := by
        rw [← List.length_append, List.take_append_drop]
      rw [hyphenate_cons n hns, List.length_append, List.length_cons, ih, List.length_cons]
      omega

/-- Hyphens stand in the same places and make no difference. -/
theorem compare_hyphenate (ns : List Nat) {cs ds : List Char} (h : cs.length = ds.length) :
    Ord.compare (hyphenate ns cs) (hyphenate ns ds) = Ord.compare cs ds := by
  induction ns generalizing cs ds with
  | nil => rfl
  | cons n ns ih =>
    rcases eq_or_ne ns [] with rfl | hns
    · rfl
    · have htake : (cs.take n).length = (ds.take n).length := by simp [h]
      have hdrop : (cs.drop n).length = (ds.drop n).length := by simp [h]
      rw [hyphenate_cons n hns, hyphenate_cons n hns, compare_append_append htake,
        compare_cons_same, ih hdrop, ← compare_append_append htake, List.take_append_drop,
        List.take_append_drop]

/-- Characters in their groups are read back. -/
theorem unhyphenate?_hyphenate {ns : List Nat} {cs : List Char} (h : cs.length = ns.sum) :
    unhyphenate? ns (hyphenate ns cs) = some cs := by
  induction ns generalizing cs with
  | nil =>
    obtain rfl := List.eq_nil_of_length_eq_zero h
    rfl
  | cons n ns ih =>
    rcases eq_or_ne ns [] with rfl | hns
    · exact if_pos h
    · rw [List.sum_cons] at h
      have htake : (cs.take n).length = n := List.length_take_of_le (by omega)
      have hdrop : (cs.drop n).length = ns.sum := by rw [List.length_drop]; omega
      rw [hyphenate_cons n hns, unhyphenate?, List.drop_left' htake, List.take_left' htake]
      · simp only [ih hdrop, Option.map_some, List.take_append_drop]
      · exact fun hnil => hns hnil

/-! ## Identifiers -/

theorem number_lt_pow (x : Uuid) : x.number < 16 ^ 32 := x.number_lt.trans_eq (by decide)

theorem length_digits (x : Uuid) :
    (Numeral.chars (Numeral.fixed 16 32 x.number)).length = 32 := by
  rw [Numeral.length_chars, Numeral.length_fixed]

/-- **Texts of identifiers are in the order of the identifiers.** -/
theorem compare_text (x y : Uuid) : Ord.compare x.text y.text = x.compare y := by
  rw [text, text, compare_ofList, chars, chars,
    compare_hyphenate groups (x.length_digits.trans y.length_digits.symm),
    Numeral.compare_fixed (by decide) (by decide) x.number_lt_pow y.number_lt_pow, compare]

/-- **The text of an identifier is read back.** -/
theorem read?_text (x : Uuid) : read? x.text = some x := by
  have hlength : x.chars.length = 36 := by
    rw [chars, length_hyphenate, length_digits]
    rfl
  have hgroups : unhyphenate? groups x.chars
      = some (Numeral.chars (Numeral.fixed 16 32 x.number)) :=
    unhyphenate?_hyphenate x.length_digits
  have hread :
      Numeral.read? 16 (Numeral.chars (Numeral.fixed 16 32 x.number)) = some x.number := by
    rw [Numeral.read?_chars (Nat.le_refl 16) fun d hd => Numeral.lt_of_mem_fixed (by decide) hd,
      Numeral.value_fixed, Nat.mod_eq_of_lt x.number_lt_pow]
  rw [read?, text, String.toList_ofList, readChars?, if_neg (by rw [hlength]; decide),
    if_pos hlength, ofGroups?, hgroups, Option.bind_some, ofDigits?, if_pos x.length_digits,
    hread, Option.bind_some, dif_pos x.number_lt]

end Uuid

end RecordQuery
