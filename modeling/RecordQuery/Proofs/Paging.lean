import Mathlib.Data.List.Infix
import RecordQuery.Proofs.Retrieval

/-!
# Pages of an answer

A page of an answer is a part of the whole answer.  The pages of one size, in the order of their
numbers, are the whole answer cut into parts, even where the offset of a page is no word of 64
bits: the last word stands for it, and no answer reaches that far.

## Main Statements

* `Page.window_numbered` — what is on a page with a number, in terms of positions
* `Page.flatMap_extract` — the first pages together are the first entries
* `Page.existsUnique_number` — each position is on one page
* `Store.findAllWith_page` — a page is cut out of the whole answer
* `Store.findAllWith_pages` — the pages of an answer
-/

namespace RecordQuery

namespace Page

variable {α β : Type} {items : List α} {number size : Int64}

theorem window_map (page : Page) (f : α → β) (items : List α) :
    page.window (items.map f) = (page.window items).map f := by
  rw [window, window, List.map_take, List.map_drop]

/-- With a greater limit a page goes on where the other one ends. -/
theorem window_prefix_window (offset : Int64) {limit limit' : Int64}
    (h : limit.toInt ≤ limit'.toInt) (items : List α) :
    window ⟨offset, limit⟩ items <+: window ⟨offset, limit'⟩ items :=
  List.take_prefix_take_left (Int.toNat_le_toNat h)

/-! ## Pages with a number -/

theorem toInt_saturate {n : Int} (h : 0 ≤ n) : (saturate n).toInt = min n (2 ^ 63 - 1) := by
  rw [saturate, Int64.toInt_ofInt_of_le (by omega) (by omega)]
  omega

theorem extract_succ (items : List α) (p k : Nat) :
    items.extract (p * k) ((p + 1) * k) = (items.drop (p * k)).take k := by
  rw [List.extract_eq_take_drop, Nat.succ_mul, Nat.add_sub_cancel_left]

/-- **What is on a page with a number**: the entries from the number times the size on.  An
offset that is no word of 64 bits lies behind all entries, and so does the last word. -/
theorem window_numbered (hnumber : 0 ≤ number.toInt) (hsize : 0 ≤ size.toInt)
    (hlength : items.length < 2 ^ 63) :
    (numbered number size).window items
      = items.extract (number.toInt.toNat * size.toInt.toNat)
          ((number.toInt.toNat + 1) * size.toInt.toNat) := by
  obtain ⟨p, hp⟩ := Int.eq_ofNat_of_zero_le hnumber
  obtain ⟨k, hk⟩ := Int.eq_ofNat_of_zero_le hsize
  have hoffset : (numbered number size).offset.toInt.toNat = min (p * k) (2 ^ 63 - 1) := by
    have hproduct : number.toInt * size.toInt = ((p * k : ℕ) : ℤ) := by
      rw [hp, hk, Int.natCast_mul]
    rw [numbered, hproduct, toInt_saturate (Int.natCast_nonneg _)]
    omega
  have hlimit : (numbered number size).limit.toInt.toNat = k := by
    rw [numbered, hk, Int.toNat_natCast]
  rw [window, hoffset, hlimit, hp, hk, Int.toNat_natCast, Int.toNat_natCast, extract_succ]
  obtain hwithin | hbeyond := Nat.le_total (p * k) (2 ^ 63 - 1)
  · rw [Nat.min_eq_left hwithin]
  · rw [Nat.min_eq_right hbeyond, List.drop_eq_nil_of_le (by omega),
      List.drop_eq_nil_of_le (by omega)]

/-- **The first pages together are the first entries.** -/
theorem flatMap_extract (items : List α) (size n : Nat) :
    (List.range n).flatMap (fun p => items.extract (p * size) ((p + 1) * size))
      = items.take (n * size) := by
  induction n with
  | zero => rw [Nat.zero_mul]; rfl
  | succ n ih =>
    rw [List.range_succ, List.flatMap_append, ih, List.flatMap_singleton, extract_succ,
      Nat.succ_mul, List.take_add]

/-- A part of a list has the entries at its positions. -/
theorem mem_extract_zipIdx {entry : α × Nat} {start stop : Nat} :
    entry ∈ items.zipIdx.extract start stop
      ↔ entry ∈ items.zipIdx ∧ start ≤ entry.2 ∧ entry.2 < stop := by
  have hentry :
      ∀ j, items.zipIdx[j]? = some entry ↔ items[j]? = some entry.1 ∧ j = entry.2 := by
    intro j
    rw [List.getElem?_zipIdx, Option.map_eq_some_iff, Nat.zero_add]
    simp [Prod.ext_iff]
  simp only [List.mem_iff_getElem?, List.getElem?_take, List.getElem?_drop,
    Option.ite_none_right_eq_some, hentry]
  constructor
  · rintro ⟨j, hj, hx, hi⟩
    exact ⟨⟨_, hx, hi⟩, by omega, by omega⟩
  · rintro ⟨⟨i, hx, rfl⟩, hstart, hstop⟩
    have hi : start + (entry.2 - start) = entry.2 := Nat.add_sub_cancel' hstart
    exact ⟨entry.2 - start, by omega, by rwa [hi], hi⟩

/-- **Each position is on one page.** -/
theorem existsUnique_number (hsize : 1 ≤ size.toInt) (hlength : items.length < 2 ^ 63)
    {entry : α × Nat} (hentry : entry ∈ items.zipIdx) :
    ∃! number : Int64,
      0 ≤ number.toInt ∧ entry ∈ (numbered number size).window items.zipIdx := by
  obtain ⟨k, hk⟩ := Int.eq_ofNat_of_zero_le (by omega : 0 ≤ size.toInt)
  have hpos : 0 < k := by omega
  have hwindow : ∀ number : Int64, 0 ≤ number.toInt →
      (entry ∈ (numbered number size).window items.zipIdx
        ↔ entry.2 / k = number.toInt.toNat) := by
    intro number hnumber
    rw [window_numbered hnumber (by omega) (by rwa [List.length_zipIdx]), mem_extract_zipIdx,
      and_iff_right hentry, hk, Int.toNat_natCast, Nat.div_eq_iff hpos, Nat.succ_mul]
    omega
  have hlast : entry.2 / k < 2 ^ 63 := by
    have hplace := List.snd_lt_of_mem_zipIdx hentry
    have hle := Nat.div_le_self entry.2 k
    omega
  generalize entry.2 / k = p at hwindow hlast
  have hnumber : (Int64.ofNat p).toInt = p := Int64.toInt_ofNat_of_lt hlast
  refine ⟨Int64.ofNat p, ⟨by omega, (hwindow _ (by omega)).2 (by omega)⟩, ?_⟩
  rintro other ⟨hother, hmem⟩
  have hsame := (hwindow other hother).1 hmem
  rw [← Int64.toInt_inj]
  omega

end Page

/-! ## Answers -/

/-- Where each of some questions has an answer, asking them one after
another gives the answers. -/
theorem mapM_eq_ok {ε β γ : Type} {ask : β → Except ε γ} {answer : β → γ} {xs : List β}
    (h : ∀ x ∈ xs, ask x = .ok (answer x)) : xs.mapM ask = .ok (xs.map answer) := by
  induction xs with
  | nil => rfl
  | cons x xs ih =>
    obtain ⟨hx, hxs⟩ := List.forall_mem_cons.1 h
    rw [List.mapM_cons, hx, ih hxs]
    rfl

namespace Store

variable {α : Type} {type : EntityType α} {store : Store α} {filter : Filter}
  {sorting : Sorting}

/-- **A page is cut out of the whole answer**, and there is none without it. -/
theorem findAllWith_page (page : Page) :
    store.findAllWith type filter { sorting, page := some page }
      = (store.findAllWith type filter { sorting }).map page.window := by
  unfold findAllWith
  cases store.matching type filter with
  | error fault => rfl
  | ok found => rfl

/-- **The pages of an answer.**  A page leaves out as many entries of the whole answer as its
offset says and then takes as many as its limit says; negative numbers count as zero, and a
greater limit only makes the page longer.  The pages of a positive size are the parts of the
answer between multiples of the size, however large the number of the page is.  So each entry is
on one page, in terms of positions, and the pages in their order are the whole answer. -/
theorem findAllWith_pages {all : List α}
    (hall : store.findAllWith type filter { sorting } = .ok all) :
    let answer (page : Page) := store.findAllWith type filter { sorting, page := some page }
    (∀ page, answer page
      = .ok ((all.drop (max 0 page.offset.toInt).toNat).take (max 0 page.limit.toInt).toNat)) ∧
    (∀ offset limit limit' : Int64, limit.toInt ≤ limit'.toInt →
      ∃ fewer more, answer ⟨offset, limit⟩ = .ok fewer ∧ answer ⟨offset, limit'⟩ = .ok more ∧
        fewer <+: more) ∧
    (all.length < 2 ^ 63 → ∀ size : Int64, 1 ≤ size.toInt →
      (∀ number : Int64, 0 ≤ number.toInt →
        answer (.numbered number size)
          = .ok (all.extract (number.toInt.toNat * size.toInt.toNat)
              ((number.toInt.toNat + 1) * size.toInt.toNat)) ∧
        answer (.numbered number size)
          = .ok (((Page.numbered number size).window all.zipIdx).map Prod.fst)) ∧
      (∀ entry ∈ all.zipIdx, ∃! number : Int64, 0 ≤ number.toInt ∧
        entry ∈ (Page.numbered number size).window all.zipIdx) ∧
      ∀ n ≤ 2 ^ 63, all.length ≤ n * size.toInt.toNat →
        ∃ pages, (List.range n).mapM (fun p => answer (.numbered (.ofNat p) size)) = .ok pages ∧
          pages.flatten = all) := by
  intro answer
  have hanswer : ∀ page, answer page = .ok (page.window all) := by
    intro page
    rw [show answer page = _ from findAllWith_page page, hall]
    rfl
  refine ⟨fun page => ?_, fun offset limit limit' hlimit => ?_, fun hlength size hsize =>
    ⟨fun number hnumber => ⟨?_, ?_⟩, fun entry => Page.existsUnique_number hsize hlength,
      fun n hn hcovers => ?_⟩⟩
  · have hclamp : ∀ n : ℤ, (max 0 n).toNat = n.toNat := by omega
    rw [hanswer, hclamp, hclamp, Page.window]
  · exact ⟨_, _, hanswer _, hanswer _, Page.window_prefix_window offset hlimit all⟩
  · rw [hanswer, Page.window_numbered hnumber (by omega) hlength]
  · rw [hanswer, ← Page.window_map, List.zipIdx_map_fst]
  · have hpage : ∀ p ∈ List.range n, answer (.numbered (.ofNat p) size)
        = .ok (all.extract (p * size.toInt.toNat) ((p + 1) * size.toInt.toNat)) := by
      intro p hp
      have hnumber : (Int64.ofNat p).toInt = p :=
        Int64.toInt_ofNat_of_lt (by rw [List.mem_range] at hp; omega)
      rw [hanswer, Page.window_numbered (by omega) (by omega) hlength, hnumber,
        Int.toNat_natCast]
    refine ⟨_, mapM_eq_ok hpage, ?_⟩
    rw [← List.flatMap_def, Page.flatMap_extract, List.take_of_length_le hcovers]

/-- Three films on pages of two: the last page is not full, the two pages together are the
answer, and on pages of four the one that would start at `2 ^ 64` is empty. -/
theorem findAllWith_pages_films :
    let type : EntityType Json := ⟨⟨"films", "id"⟩, .ok⟩
    let film (name : String) : Json := .object [("name", .text name)]
    let store : Store Json := ⟨[film "Dark", film "Utopia", film "Lost"]⟩
    let sorting : Sorting := [⟨"name", .descending⟩]
    let page (number size : Int64) :=
      store.findAllWith type .unrestricted { sorting, page := some (.numbered number size) }
    store.findAllWith type .unrestricted { sorting }
        = .ok [film "Utopia", film "Lost", film "Dark"] ∧
      page 1 2 = .ok [film "Dark"] ∧
      page (Int64.ofInt (2 ^ 62)) 4 = .ok [] ∧
      ∃ pages, [0, 1].mapM (fun p => page (.ofNat p) 2) = .ok pages ∧
        pages.flatten = [film "Utopia", film "Lost", film "Dark"] := by
  intro type film store sorting page
  have hall : store.findAllWith type .unrestricted { sorting }
      = .ok [film "Utopia", film "Lost", film "Dark"] := rfl
  obtain ⟨-, -, hpages⟩ := findAllWith_pages hall
  obtain ⟨htwo, -, hflatten⟩ := hpages (by decide) 2 (by decide)
  obtain ⟨hfour, -, -⟩ := hpages (by decide) 4 (by decide)
  exact ⟨hall, (htwo 1 (by decide)).1, (hfour (Int64.ofInt (2 ^ 62)) (by decide)).1,
    hflatten 2 (by decide) (by decide)⟩

end Store

end RecordQuery
