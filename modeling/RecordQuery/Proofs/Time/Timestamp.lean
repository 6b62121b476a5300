import Mathlib.Tactic.SplitIfs
import RecordQuery.Proofs.Text.Numeral
import RecordQuery.Proofs.Time.Calendar
import RecordQuery.Time.Timestamp

/-!
# Written timestamps

Within the years of four digits, written timestamps are in the order of time, and are read back.

## Main Definitions

* `Instant.date`, `Instant.secondOfDay` — the date of an instant and its
  second, in universal time
* `Instant.HasShortYear` — the year of the date has four digits

## Main Statements

* `Instant.compare_text` — texts of instants are in the order of the instants
* `Instant.read?_text` — the text of an instant is read back
* `Instant.read?_text_of_not_hasShortYear` — in other years it is not

## Design Notes

Every field but the fraction has one width, so the order of the texts is that of the first field
in which they differ.  A fraction is followed by the offset, whose sign comes before the point
and before all digits: a fraction that is left out or ends early comes first.
-/

namespace RecordQuery

namespace Instant

/-- The date of an instant, in universal time. -/
def date (t : Instant) : Date := Date.ofNumber (t.seconds / 86400)

/-- The number of the second in its day; a leap second has that of the one before it. -/
def secondOfDay (t : Instant) : Nat := (t.seconds % 86400).toNat

/-- Whether the year of the instant is one from zero to 9999. -/
def HasShortYear (t : Instant) : Prop := 0 ≤ t.date.year ∧ t.date.year ≤ 9999

instance (t : Instant) : Decidable t.HasShortYear := inferInstanceAs (Decidable (_ ∧ _))

/-- The number of the second in its minute, as it is written. -/
def writtenSecond (t : Instant) : Nat := t.secondOfDay % 60 + if t.isLeap then 1 else 0

/-- What stands at the end of a written timestamp: no offset from universal time. -/
def universal : List Char := ['+', '0', '0', ':', '0', '0']

theorem exists_date (t : Instant) : t.date.Exists := Date.exists_ofNumber _

theorem secondOfDay_lt (t : Instant) : t.secondOfDay < 86400 := by
  unfold secondOfDay
  omega

theorem writtenSecond_le (t : Instant) : t.writtenSecond ≤ 60 := by
  unfold writtenSecond
  split <;> omega

/-- The fields of a written timestamp and the marks between them. -/
theorem chars_eq {t : Instant} (h : t.HasShortYear) :
    t.chars =
      Numeral.decimal 4 t.date.year.toNat ++ '-' :: (Numeral.decimal 2 t.date.month ++
        '-' :: (Numeral.decimal 2 t.date.day ++
        'T' :: (Numeral.decimal 2 (t.secondOfDay / 3600) ++
          ':' :: (Numeral.decimal 2 (t.secondOfDay / 60 % 60) ++
            ':' :: (Numeral.decimal 2 t.writtenSecond ++
              (fractionChars (t.nanos % 10 ^ 9) ++ universal)))))) := by
  have hyear : yearChars t.date.year = Numeral.decimal 4 t.date.year.toNat := by
    have habs : t.date.year.natAbs = t.date.year.toNat := by
      have := h.1
      omega
    rw [yearChars, if_neg (Int.not_lt.2 h.1), if_neg (Int.not_lt.2 h.2), habs]
  rw [← hyear, chars]
  simp only [List.append_assoc, List.cons_append]
  rfl

/-! ## Fractions -/

/-- The number of digits of a fraction that is not zero. -/
def fractionWidth (nanos : Nat) : Nat :=
  if nanos % 10 ^ 6 = 0 then 3 else if nanos % 10 ^ 3 = 0 then 6 else 9

theorem fractionChars_of_ne_zero {nanos : Nat} (h : nanos ≠ 0) :
    fractionChars nanos
      = '.' :: Numeral.decimal (fractionWidth nanos)
        (nanos / 10 ^ (9 - fractionWidth nanos)) := by
  unfold fractionChars fractionWidth
  rw [if_neg h]
  split
  · rfl
  split
  · rfl
  · rw [Nat.sub_self, Nat.pow_zero, Nat.div_one]

theorem fractionWidth_spec (nanos : Nat) :
    0 < fractionWidth nanos ∧ fractionWidth nanos ≤ 9 ∧
      nanos % 10 ^ (9 - fractionWidth nanos) = 0 := by
  unfold fractionWidth
  split
  · next h => exact ⟨by decide, by decide, h⟩
  split
  · next h => exact ⟨by decide, by decide, h⟩
  · exact ⟨by decide, by decide, Nat.mod_one nanos⟩

/-- The digits that a longer fraction has in addition are not all zero. -/
theorem mod_ne_zero_of_fractionWidth_lt {m n : Nat} (h : fractionWidth m < fractionWidth n) :
    n % 10 ^ (9 - fractionWidth m) ≠ 0 := by
  unfold fractionWidth at *
  split_ifs at h ⊢ <;> omega

theorem div_lt_pow {n width : Nat} (hn : n < 10 ^ 9) (hwidth : width ≤ 9) :
    n / 10 ^ (9 - width) < 10 ^ width := by
  refine Nat.div_lt_of_lt_mul ?_
  rwa [← Nat.pow_add, Nat.sub_add_cancel hwidth]

/-- The offset after a short fraction stands where a longer one goes on,
and digits come later. -/
theorem compare_longer {m n width : Nat} (more : Nat) (hm : m < 10 ^ width)
    (hn : n < 10 ^ (width + (more + 1))) :
    Ord.compare (Numeral.chars (Numeral.fixed 10 width m) ++ universal)
        (Numeral.chars (Numeral.fixed 10 (width + (more + 1)) n) ++ universal)
      = (Ord.compare m (n / 10 ^ (more + 1))).then .lt := by
  have hdigits : ∀ d < 10, Ord.compare '+' d.digitChar = .lt := by decide +kernel
  have hnext : ∀ ys, Ord.compare universal
      (Numeral.chars (Numeral.fixed 10 (more + 1) n) ++ ys) = .lt := by
    intro ys
    rw [Nat.add_comm more, Numeral.fixed_add, Numeral.chars_append, List.append_assoc]
    exact (compare_cons_cons '+' _ _ _).trans
      (by rw [hdigits _ (Nat.mod_lt _ (by decide))]; rfl)
  have hlead : n / 10 ^ (more + 1) < 10 ^ width :=
    Nat.div_lt_of_lt_mul (by rwa [← Nat.pow_add, Nat.add_comm])
  rw [Numeral.fixed_add, Numeral.chars_append, List.append_assoc,
    compare_append_append (by simp), Numeral.compare_fixed (by decide) (by decide) hm hlead,
    hnext]

/-- A fraction comes before one with more digits unless it is the larger one. -/
theorem compare_fraction_of_le {m n : Nat} (hm : m < 10 ^ 9) (hn : n < 10 ^ 9) (hm0 : m ≠ 0)
    (hn0 : n ≠ 0) (hle : fractionWidth m ≤ fractionWidth n) :
    Ord.compare (fractionChars m ++ universal) (fractionChars n ++ universal)
      = Ord.compare m n := by
  obtain ⟨hmpos, hmle, hmrest⟩ := fractionWidth_spec m
  obtain ⟨hnpos, hnle, hnrest⟩ := fractionWidth_spec n
  have hmlt := div_lt_pow hm hmle
  have hnlt := div_lt_pow hn hnle
  rw [fractionChars_of_ne_zero hm0, fractionChars_of_ne_zero hn0, List.cons_append,
    List.cons_append, compare_cons_same,
    ← Numeral.compare_div_mod (10 ^ (9 - fractionWidth m)) m n, hmrest]
  obtain heq | hlt := Nat.eq_or_lt_of_le hle
  · rw [← heq] at hnrest hnlt ⊢
    rw [Numeral.compare_decimal_append hmpos hmlt hnlt, hnrest, Std.ReflOrd.compare_self,
      Std.ReflOrd.compare_self]
  · obtain ⟨more, hmore⟩ : ∃ more, fractionWidth n = fractionWidth m + (more + 1) :=
      ⟨fractionWidth n - fractionWidth m - 1, by omega⟩
    have hquot : n / 10 ^ (9 - fractionWidth n) / 10 ^ (more + 1)
        = n / 10 ^ (9 - fractionWidth m) := by
      rw [Nat.div_div_eq_div_mul, ← Nat.pow_add]
      congr 2
      omega
    have hrest : Ord.compare 0 (n % 10 ^ (9 - fractionWidth m)) = .lt :=
      Nat.compare_eq_lt.2 (Nat.pos_of_ne_zero (mod_ne_zero_of_fractionWidth_lt hlt))
    rw [Numeral.decimal_eq_fixed hmpos hmlt, Numeral.decimal_eq_fixed hnpos hnlt, hrest,
      ← hquot]
    generalize n / 10 ^ (9 - fractionWidth n) = q at hnlt ⊢
    rw [hmore] at hnlt ⊢
    exact compare_longer more hmlt hnlt

/-- **Fractions are in their order as written**, with the offset after them. -/
theorem compare_fraction {m n : Nat} (hm : m < 10 ^ 9) (hn : n < 10 ^ 9) :
    Ord.compare (fractionChars m ++ universal) (fractionChars n ++ universal)
      = Ord.compare m n := by
  -- no fraction is no point, and the offset comes before a point
  have hzero : ∀ {n}, n ≠ 0 →
      Ord.compare (fractionChars 0 ++ universal) (fractionChars n ++ universal) = .lt := by
    intro n hn0
    rw [fractionChars_of_ne_zero hn0]
    exact (compare_cons_cons '+' '.' _ _).trans rfl
  rcases Nat.eq_zero_or_pos m with rfl | hm0 <;> rcases Nat.eq_zero_or_pos n with rfl | hn0
  · rw [Std.ReflOrd.compare_self, Std.ReflOrd.compare_self]
  · rw [hzero hn0.ne', Nat.compare_eq_lt.2 hn0]
  · rw [Std.OrientedOrd.eq_swap, hzero hm0.ne', Nat.compare_eq_gt.2 hm0]
    rfl
  · rcases Nat.le_total (fractionWidth m) (fractionWidth n) with hle | hle
    · exact compare_fraction_of_le hm hn hm0.ne' hn0.ne' hle
    · rw [Std.OrientedOrd.eq_swap, compare_fraction_of_le hn hm hn0.ne' hm0.ne' hle,
        ← Std.OrientedOrd.eq_swap]

/-! ## Order -/

/-- All fields of a written timestamp fit their widths. -/
theorem fields_lt {t : Instant} (h : t.HasShortYear) :
    t.date.year.toNat < 10 ^ 4 ∧ t.date.month < 10 ^ 2 ∧ t.date.day < 10 ^ 2 ∧
      t.secondOfDay / 3600 < 10 ^ 2 ∧ t.secondOfDay / 60 % 60 < 10 ^ 2 ∧
      t.writtenSecond < 10 ^ 2 ∧ t.nanos % 10 ^ 9 < 10 ^ 9 := by
  obtain ⟨hfirst, hlast⟩ := h
  obtain ⟨-, hmonth, -, hday⟩ := t.exists_date
  have hday' := hday.trans (getD_monthLengths_le _ _)
  have hsecond := t.secondOfDay_lt
  have hwritten := t.writtenSecond_le
  refine ⟨?_, ?_, ?_, ?_, ?_, ?_, Nat.mod_lt _ (by decide)⟩ <;> omega

/-- Instants are in the order of their days, and then of the seconds in the day. -/
theorem compare_seconds (x y : Int) :
    (Ord.compare (x / 86400) (y / 86400)).then
      (Ord.compare (x % 86400).toNat (y % 86400).toNat) = Ord.compare x y := by
  refine compare_then_compare (· / 86400) (fun x => (x % 86400).toNat) (fun x y h => ?_) x y
  omega

/-- The nanoseconds since the start of the minute, up to the end of a leap second. -/
def nanosOfMinute (t : Instant) : Nat := t.secondOfDay % 60 * 10 ^ 9 + t.nanos

/-- A leap second stands only at the end of a minute. -/
theorem secondOfDay_mod_of_leap {t : Instant} (h : 10 ^ 9 ≤ t.nanos) :
    t.secondOfDay % 60 = 59 := by
  have hend := t.leap_at_end h
  unfold secondOfDay
  omega

theorem nanosOfMinute_div_mod (t : Instant) :
    t.nanosOfMinute / 10 ^ 9 = t.writtenSecond ∧
      t.nanosOfMinute % 10 ^ 9 = t.nanos % 10 ^ 9 := by
  have hnanos := t.nanos_lt
  unfold nanosOfMinute writtenSecond isLeap
  simp only [decide_eq_true_eq]
  split <;> omega

theorem compare_nanosOfMinute (s t : Instant) :
    (Ord.compare (s.secondOfDay % 60) (t.secondOfDay % 60)).then (Ord.compare s.nanos t.nanos)
      = Ord.compare s.nanosOfMinute t.nanosOfMinute := by
  -- the second before a leap second is the last one, so no other starts within it
  have hlt : ∀ {s t : Instant}, s.secondOfDay % 60 < t.secondOfDay % 60 →
      s.nanosOfMinute < t.nanosOfMinute := by
    intro s t h
    have hs := @secondOfDay_mod_of_leap s
    have ht := Nat.mod_lt t.secondOfDay (by decide : 0 < 60)
    unfold nanosOfMinute
    omega
  obtain h | h | h := lt_trichotomy (s.secondOfDay % 60) (t.secondOfDay % 60)
  · rw [Nat.compare_eq_lt.2 h, Nat.compare_eq_lt.2 (hlt h)]
    rfl
  · rw [nanosOfMinute, nanosOfMinute, h, Std.ReflOrd.compare_self, Ordering.eq_then]
    simp only [Nat.compare_eq_ite_lt, Nat.add_lt_add_iff_left]
  · rw [Nat.compare_eq_gt.2 h, Nat.compare_eq_gt.2 (hlt h)]
    rfl

/-- **A leap second is written in its place**: with the number sixty it comes after every part
of the second before it, as it does by its nanoseconds. -/
theorem compare_written (s t : Instant) :
    (Ord.compare s.writtenSecond t.writtenSecond).then
        (Ord.compare (s.nanos % 10 ^ 9) (t.nanos % 10 ^ 9))
      = (Ord.compare (s.secondOfDay % 60) (t.secondOfDay % 60)).then
          (Ord.compare s.nanos t.nanos) := by
  obtain ⟨hsecond, hnanos⟩ := s.nanosOfMinute_div_mod
  obtain ⟨hsecond', hnanos'⟩ := t.nanosOfMinute_div_mod
  rw [compare_nanosOfMinute, ← Numeral.compare_div_mod (10 ^ 9) s.nanosOfMinute, hsecond,
    hsecond', hnanos, hnanos']

/-- **Texts of instants are in the order of the instants**, within the years of four digits. -/
theorem compare_text {s t : Instant} (hs : s.HasShortYear) (ht : t.HasShortYear) :
    Ord.compare s.text t.text = s.compare t := by
  obtain ⟨hsyear, hsmonth, hsday, hshour, hsminute, hssecond, hsnanos⟩ := fields_lt hs
  obtain ⟨htyear, htmonth, htday, hthour, htminute, htsecond, htnanos⟩ := fields_lt ht
  have hyear : Ord.compare s.date.year.toNat t.date.year.toNat
      = Ord.compare s.date.year t.date.year := by
    obtain ⟨m, hm⟩ := Int.eq_ofNat_of_zero_le hs.1
    obtain ⟨n, hn⟩ := Int.eq_ofNat_of_zero_le ht.1
    rw [hm, hn]
    simp only [Int.toNat_natCast, Nat.compare_eq_ite_lt, Int.compare_eq_ite_lt, Int.ofNat_lt]
  have hminute : (Ord.compare (s.secondOfDay / 3600) (t.secondOfDay / 3600)).then
      (Ord.compare (s.secondOfDay / 60 % 60) (t.secondOfDay / 60 % 60))
        = Ord.compare (s.secondOfDay / 60) (t.secondOfDay / 60) := by
    rw [← Numeral.compare_div_mod 60 (s.secondOfDay / 60), Nat.div_div_eq_div_mul,
      Nat.div_div_eq_div_mul]
  rw [text, text, compare_ofList, chars_eq hs, chars_eq ht,
    Numeral.compare_decimal_append (by decide) hsyear htyear, compare_cons_same,
    Numeral.compare_decimal_append (by decide) hsmonth htmonth, compare_cons_same,
    Numeral.compare_decimal_append (by decide) hsday htday, compare_cons_same,
    Numeral.compare_decimal_append (by decide) hshour hthour, compare_cons_same,
    Numeral.compare_decimal_append (by decide) hsminute htminute, compare_cons_same,
    Numeral.compare_decimal_append (by decide) hssecond htsecond,
    compare_fraction hsnanos htnanos, compare_written, hyear]
  calc _ = ((Ord.compare s.date.year t.date.year).then
            ((Ord.compare s.date.month t.date.month).then
              (Ord.compare s.date.day t.date.day))).then
          ((((Ord.compare (s.secondOfDay / 3600) (t.secondOfDay / 3600)).then
            (Ord.compare (s.secondOfDay / 60 % 60) (t.secondOfDay / 60 % 60))).then
              (Ord.compare (s.secondOfDay % 60) (t.secondOfDay % 60))).then
            (Ord.compare s.nanos t.nanos)) := by
          simp only [Ordering.then_assoc]
    _ = (Ord.compare (s.seconds / 86400) (t.seconds / 86400)).then
          ((Ord.compare s.secondOfDay t.secondOfDay).then (Ord.compare s.nanos t.nanos)) := by
          rw [date, date, Date.compare_ofNumber, hminute, Numeral.compare_div_mod]
    _ = s.compare t := by
          rw [← Ordering.then_assoc, secondOfDay, secondOfDay, compare_seconds]
          rfl

/-! ## Reading -/

/-- A numeral of the width is taken off the front. -/
theorem number?_decimal {width n : Nat} (hwidth : 0 < width) (hn : n < 10 ^ width)
    (cs : List Char) : number? width (Numeral.decimal width n ++ cs) = some (n, cs) := by
  have hlength := Numeral.length_decimal hwidth hn
  rw [number?, if_pos (by rw [List.length_append, hlength]; exact Nat.le_add_right _ _),
    List.take_left' hlength, List.drop_left' hlength, Numeral.read?_decimal hwidth hn,
    Option.map_some]

theorem mark?_cons {marks : List Char} {c : Char} (h : c ∈ marks) (cs : List Char) :
    mark? marks (c :: cs) = some cs := if_pos h

/-- A date that exists is read back as its number. -/
theorem date?_chars {date : Date} (h : date.Exists) (hfirst : 0 ≤ date.year)
    (hlast : date.year ≤ 9999) (cs : List Char) :
    date? (Numeral.decimal 4 date.year.toNat ++ '-' :: (Numeral.decimal 2 date.month ++
      '-' :: (Numeral.decimal 2 date.day ++ cs))) = some (date.number, cs) := by
  have hyear : date.year.toNat < 10 ^ 4 := by omega
  have hmonth : date.month < 10 ^ 2 := h.2.1.trans_lt (by decide)
  have hday : date.day < 10 ^ 2 :=
    (h.2.2.2.trans (getD_monthLengths_le _ _)).trans_lt (by decide)
  have hdate : (⟨date.year.toNat, date.month, date.day⟩ : Date) = date := by
    rw [Int.toNat_of_nonneg hfirst]
  simp only [date?, Option.bind_eq_bind, Option.bind_some,
    number?_decimal (by decide : 0 < 4) hyear, number?_decimal Nat.two_pos hmonth,
    number?_decimal Nat.two_pos hday, mark?_cons (List.mem_singleton_self _), hdate, if_pos h]

/-- A time of day is read back; a second numbered sixty is a leap second. -/
theorem clock?_chars {hour minute second : Nat} (hhour : hour ≤ 23) (hminute : minute ≤ 59)
    (hsecond : second ≤ 60) (cs : List Char) :
    clock? (Numeral.decimal 2 hour ++ ':' :: (Numeral.decimal 2 minute ++
        ':' :: (Numeral.decimal 2 second ++ cs)))
      = some ((hour * 3600 + minute * 60 + min second 59, second == 60), cs) := by
  have hhour' : hour < 10 ^ 2 := hhour.trans_lt (by decide)
  have hminute' : minute < 10 ^ 2 := hminute.trans_lt (by decide)
  have hsecond' : second < 10 ^ 2 := hsecond.trans_lt (by decide)
  simp only [clock?, Option.bind_eq_bind, Option.bind_some, number?_decimal Nat.two_pos hhour',
    number?_decimal Nat.two_pos hminute', number?_decimal Nat.two_pos hsecond',
    mark?_cons (List.mem_singleton_self _),
    if_pos (And.intro hhour (And.intro hminute hsecond))]

/-- A fraction is read back up to the offset. -/
theorem fraction?_chars {nanos : Nat} (h : nanos < 10 ^ 9) :
    fraction? (fractionChars nanos ++ universal) = some (nanos, universal) := by
  rcases Nat.eq_zero_or_pos nanos with rfl | hpos
  · rfl
  obtain ⟨hwidth, hle, hrest⟩ := fractionWidth_spec nanos
  have hquot := div_lt_pow h hle
  rw [fractionChars_of_ne_zero hpos.ne', List.cons_append, fraction?]
  generalize fractionWidth nanos = width at *
  have hlength := Numeral.length_decimal hwidth hquot
  have hne : Numeral.decimal width (nanos / 10 ^ (9 - width)) ≠ [] :=
    List.ne_nil_of_length_pos (by rwa [hlength])
  have hdigits : (Numeral.decimal width (nanos / 10 ^ (9 - width)) ++ universal).takeWhile
        (fun c => (Numeral.digit? 10 c).isSome)
      = Numeral.decimal width (nanos / 10 ^ (9 - width)) := by
    rw [List.takeWhile_append_of_pos fun c hc => Numeral.isSome_digit?_of_mem_decimal hc]
    exact List.append_nil _
  simp only [hdigits, if_neg hne]
  rw [List.take_of_length_le (by omega), Numeral.read?_decimal hwidth hquot, Option.map_some,
    hlength, List.drop_left' hlength, Nat.div_mul_cancel (Nat.dvd_of_mod_eq_zero hrest)]

theorem offset?_universal : offset? universal = some 0 := by decide

/-- The second with the number sixty is the leap second. -/
theorem writtenSecond_beq_sixty (t : Instant) : (t.writtenSecond == 60) = t.isLeap := by
  rw [Bool.eq_iff_iff, beq_iff_eq]
  unfold writtenSecond
  cases hleap : t.isLeap with
  | true =>
    have hlast := secondOfDay_mod_of_leap (of_decide_eq_true hleap)
    rw [hlast]
    exact ⟨fun _ => rfl, fun _ => rfl⟩
  | false =>
    have hlt := Nat.mod_lt t.secondOfDay (by decide : 0 < 60)
    exact ⟨fun h => absurd h hlt.ne, fun h => absurd h Bool.false_ne_true⟩

/-- **The text of an instant is read back**, within the years of four digits. -/
theorem read?_text {t : Instant} (h : t.HasShortYear) : read? t.text = some t := by
  have hsecond := t.secondOfDay_lt
  have hclock : t.secondOfDay / 3600 * 3600 + t.secondOfDay / 60 % 60 * 60
      + min t.writtenSecond 59 = t.secondOfDay := by
    have hmin : min t.writtenSecond 59 = t.secondOfDay % 60 := by
      unfold writtenSecond
      split
      · next hleap => rw [secondOfDay_mod_of_leap (of_decide_eq_true hleap)]; rfl
      · omega
    omega
  have hnanos :
      (if t.isLeap then 10 ^ 9 + t.nanos % 10 ^ 9 else t.nanos % 10 ^ 9) = t.nanos := by
    have hlt := t.nanos_lt
    unfold isLeap
    simp only [decide_eq_true_eq]
    split <;> omega
  have hseconds : t.date.number * 86400 + t.secondOfDay - 0 = t.seconds := by
    unfold date secondOfDay
    rw [Date.number_ofNumber]
    omega
  have hparts : ofParts? t.seconds t.nanos = some t :=
    dif_pos ⟨t.nanos_lt, t.leap_at_end⟩
  rw [read?, text, String.toList_ofList, readChars?, chars_eq h]
  simp only [Option.bind_eq_bind, Option.bind_some, date?_chars t.exists_date h.1 h.2,
    mark?_cons (List.mem_cons_self : 'T' ∈ ['T', 't', ' ']),
    clock?_chars (by omega : t.secondOfDay / 3600 ≤ 23)
      (by omega : t.secondOfDay / 60 % 60 ≤ 59)
      t.writtenSecond_le,
    fraction?_chars (Nat.mod_lt t.nanos (by decide)), offset?_universal, hclock,
    writtenSecond_beq_sixty, hnanos, hseconds, hparts]

/-- Characters that start with no digit are no numeral. -/
theorem number?_of_digit?_eq_none {width : Nat} {c : Char} (h : Numeral.digit? 10 c = none)
    (cs : List Char) : number? (width + 1) (c :: cs) = none := by
  rw [number?]
  split
  · rw [List.take_succ_cons, Numeral.read?, List.mapM_cons, h]
    rfl
  · rfl

/-- **The text of an instant in another year is not read back**: its year has a sign. -/
theorem read?_text_of_not_hasShortYear {t : Instant} (h : ¬ t.HasShortYear) :
    read? t.text = none := by
  have hyear : ∃ c cs, yearChars t.date.year = c :: cs ∧ Numeral.digit? 10 c = none := by
    unfold yearChars
    split
    · exact ⟨'-', _, rfl, by decide⟩
    · next hfirst =>
      rw [if_pos (Int.not_le.1 fun hlast => h ⟨Int.not_lt.1 hfirst, hlast⟩)]
      exact ⟨'+', _, rfl, by decide⟩
  obtain ⟨c, cs, hcs, hc⟩ := hyear
  obtain ⟨rest, hrest⟩ : ∃ rest, t.chars = c :: rest := by
    simp only [chars, List.append_assoc]
    exact ⟨_, congrArg (· ++ _) hcs⟩
  rw [read?, text, String.toList_ofList, hrest, readChars?, date?, number?_of_digit?_eq_none hc]
  rfl

end Instant

end RecordQuery
