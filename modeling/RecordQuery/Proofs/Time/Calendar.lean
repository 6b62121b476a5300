import RecordQuery.Proofs.Text.Order
import RecordQuery.Time.Calendar

/-!
# Numbered dates

Every number of days has one date, and dates are in the order of year, month and day.

## Main Statements

* `yearOfDay_spec` — a day lies between the first days of its year and of the next
* `monthOfDay_spec` — it lies in its month, after all that is over
* `Date.exists_ofNumber`, `Date.number_ofNumber` — the date with a number
  exists and has the number
* `Date.compare_ofNumber` — dates are in the order of their numbers
-/

namespace RecordQuery

-- sums start from the literal zero, whatever other zeros a library brings
attribute [local instance (high)] Zero.ofOfNat0

/-! ## Years -/

theorem sum_monthLengths (leap : Bool) :
    (monthLengths leap).sum = if leap then 366 else 365 := by
  cases leap <;> rfl

theorem daysBeforeYear_succ (year : Int) :
    daysBeforeYear (year + 1) = daysBeforeYear year + (monthLengths (isLeapYear year)).sum := by
  rw [sum_monthLengths]
  unfold daysBeforeYear isLeapYear
  split <;>
  · next h =>
    simp only [decide_eq_true_eq] at h
    omega

theorem daysBeforeYear_le {year later : Int} (h : year ≤ later) :
    daysBeforeYear year ≤ daysBeforeYear later := by
  unfold daysBeforeYear
  omega

/-- **A day lies between the first days of its year and of the next.** -/
theorem yearOfDay_spec (day : Int) :
    daysBeforeYear (yearOfDay day) ≤ day ∧ day < daysBeforeYear (yearOfDay day + 1) := by
  unfold yearOfDay
  dsimp only
  split
  · next hnext =>
    -- years of the mean length are at most one year ahead of the calendar
    exact ⟨hnext, by unfold daysBeforeYear; omega⟩
  · next hnext =>
    split
    · next hguess => exact ⟨hguess, by omega⟩
    · next hguess =>
      -- and at most one year behind it
      rw [Int.sub_add_cancel]
      exact ⟨by unfold daysBeforeYear; omega, by omega⟩

/-! ## Months -/

/-- **A day lies in its month**, after all months that are over. -/
theorem monthOfDay_spec (lengths : List Nat) {day : Nat} (h : day < lengths.sum) :
    ∃ month rest, monthOfDay lengths day = (month, rest) ∧ month < lengths.length ∧
      rest < lengths.getD month 0 ∧ (lengths.take month).sum + rest = day := by
  induction lengths generalizing day with
  | nil => exact absurd h (Nat.not_lt_zero day)
  | cons length lengths ih =>
    rw [monthOfDay]
    split
    · next hlt => exact ⟨0, day, rfl, Nat.succ_pos _, hlt, by simp⟩
    · next hge =>
      rw [List.sum_cons] at h
      obtain ⟨month, rest, hsplit, hmonth, hrest, hsum⟩ := ih (by omega : day - length < _)
      refine ⟨month + 1, rest, by rw [hsplit], Nat.succ_lt_succ hmonth, hrest, ?_⟩
      rw [List.take_succ_cons, List.sum_cons]
      omega

/-- The months up to a month that is over are over. -/
theorem sum_take_add_le (lengths : List Nat) {month later : Nat} (h : month < later) :
    (lengths.take month).sum + lengths.getD month 0 ≤ (lengths.take later).sum := by
  induction lengths generalizing month later with
  | nil => simp
  | cons length lengths ih =>
    obtain ⟨later, rfl⟩ : ∃ n, later = n + 1 := ⟨later - 1, by omega⟩
    cases month with
    | zero => simp
    | succ month =>
      have hle := ih (Nat.lt_of_succ_lt_succ h)
      simp only [List.take_succ_cons, List.sum_cons, List.getD_cons_succ]
      omega

theorem getD_monthLengths_le (leap : Bool) (month : Nat) :
    (monthLengths leap).getD month 0 ≤ 31 := by
  have hlengths : ∀ leap, ∀ length ∈ monthLengths leap, length ≤ 31 := by decide
  rw [List.getD_eq_getElem?_getD]
  cases hlength : (monthLengths leap)[month]? with
  | none => decide
  | some length => exact hlengths leap length (List.mem_of_getElem? hlength)

/-! ## Dates -/

namespace Date

/-- **The date with a number exists and has the number.** -/
theorem ofNumber_spec (number : Int) :
    (ofNumber number).Exists ∧ (ofNumber number).number = number := by
  obtain ⟨hyear, hnext⟩ := yearOfDay_spec (number + daysBeforeEpoch)
  rw [daysBeforeYear_succ] at hnext
  unfold ofNumber
  dsimp only
  generalize yearOfDay (number + daysBeforeEpoch) = year at hyear hnext ⊢
  obtain ⟨month, rest, hsplit, hmonth, hrest, hsum⟩ :=
    monthOfDay_spec (monthLengths (isLeapYear year))
      (by omega : (number + daysBeforeEpoch - daysBeforeYear year).toNat < _)
  rw [hsplit]
  have htwelve : (monthLengths (isLeapYear year)).length = 12 := rfl
  refine ⟨⟨by simp, by simp only; omega, by simp, hrest⟩, ?_⟩
  simp only [Date.number, Nat.add_sub_cancel]
  omega

theorem exists_ofNumber (number : Int) : (ofNumber number).Exists := (ofNumber_spec number).1

theorem number_ofNumber (number : Int) : (ofNumber number).number = number :=
  (ofNumber_spec number).2

/-- The number of the day in its year, counted from zero. -/
def dayOfYear (date : Date) : Nat :=
  ((monthLengths (isLeapYear date.year)).take (date.month - 1)).sum + (date.day - 1)

theorem number_eq (date : Date) :
    date.number = daysBeforeYear date.year + date.dayOfYear - daysBeforeEpoch := rfl

/-! ### Order -/

variable {date later : Date}

/-- The days of a month are over before a later month of a year of the same lengths. -/
theorem dayOfYear_lt_sum_take (h : date.Exists) {month : Nat} (hmonth : date.month < month) :
    date.dayOfYear < ((monthLengths (isLeapYear date.year)).take (month - 1)).sum := by
  obtain ⟨hfirst, -, hday, hlength⟩ := h
  have hover := sum_take_add_le (monthLengths (isLeapYear date.year))
    (by omega : date.month - 1 < month - 1)
  rw [dayOfYear]
  omega

theorem number_lt_of_year_lt (h : date.Exists) (hyear : date.year < later.year) :
    date.number < later.number := by
  have hall :
      (monthLengths (isLeapYear date.year)).take 12 = monthLengths (isLeapYear date.year) :=
    rfl
  have hnext : daysBeforeYear date.year + date.dayOfYear < daysBeforeYear (date.year + 1) := by
    have hday := dayOfYear_lt_sum_take h (Nat.lt_succ_of_le h.2.1 : date.month < 13)
    rw [hall] at hday
    rw [daysBeforeYear_succ]
    omega
  have hle := daysBeforeYear_le (Int.add_one_le_of_lt hyear)
  rw [number_eq, number_eq]
  omega

theorem number_lt_of_month_lt (h : date.Exists) (hyear : date.year = later.year)
    (hmonth : date.month < later.month) : date.number < later.number := by
  have hday := dayOfYear_lt_sum_take h hmonth
  have hlater : ((monthLengths (isLeapYear date.year)).take (later.month - 1)).sum
      ≤ later.dayOfYear := hyear ▸ Nat.le_add_right _ _
  rw [number_eq, number_eq, ← hyear]
  omega

theorem day_lt_of_number_lt (hyear : date.year = later.year) (hmonth : date.month = later.month)
    (h : date.number < later.number) : date.day < later.day := by
  rw [number_eq, number_eq, dayOfYear, dayOfYear, hyear, hmonth] at h
  omega

/-- **Dates are in the order of their numbers**: by year, month and day. -/
theorem compare_ofNumber (m n : Int) :
    (compare (ofNumber m).year (ofNumber n).year).then
      ((compare (ofNumber m).month (ofNumber n).month).then
        (compare (ofNumber m).day (ofNumber n).day)) = compare m n := by
  refine eq_compare (fun m n => (compare (ofNumber m).year (ofNumber n).year).then
    ((compare (ofNumber m).month (ofNumber n).month).then
      (compare (ofNumber m).day (ofNumber n).day))) (fun m n => ?_)
    (fun m => ?_) (fun m n h => ?_) m n
  · simp only [Ordering.swap_then, ← Std.OrientedOrd.eq_swap]
  · simp only [Std.ReflOrd.compare_self, Ordering.then_eq]
  rw [← number_ofNumber m, ← number_ofNumber n] at h
  have hm := exists_ofNumber m
  have hn := exists_ofNumber n
  generalize ofNumber m = date at h hm ⊢
  generalize ofNumber n = later at h hn ⊢
  simp only [Ordering.then_eq_lt, Int.compare_eq_lt, compare_eq_iff_eq, Nat.compare_eq_lt]
  obtain hyear | hyear | hyear := lt_trichotomy date.year later.year
  · exact .inl hyear
  · refine .inr ⟨hyear, ?_⟩
    obtain hmonth | hmonth | hmonth := lt_trichotomy date.month later.month
    · exact .inl hmonth
    · exact .inr ⟨hmonth, day_lt_of_number_lt hyear hmonth h⟩
    · exact absurd (number_lt_of_month_lt hn hyear.symm hmonth) h.not_gt
  · exact absurd (number_lt_of_year_lt hn hyear) h.not_gt

end Date

end RecordQuery
