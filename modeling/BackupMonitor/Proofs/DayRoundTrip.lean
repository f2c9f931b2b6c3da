import BackupMonitor.Proofs.CivilDays

/-!
# From a date to its number and back

Every date that exists is the date of its number. The year is found from an estimate that is off by
at most one, and the month by counting off the lengths of the months before it.
-/

namespace BackupMonitor.Date

/-! ## The year -/

/-- Years have days. -/
lemma yearStart_lt_succ (year : Int) : yearStart year < yearStart (year + 1) := by
  have hlength : 0 < yearLength year := by
    unfold yearLength
    split <;> decide
  rw [yearStart_succ]
  omega

/-- The estimate of the year of a day is off by at most one. -/
lemma estimate_bounds {year day : Int} (hstart : yearStart year ≤ day)
    (hnext : day < yearStart (year + 1)) :
    year - 1 ≤ day * 400 / 146097 ∧ day * 400 / 146097 ≤ year + 1 := by
  unfold yearStart at hstart hnext
  omega

/-- The year of a day is the one that has begun and not ended. -/
lemma yearOfDay_eq {year day : Int} (hstart : yearStart year ≤ day)
    (hnext : day < yearStart (year + 1)) : yearOfDay day = year := by
  obtain ⟨hlow, hhigh⟩ := estimate_bounds hstart hnext
  unfold yearOfDay
  generalize day * 400 / 146097 = estimate at hlow hhigh
  -- the estimate is one short, right or one too far, and each is told by when its year begins
  obtain rfl | rfl | rfl : year = estimate + 1 ∨ year = estimate ∨ estimate = year + 1 := by omega
  · exact if_pos hstart
  · rw [if_neg (Int.not_le.mpr hnext), if_neg (Int.not_lt.mpr hstart)]
  · have hlater := Int.lt_trans hnext (yearStart_lt_succ (year + 1))
    rw [if_neg (Int.not_le.mpr hlater), if_pos hnext, Int.add_sub_cancel]

/-! ## The month and the day of the month -/

/-- Counting off the lengths of the first months leads to the month after them. -/
lemma monthAndDay_add {lengths : List Nat} {count rest : Nat} (month : Nat)
    (h : rest < lengths.getD count 0) :
    monthAndDay month lengths ((lengths.take count).foldr (· + ·) 0 + rest) =
      (month + count, rest + 1) := by
  induction lengths generalizing count month with
  | nil => simp at h
  | cons length lengths ih =>
    cases count with
    | zero =>
      have hlt : rest < length := by simpa using h
      simp [monthAndDay, hlt]
    | succ count =>
      have hrest := ih (month + 1) (by simpa using h)
      rw [List.take_succ_cons, List.foldr_cons, Nat.add_assoc, monthAndDay,
        if_neg (Nat.not_lt.mpr (Nat.le_add_right _ _)), Nat.add_sub_cancel_left, hrest,
        Nat.add_right_comm, Nat.add_assoc month]

/-- Twelve months make a year. -/
lemma daysOfMonths_twelve (year : Int) : daysOfMonths year 12 = yearLength year := by
  unfold yearLength
  split <;> simp [daysOfMonths, daysInMonth, monthLengths, *]

lemma daysOfMonths_mono (year : Int) {months later : Nat} (h : months ≤ later) :
    daysOfMonths year months ≤ daysOfMonths year later := by
  induction h with
  | refl => exact Nat.le_refl _
  | step _ ih => exact ih.trans (Nat.le_add_right _ _)

/-! ## Dates that exist -/

variable {d : Date}

lemma month_pos_of_isValid (h : d.isValid = true) : 0 < d.month := by
  obtain ⟨hday, hlast⟩ := isValid_iff.mp h
  refine Nat.pos_of_ne_zero fun hzero => ?_
  rw [hzero] at hlast
  exact Nat.not_succ_le_zero 0 (hday.trans hlast)

/-- A date that exists lies before the end of its year. -/
lemma daysBefore_add_day_le (h : d.isValid = true) :
    daysBefore d.year d.month + d.day ≤ yearLength d.year := by
  have hlast := (isValid_iff.mp h).2
  -- the days before the next month are those before this one and its own
  obtain ⟨index, hindex⟩ := Nat.exists_eq_add_of_lt (month_pos_of_isValid h)
  have hmonths : daysOfMonths d.year d.month ≤ yearLength d.year := by
    rw [← daysOfMonths_twelve]
    exact daysOfMonths_mono _ (month_le_of_isValid h)
  rw [daysBefore_eq_daysOfMonths]
  rw [hindex] at hlast hmonths ⊢
  rw [daysOfMonths] at hmonths
  exact (Nat.add_le_add_left hlast _).trans hmonths

/-- A date that exists is the date of its number. -/
theorem ofDayNumber_dayNumber (h : d.isValid = true) : ofDayNumber d.dayNumber = d := by
  obtain ⟨hday, hlast⟩ := isValid_iff.mp h
  have hend := daysBefore_add_day_le h
  have hyear : yearOfDay d.dayNumber = d.year := by
    have hnext := yearStart_succ d.year
    apply yearOfDay_eq <;> rw [dayNumber] <;> omega
  have hrest : (d.dayNumber - yearStart d.year).toNat =
      daysBefore d.year d.month + (d.day - 1) := by
    rw [dayNumber]
    omega
  obtain ⟨index, hindex⟩ := Nat.exists_eq_add_of_lt (month_pos_of_isValid h)
  rw [Nat.zero_add] at hindex
  have hlt : d.day - 1 < (monthLengths d.year).getD index 0 := by
    have hlength : d.day ≤ (monthLengths d.year).getD index 0 := by
      rw [hindex] at hlast
      exact hlast
    omega
  have hmonth := monthAndDay_add 1 hlt
  rw [ofDayNumber, hyear, hrest, daysBefore, hindex, Nat.add_sub_cancel, hmonth, Date.mk.injEq]
  exact ⟨rfl, by rw [hindex, Nat.add_comm], Nat.sub_add_cancel hday⟩

end BackupMonitor.Date
