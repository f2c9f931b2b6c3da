import BackupMonitor.Time.Calendar
import Mathlib.Data.Int.Cast.Lemmas
import Mathlib.Data.List.GetD
import Mathlib.Order.Basic

/-!
# Counting days

The number of a date is the number of days from the first of January of the year 0 up to it: the
days of the years before its year, those of the months before its month, and those before its day.
-/

namespace BackupMonitor.Date

/-- The number of days of a year. -/
def yearLength (year : Int) : Nat :=
  if isLeapYear year then 366 else 365

/-- The number of days from the year 0 up to a year. -/
def daysBeforeYear : Nat → Nat
  | 0 => 0
  | year + 1 => daysBeforeYear year + yearLength year

/-- The number of days of the first months of a year. -/
def daysOfMonths (year : Int) : Nat → Nat
  | 0 => 0
  | months + 1 => daysOfMonths year months + daysInMonth year (months + 1)

/-- The number of days from the first of January of the year 0 up to a date. -/
def civilDays (year month day : Nat) : Nat :=
  daysBeforeYear year + daysOfMonths year (month - 1) + (day - 1)

/-- A year starts as many days after the one before as that has. -/
lemma yearStart_succ (year : Int) : yearStart (year + 1) = yearStart year + yearLength year := by
  have hleap : isLeapYear year = true ↔ year % 4 = 0 ∧ (year % 100 ≠ 0 ∨ year % 400 = 0) := by
    simp [isLeapYear]
  unfold yearStart yearLength
  split
  next h =>
    rw [hleap] at h
    omega
  next h =>
    rw [hleap] at h
    omega

/-- From the year 0 on, the closed form adds up the lengths of the years. -/
lemma yearStart_eq_daysBeforeYear (year : Nat) : yearStart year = daysBeforeYear year := by
  induction year with
  | zero => rfl
  | succ year ih =>
    rw [Nat.cast_succ, yearStart_succ, ih, daysBeforeYear, Nat.cast_add]

lemma foldr_take_succ (lengths : List Nat) (count : Nat) :
    (lengths.take (count + 1)).foldr (· + ·) 0 =
      (lengths.take count).foldr (· + ·) 0 + lengths.getD count 0 := by
  induction lengths generalizing count with
  | nil => simp
  | cons length lengths ih =>
    cases count with
    | zero => simp
    | succ count => simp [ih, Nat.add_assoc]

lemma daysBefore_eq_daysOfMonths (year : Int) (month : Nat) :
    daysBefore year month = daysOfMonths year (month - 1) := by
  unfold daysBefore
  induction month - 1 with
  | zero => rfl
  | succ months ih => rw [foldr_take_succ, ih, daysOfMonths, daysInMonth]

/-- The number of a date counts the days up to it. -/
lemma dayNumber_eq_civilDays (year month day : Nat) :
    dayNumber ⟨year, month, day⟩ = civilDays year month day := by
  rw [dayNumber, civilDays, yearStart_eq_daysBeforeYear, daysBefore_eq_daysOfMonths]
  push_cast
  rfl

/-! ## Bounds -/

/-- No month has more than 31 days. -/
lemma daysInMonth_le (year : Int) (month : Nat) : daysInMonth year month ≤ 31 := by
  have hall : ∀ length ∈ monthLengths year, length ≤ 31 := by
    unfold monthLengths
    split <;> decide
  unfold daysInMonth
  split
  next => decide
  next index =>
    rcases Nat.lt_or_ge index (monthLengths year).length with h | h
    · rw [List.getD_eq_getElem _ _ h]
      exact hall _ (List.getElem_mem h)
    · rw [List.getD_eq_default _ _ h]
      decide

/-- A month with days is one of twelve. -/
lemma month_le_of_daysInMonth_pos {year : Int} {month : Nat} (h : 0 < daysInMonth year month) :
    month ≤ 12 := by
  unfold daysInMonth at h
  split at h
  next => decide
  next index =>
    refine Nat.lt_of_not_le fun hle => ?_
    rw [List.getD_eq_default _ _ hle] at h
    exact h.false

lemma isValid_iff {d : Date} :
    d.isValid = true ↔ 1 ≤ d.day ∧ d.day ≤ daysInMonth d.year d.month := by
  simp [isValid]

/-- A date that is one lies in one of twelve months. -/
lemma month_le_of_isValid {d : Date} (h : d.isValid = true) : d.month ≤ 12 :=
  have hday := isValid_iff.mp h
  month_le_of_daysInMonth_pos (hday.1.trans hday.2)

lemma day_le_of_isValid {d : Date} (h : d.isValid = true) : d.day ≤ 31 :=
  (isValid_iff.mp h).2.trans (daysInMonth_le _ _)

/-- No year has more than 366 days. -/
lemma daysBeforeYear_le (year : Nat) : daysBeforeYear year ≤ year * 366 := by
  induction year with
  | zero => exact Nat.le_refl 0
  | succ year ih =>
    have hlength : yearLength year ≤ 366 := by
      unfold yearLength
      split <;> decide
    rw [daysBeforeYear]
    omega

lemma daysOfMonths_le (year : Int) (months : Nat) : daysOfMonths year months ≤ months * 31 := by
  induction months with
  | zero => exact Nat.le_refl 0
  | succ months ih =>
    have hlength := daysInMonth_le year (months + 1)
    rw [daysOfMonths]
    omega

end BackupMonitor.Date
