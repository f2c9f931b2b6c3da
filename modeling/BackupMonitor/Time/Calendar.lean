/-!
# The calendar

Days are numbered from the first of January of the year 0 of the Gregorian calendar, which is
extended to all years. `Date.dayNumber` and `Date.ofDayNumber` go from a date to its number and
back.
-/

namespace BackupMonitor

/-- A year, a month and a day of the month. -/
structure Date where
  /-- The year. -/
  year : Int
  /-- The month, from one. -/
  month : Nat
  /-- The day of the month, from one. -/
  day : Nat
deriving DecidableEq, Repr

namespace Date

/-- Whether a year has 366 days. -/
def isLeapYear (year : Int) : Bool :=
  year % 4 == 0 && (year % 100 != 0 || year % 400 == 0)

/-- The number of the first day of a year. -/
def yearStart (year : Int) : Int :=
  365 * year + (year + 3) / 4 - (year + 99) / 100 + (year + 399) / 400

/-- The lengths of the months of a year. -/
def monthLengths (year : Int) : List Nat :=
  [31, if isLeapYear year then 29 else 28, 31, 30, 31, 30, 31, 31, 30, 31, 30, 31]

/-- The number of days of a month, zero for a month that does not exist. -/
def daysInMonth (year : Int) (month : Nat) : Nat :=
  match month with
  | 0 => 0
  | index + 1 => (monthLengths year).getD index 0

/-- Whether the date exists. -/
def isValid (d : Date) : Bool :=
  decide (1 ≤ d.day) && decide (d.day ≤ daysInMonth d.year d.month)

/-- The number of days of a year that lie before a month. -/
def daysBefore (year : Int) (month : Nat) : Nat :=
  ((monthLengths year).take (month - 1)).foldr (· + ·) 0

/-- The number of a date. -/
def dayNumber (d : Date) : Int :=
  yearStart d.year + daysBefore d.year d.month + (d.day - 1 : Nat)

/-- The year that a day lies in: the estimate by the mean length of a year, put right by at most
one. -/
def yearOfDay (day : Int) : Int :=
  let estimate := day * 400 / 146097
  if yearStart (estimate + 1) ≤ day then estimate + 1
  else if day < yearStart estimate then estimate - 1
  else estimate

/-- The month and the day of the month, given the lengths of the months from `month` on and the
number of days since its first. -/
def monthAndDay (month : Nat) : List Nat → Nat → Nat × Nat
  | [], rest => (month, rest + 1)
  | length :: lengths, rest =>
    if rest < length then (month, rest + 1)
    else monthAndDay (month + 1) lengths (rest - length)

/-- The date of a day. -/
def ofDayNumber (day : Int) : Date :=
  let year := yearOfDay day
  let (month, dayOfMonth) := monthAndDay 1 (monthLengths year) (day - yearStart year).toNat
  ⟨year, month, dayOfMonth⟩

end Date

end BackupMonitor
