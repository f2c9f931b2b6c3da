import BackupMonitor.Proofs.CivilDays
import BackupMonitor.Proofs.Digits
import BackupMonitor.Time.Timestamp

/-!
# The grammar of timestamps

`Timestamp.Written` is a timestamp as it is written: the numbers of its date and its time of day,
the separator, the digits of the fraction and the zone. `Timestamp.parse?` accepts exactly the texts
of valid ones, and reads each as the instant that it denotes.
-/

namespace BackupMonitor.Timestamp

/-! ## Timestamps as they are written -/

/-- How the offset from UTC is written. -/
inductive Zone where
  /-- UTC, as a letter. -/
  | utc (letter : Char)
  /-- A sign, hours and minutes. -/
  | numeric (sign : Char) (hours minutes : Nat)
deriving DecidableEq, Repr

namespace Zone

/-- Whether an offset may be written so. -/
def IsValid : Zone → Prop
  | utc letter => letter ∈ ['Z', 'z']
  | numeric sign hours minutes => sign ∈ ['+', '-', '\u2212'] ∧ hours ≤ 23 ∧ minutes ≤ 59

/-- The characters of an offset. -/
def chars : Zone → List Char
  | utc letter => [letter]
  | numeric sign hours minutes =>
    sign :: (Decimal.paddedChars 2 hours ++ ':' :: Decimal.paddedChars 2 minutes)

/-- The offset in seconds. -/
def offset : Zone → Int
  | utc _ => 0
  | numeric sign hours minutes =>
    if sign = '+' then hours * 3600 + minutes * 60 else -(hours * 3600 + minutes * 60)

end Zone

/-- The characters of a fraction, none if it has no digits. -/
def fractionChars (fs : List Char) : List Char :=
  if fs = [] then [] else '.' :: fs

/-- A time of day as it is written. -/
structure TimeOfDay where
  /-- The hour. -/
  hour : Nat
  /-- The minute. -/
  minute : Nat
  /-- The second, 60 in a leap second. -/
  second : Nat
  /-- The digits of the fraction. -/
  fraction : List Char
deriving DecidableEq, Repr

namespace TimeOfDay

/-- Whether a time of day may be written so. -/
structure IsValid (d : TimeOfDay) : Prop where
  hour : d.hour ≤ 23
  minute : d.minute ≤ 59
  second : d.second ≤ 60
  fraction : Decimal.AreDigits d.fraction

/-- The characters of a time of day. -/
def chars (d : TimeOfDay) : List Char :=
  Decimal.paddedChars 2 d.hour ++ ':' :: (Decimal.paddedChars 2 d.minute ++
    ':' :: (Decimal.paddedChars 2 d.second ++ fractionChars d.fraction))

/-- The second of the day; a leap second belongs to the second before. -/
def secondOfDay (d : TimeOfDay) : Nat :=
  d.hour * 3600 + d.minute * 60 + min d.second 59

/-- The nanoseconds beside the second of the day. -/
def nanos (d : TimeOfDay) : Nat :=
  (if d.second = 60 then nanosPerSecond else 0) + nanosOfDigits d.fraction

end TimeOfDay

/-- A timestamp as it is written. -/
structure Written where
  /-- The year. -/
  year : Nat
  /-- The month. -/
  month : Nat
  /-- The day of the month. -/
  day : Nat
  /-- What stands between the date and the time of day. -/
  separator : Char
  /-- The time of day. -/
  time : TimeOfDay
  /-- The zone. -/
  zone : Zone
deriving DecidableEq, Repr

namespace Written

/-- The date. -/
def date (w : Written) : Date :=
  ⟨w.year, w.month, w.day⟩

/-- Whether a timestamp may be written so. -/
structure IsValid (w : Written) : Prop where
  year : w.year ≤ 9999
  date : w.date.isValid = true
  separator : w.separator ∈ ['T', 't', ' ']
  time : w.time.IsValid
  zone : w.zone.IsValid

/-- The characters of the date. -/
def dateChars (w : Written) : List Char :=
  Decimal.paddedChars 4 w.year ++
    '-' :: (Decimal.paddedChars 2 w.month ++ '-' :: Decimal.paddedChars 2 w.day)

/-- The characters of a timestamp. -/
def chars (w : Written) : List Char :=
  w.dateChars ++ w.separator :: (w.time.chars ++ w.zone.chars)

/-- The timestamp that is written. -/
def timestamp (w : Written) : Timestamp where
  seconds := w.date.dayNumber * secondsPerDay + w.time.secondOfDay - w.zone.offset
  nanos := w.time.nanos
  offset := w.zone.offset

end Written

/-! ## What the readers accept -/

variable {cs rest : List Char}

lemma readNumber_eq_some_iff {count start n : Nat} :
    readNumber count start cs = some (n, rest) ↔
      ∃ ds, Decimal.AreDigits ds ∧ ds.length = count ∧ cs = ds ++ rest ∧
        n = ds.foldl (fun n d => n * 10 + (d.toNat - 48)) start := by
  induction count generalizing cs start with
  | zero =>
    constructor
    · rintro ⟨⟩
      exact ⟨[], by simp [Decimal.AreDigits], rfl, rfl, rfl⟩
    · rintro ⟨ds, -, hlength, rfl, rfl⟩
      obtain rfl := List.length_eq_zero_iff.mp hlength
      rfl
  | succ count ih =>
    constructor
    · intro h
      cases cs with
      | nil => cases h
      | cons c cs =>
        rw [readNumber] at h
        split at h
        next hc =>
          obtain ⟨ds, hds, hlength, rfl, rfl⟩ := ih.mp h
          exact ⟨c :: ds, List.forall_mem_cons.mpr ⟨hc, hds⟩, congrArg (· + 1) hlength, rfl, rfl⟩
        next => cases h
    · rintro ⟨ds, hds, hlength, rfl, rfl⟩
      cases ds with
      | nil => cases hlength
      | cons d ds =>
        obtain ⟨hd, hds⟩ := List.forall_mem_cons.mp hds
        rw [List.cons_append, readNumber, if_pos hd]
        exact ih.mpr ⟨ds, hds, Nat.succ_inj.mp hlength, rfl, rfl⟩

/-- A number of a fixed count of digits is one below a power of ten, with zeros in front. -/
lemma readNumber_zero_eq_some_iff {count n : Nat} (hcount : 0 < count) :
    readNumber count 0 cs = some (n, rest) ↔
      n < tenTo count ∧ cs = Decimal.paddedChars count n ++ rest := by
  rw [readNumber_eq_some_iff]
  constructor
  · rintro ⟨ds, hds, rfl, rfl, rfl⟩
    have hne := List.length_pos_iff.mp hcount
    refine ⟨Decimal.ofDigits_lt hds, ?_⟩
    exact congrArg (· ++ rest) (Decimal.padZeros_digits_ofDigits hne hds).symm
  · rintro ⟨hn, rfl⟩
    refine ⟨_, Decimal.areDigits_padZeros _ (Decimal.areDigits_digits n),
      Decimal.length_padZeros (Decimal.length_digits_le hcount hn), rfl, ?_⟩
    exact ((Decimal.ofDigits_padZeros count _).trans (Decimal.ofDigits_digits n)).symm

lemma readUpTo_eq_some_iff {count greatest n : Nat} (hcount : 0 < count)
    (hgreatest : greatest < tenTo count) :
    readUpTo count greatest cs = some (n, rest) ↔
      n ≤ greatest ∧ cs = Decimal.paddedChars count n ++ rest := by
  have hread : readUpTo count greatest cs = some (n, rest) ↔
      readNumber count 0 cs = some (n, rest) ∧ n ≤ greatest := by
    unfold readUpTo
    cases readNumber count 0 cs with
    | none => simp
    | some read => grind
  rw [hread, readNumber_zero_eq_some_iff hcount]
  constructor
  · rintro ⟨⟨-, hcs⟩, hn⟩
    exact ⟨hn, hcs⟩
  · rintro ⟨hn, hcs⟩
    exact ⟨⟨hn.trans_lt hgreatest, hcs⟩, hn⟩

lemma readOneOf_eq_some_iff {allowed : List Char} :
    readOneOf allowed cs = some rest ↔ ∃ c ∈ allowed, cs = c :: rest := by
  cases cs with
  | nil => simp [readOneOf]
  | cons c cs => simp [readOneOf, and_comm, eq_comm]

lemma readOneOf_singleton_eq_some_iff {c : Char} :
    readOneOf [c] cs = some rest ↔ cs = c :: rest := by
  simp [readOneOf_eq_some_iff]

lemma readTwo_eq_some_iff {n greatest : Nat} (hgreatest : greatest ≤ 99) :
    readUpTo 2 greatest cs = some (n, rest) ↔
      n ≤ greatest ∧ cs = Decimal.paddedChars 2 n ++ rest :=
  readUpTo_eq_some_iff (by decide) (hgreatest.trans_lt (by decide))

/-- What follows the digits of a fraction is no further digit, and no point if there are none. -/
def FractionEnds (fs rest : List Char) : Prop :=
  if fs = [] then rest.head? ≠ some '.' else ∀ c ∈ rest.head?, c.isDigit = false

lemma exists_digits_of_readFraction {nanos : Nat} (h : readFraction cs = some (nanos, rest)) :
    ∃ fs, Decimal.AreDigits fs ∧ cs = fractionChars fs ++ rest ∧ FractionEnds fs rest ∧
      nanos = nanosOfDigits fs := by
  unfold readFraction at h
  split at h
  next after =>
    split at h
    next => cases h
    next fs hne =>
      obtain ⟨rfl, rfl⟩ := Prod.mk.inj (Option.some.inj h)
      refine ⟨_, fun d hd => List.mem_takeWhile_imp hd, ?_, ?_, rfl⟩
      · rw [fractionChars, if_neg hne, List.cons_append, List.takeWhile_append_dropWhile]
      · rw [FractionEnds, if_neg hne]
        intro c hc
        have hhead := List.head?_dropWhile_not Char.isDigit after
        rw [hc] at hhead
        simpa using hhead
  next hpoint =>
    obtain ⟨rfl, rfl⟩ := Prod.mk.inj (Option.some.inj h)
    refine ⟨[], by simp [Decimal.AreDigits], rfl, ?_, rfl⟩
    rw [FractionEnds, if_pos rfl]
    intro hhead
    obtain ⟨after, rfl⟩ := List.head?_eq_some_iff.mp hhead
    exact hpoint after rfl

lemma readFraction_append {fs : List Char} (hfs : Decimal.AreDigits fs)
    (hends : FractionEnds fs rest) :
    readFraction (fractionChars fs ++ rest) = some (nanosOfDigits fs, rest) := by
  unfold FractionEnds at hends
  split at hends
  next hnil =>
    subst hnil
    unfold readFraction
    split
    next after hcs => exact absurd (congrArg List.head? hcs) hends
    next => rfl
  next hne =>
    obtain ⟨htake, hdrop⟩ := Decimal.takeWhile_isDigit_append hfs hends
    rw [fractionChars, if_neg hne, List.cons_append, readFraction, htake, hdrop]
    cases fs with
    | nil => exact absurd rfl hne
    | cons f fs => rfl

lemma readFraction_eq_some_iff {nanos : Nat} :
    readFraction cs = some (nanos, rest) ↔
      ∃ fs, Decimal.AreDigits fs ∧ cs = fractionChars fs ++ rest ∧ FractionEnds fs rest ∧
        nanos = nanosOfDigits fs := by
  constructor
  · exact exists_digits_of_readFraction
  · rintro ⟨fs, hfs, rfl, hends, rfl⟩
    exact readFraction_append hfs hends

/-! ## Date, time of day and offset -/

/-- Hours and minutes are read as an offset with the sign that was read before. -/
lemma bind_hours_minutes_eq_some_iff {offset : Int} (negative : Bool) :
    ((readUpTo 2 23 cs).bind fun x => (readOneOf [':'] x.2).bind fun after =>
      (readUpTo 2 59 after).bind fun y =>
        some (if negative = true then -((x.1 : Int) * 3600 + y.1 * 60) else x.1 * 3600 + y.1 * 60,
          y.2)) = some (offset, rest) ↔
      ∃ hours minutes : Nat, hours ≤ 23 ∧ minutes ≤ 59 ∧
        cs = Decimal.paddedChars 2 hours ++ ':' :: (Decimal.paddedChars 2 minutes ++ rest) ∧
        offset = if negative = true then -((hours : Int) * 3600 + minutes * 60)
          else hours * 3600 + minutes * 60 := by
  simp only [Option.bind_eq_some_iff, Prod.exists, readTwo_eq_some_iff (show 23 ≤ 99 by decide),
    readTwo_eq_some_iff (show 59 ≤ 99 by decide), readOneOf_singleton_eq_some_iff,
    Option.some.injEq, Prod.mk.injEq]
  constructor
  · rintro ⟨hours, _, ⟨hhours, rfl⟩, _, rfl, minutes, _, ⟨hminutes, rfl⟩, rfl, rfl⟩
    exact ⟨hours, minutes, hhours, hminutes, rfl, rfl⟩
  · rintro ⟨hours, minutes, hhours, hminutes, rfl, rfl⟩
    exact ⟨hours, _, ⟨hhours, rfl⟩, _, rfl, minutes, _, ⟨hminutes, rfl⟩, rfl, rfl⟩

lemma exists_zone_of_readOffset {offset : Int} (h : readOffset cs = some (offset, rest)) :
    ∃ zone : Zone, zone.IsValid ∧ cs = zone.chars ++ rest ∧ offset = zone.offset := by
  cases cs with
  | nil => cases h
  | cons c cs =>
    rw [readOffset] at h
    split at h
    next hutc =>
      obtain ⟨rfl, rfl⟩ := Prod.mk.inj (Option.some.inj h)
      exact ⟨.utc c, by simpa [Zone.IsValid] using hutc, rfl, rfl⟩
    next =>
      split at h
      next hplus =>
        obtain ⟨hours, minutes, hhours, hminutes, rfl, rfl⟩ :=
          (bind_hours_minutes_eq_some_iff false).mp h
        refine ⟨.numeric c hours minutes, ⟨by simp [hplus], hhours, hminutes⟩, ?_, ?_⟩
        · simp [Zone.chars]
        · simp [Zone.offset, hplus]
      next hplus =>
        split at h
        next hminus =>
          obtain ⟨hours, minutes, hhours, hminutes, rfl, rfl⟩ :=
            (bind_hours_minutes_eq_some_iff true).mp h
          refine ⟨.numeric c hours minutes, ⟨by simp [hminus], hhours, hminutes⟩, ?_, ?_⟩
          · simp [Zone.chars]
          · simp [Zone.offset, hplus]
        next => cases h

lemma readOffset_zone {zone : Zone} (h : zone.IsValid) (rest : List Char) :
    readOffset (zone.chars ++ rest) = some (zone.offset, rest) := by
  cases zone with
  | utc letter =>
    have hletter : letter = 'Z' ∨ letter = 'z' := by simpa [Zone.IsValid] using h
    exact if_pos hletter
  | numeric sign hours minutes =>
    obtain ⟨hsign, hhours, hminutes⟩ := h
    have hchars : (Zone.numeric sign hours minutes).chars ++ rest = sign ::
        (Decimal.paddedChars 2 hours ++ ':' :: (Decimal.paddedChars 2 minutes ++ rest)) := by
      simp [Zone.chars]
    have hread (negative : Bool) := (@bind_hours_minutes_eq_some_iff _ rest _ negative).mpr
      ⟨hours, minutes, hhours, hminutes, rfl, rfl⟩
    rw [hchars]
    simp only [List.mem_cons, List.not_mem_nil, or_false] at hsign
    rcases hsign with rfl | rfl | rfl
    · exact hread false
    · exact hread true
    · exact hread true

lemma readOffset_eq_some_iff {offset : Int} :
    readOffset cs = some (offset, rest) ↔
      ∃ zone : Zone, zone.IsValid ∧ cs = zone.chars ++ rest ∧ offset = zone.offset := by
  constructor
  · exact exists_zone_of_readOffset
  · rintro ⟨zone, hzone, rfl, rfl⟩
    exact readOffset_zone hzone rest

lemma readDate_eq_some_iff {date : Date} :
    readDate cs = some (date, rest) ↔
      ∃ year month day : Nat, year ≤ 9999 ∧ date = ⟨year, month, day⟩ ∧ date.isValid = true ∧
        cs = Decimal.paddedChars 4 year ++
          '-' :: (Decimal.paddedChars 2 month ++ '-' :: (Decimal.paddedChars 2 day ++ rest)) := by
  simp only [readDate, Option.bind_eq_bind, Option.bind_eq_some_iff, Prod.exists,
    readNumber_zero_eq_some_iff (show 0 < 2 by decide),
    readNumber_zero_eq_some_iff (show 0 < 4 by decide), readOneOf_singleton_eq_some_iff,
    Option.some.injEq, Prod.mk.injEq, Option.ite_none_right_eq_some]
  constructor
  · rintro ⟨year, _, ⟨hyear, rfl⟩, _, rfl, month, _, ⟨-, rfl⟩, _, rfl, day, _, ⟨-, rfl⟩, hvalid,
      rfl, rfl⟩
    exact ⟨year, month, day, Nat.le_of_lt_succ hyear, rfl, hvalid, rfl⟩
  · rintro ⟨year, month, day, hyear, rfl, hvalid, rfl⟩
    have hmonth := (Date.month_le_of_isValid hvalid).trans_lt (show 12 < tenTo 2 by decide)
    have hday := (Date.day_le_of_isValid hvalid).trans_lt (show 31 < tenTo 2 by decide)
    exact ⟨year, _, ⟨Nat.lt_succ_of_le hyear, rfl⟩, _, rfl, month, _, ⟨hmonth, rfl⟩, _, rfl, day, _,
      ⟨hday, rfl⟩, hvalid, rfl, rfl⟩

/-- A second of 60 counts as the second before, with a whole second beside it. -/
lemma TimeOfDay.ite_second {d : TimeOfDay} (h : d.second ≤ 60) :
    (if d.second = 60 then some ((d.hour * 3600 + d.minute * 60 + 59,
        nanosPerSecond + nanosOfDigits d.fraction), rest)
      else some ((d.hour * 3600 + d.minute * 60 + d.second, nanosOfDigits d.fraction), rest)) =
      some ((d.secondOfDay, d.nanos), rest) := by
  unfold secondOfDay nanos
  split
  next hsixty =>
    rw [hsixty]
    rfl
  next hsixty =>
    have hsecond : min d.second 59 = d.second := by omega
    rw [hsecond, Nat.zero_add]

lemma readTime_eq_some_iff {second nanos : Nat} :
    readTime cs = some ((second, nanos), rest) ↔
      ∃ d : TimeOfDay, d.IsValid ∧ cs = d.chars ++ rest ∧ FractionEnds d.fraction rest ∧
        second = d.secondOfDay ∧ nanos = d.nanos := by
  simp only [readTime, Option.bind_eq_bind, Option.bind_eq_some_iff, Prod.exists,
    readTwo_eq_some_iff (show 23 ≤ 99 by decide), readTwo_eq_some_iff (show 59 ≤ 99 by decide),
    readTwo_eq_some_iff (show 60 ≤ 99 by decide), readOneOf_singleton_eq_some_iff,
    readFraction_eq_some_iff]
  constructor
  · rintro ⟨hour, _, ⟨hhour, rfl⟩, _, rfl, minute, _, ⟨hminute, rfl⟩, _, rfl, sec, _, ⟨hsec, rfl⟩,
      _, _, ⟨fs, hfs, rfl, hends, rfl⟩, hval⟩
    have hread := (TimeOfDay.ite_second (d := ⟨hour, minute, sec, fs⟩) hsec).symm.trans hval
    simp only [Option.some.injEq, Prod.mk.injEq] at hread
    obtain ⟨⟨rfl, rfl⟩, rfl⟩ := hread
    refine ⟨⟨hour, minute, sec, fs⟩, ⟨hhour, hminute, hsec, hfs⟩, ?_, hends, rfl, rfl⟩
    simp [TimeOfDay.chars]
  · rintro ⟨⟨hour, minute, sec, fs⟩, ⟨hhour, hminute, hsec, hfs⟩, rfl, hends, rfl, rfl⟩
    refine ⟨hour, _, ⟨hhour, ?_⟩, _, rfl, minute, _, ⟨hminute, rfl⟩, _, rfl, sec, _, ⟨hsec, rfl⟩,
      _, _, ⟨fs, hfs, rfl, hends, rfl⟩, TimeOfDay.ite_second hsec⟩
    simp [TimeOfDay.chars]

/-! ## Whole timestamps -/

/-- A zone begins with no digit and no point. -/
lemma fractionEnds_zone {zone : Zone} (h : zone.IsValid) (fs rest : List Char) :
    FractionEnds fs (zone.chars ++ rest) := by
  have hhead : ∀ c ∈ (zone.chars ++ rest).head?, c ≠ '.' ∧ c.isDigit = false := by
    cases zone with
    | utc letter =>
      simp only [Zone.IsValid, List.mem_cons, List.not_mem_nil, or_false] at h
      rcases h with rfl | rfl <;> rintro _ ⟨⟩ <;> decide
    | numeric sign hours minutes =>
      have hsign := h.1
      simp only [List.mem_cons, List.not_mem_nil, or_false] at hsign
      rcases hsign with rfl | rfl | rfl <;> rintro _ ⟨⟩ <;> decide
  unfold FractionEnds
  split
  next => exact fun hpoint => (hhead '.' hpoint).1 rfl
  next => exact fun c hc => (hhead c hc).2

/-- The texts that are accepted are those of valid timestamps, and each is read as what is
written. -/
theorem parse?_eq_some_iff {text : String} {t : Timestamp} :
    parse? text = some t ↔ ∃ w : Written, w.IsValid ∧ text.toList = w.chars ∧ w.timestamp = t := by
  simp only [parse?, parseChars?, Option.bind_eq_bind, Option.bind_eq_some_iff, Prod.exists,
    readDate_eq_some_iff, readOneOf_eq_some_iff, readTime_eq_some_iff, readOffset_eq_some_iff,
    Option.ite_none_right_eq_some, List.isEmpty_iff, Option.some.injEq]
  constructor
  · rintro ⟨_, _, ⟨year, month, day, hyear, rfl, hdate, htext⟩, _, ⟨separator, hseparator, rfl⟩,
      _, _, _, ⟨time, htime, rfl, -, rfl, rfl⟩, _, _, ⟨zone, hzone, rfl, rfl⟩, rfl, rfl⟩
    refine ⟨⟨year, month, day, separator, time, zone⟩, ⟨hyear, hdate, hseparator, htime, hzone⟩,
      ?_, rfl⟩
    rw [htext]
    simp [Written.chars, Written.dateChars]
  · -- the zone after the fraction cannot be taken for more of its digits
    rintro ⟨⟨year, month, day, separator, time, zone⟩, ⟨hyear, hdate, hseparator, htime, hzone⟩,
      htext, rfl⟩
    refine ⟨_, _, ⟨year, month, day, hyear, rfl, hdate, ?_⟩, _, ⟨separator, hseparator, rfl⟩,
      _, _, _, ⟨time, htime, rfl, fractionEnds_zone hzone _ _, rfl, rfl⟩, _, _,
      ⟨zone, hzone, rfl, rfl⟩, rfl, rfl⟩
    rw [htext]
    simp [Written.chars, Written.dateChars]

end BackupMonitor.Timestamp
