import BackupMonitor.Proofs.DayRoundTrip
import BackupMonitor.Proofs.ReportedDuration

/-!
# The text of a timestamp

`Shown.ofChars` takes the parts that are shown straight from the text of a timestamp, by position,
and `Shown.chars` puts them together again. `text_eq_shown` says that this is what comes out when
the text is read as an instant in UTC and written in its offset: the calendar, the leap second and
the fraction all come back as they were.
-/

namespace BackupMonitor.Timestamp

/-! ## What is shown of a text -/

/-- The parts of a timestamp that are shown. -/
structure Shown where
  /-- The date. -/
  date : List Char
  /-- The time of day to the second. -/
  clock : List Char
  /-- The first nine digits of the fraction, without the zeros at their end. -/
  fraction : List Char
  /-- The sign and the digits of the offset, none for UTC. -/
  offset : Option (List Char)
deriving DecidableEq, Repr

namespace Shown

/-- What is shown of a zone: its sign and its digits if they are not all zero. The sign is a plus or
a minus, however the minus was written. -/
def offsetOf : List Char → Option (List Char)
  | [] => none
  | sign :: rest =>
    let digits := rest.filter Char.isDigit
    if digits.all (· == '0') then none else some ((if sign = '+' then '+' else '-') :: digits)

/-- Whether a character belongs to the fraction, rather than to the zone after it. -/
def inFraction (c : Char) : Bool :=
  c == '.' || c.isDigit

/-- The parts that are shown of a text: ten characters of date, a separator, eight characters of
time of day, a fraction that begins with a point, and a zone. -/
def ofChars (cs : List Char) : Shown where
  date := cs.take 10
  clock := (cs.drop 11).take 8
  fraction := Decimal.dropEndZeros ((((cs.drop 19).takeWhile inFraction).drop 1).take 9)
  offset := offsetOf ((cs.drop 19).dropWhile inFraction)

/-- The characters after the fraction: the offset twice, or the offset and the name of UTC. -/
def zoneChars : Option (List Char) → List Char
  | none => [' ', '+', '0', '0', '0', '0', ' ', 'U', 'T', 'C']
  | some offset => ' ' :: (offset ++ ' ' :: offset)

/-- The characters of the parts. -/
def chars (p : Shown) : List Char :=
  p.date ++ ' ' :: (p.clock ++ (fractionChars p.fraction ++ zoneChars p.offset))

end Shown

/-- The characters of a time of day to the second. -/
def TimeOfDay.clockChars (d : TimeOfDay) : List Char :=
  Decimal.paddedChars 2 d.hour ++
    ':' :: (Decimal.paddedChars 2 d.minute ++ ':' :: Decimal.paddedChars 2 d.second)

/-- What is shown of a zone that is written. -/
def Zone.shown : Zone → Option (List Char)
  | utc _ => none
  | numeric sign hours minutes =>
    if hours = 0 ∧ minutes = 0 then none
    else some ((if sign = '+' then '+' else '-') ::
      (Decimal.paddedChars 2 hours ++ Decimal.paddedChars 2 minutes))

/-- What is shown of a timestamp that is written. -/
def Written.shown (w : Written) : Shown where
  date := w.dateChars
  clock := w.time.clockChars
  fraction := Decimal.dropEndZeros (w.time.fraction.take 9)
  offset := w.zone.shown

/-! ## Numbers with zeros in front -/

lemma length_paddedChars {width n : Nat} (hwidth : 0 < width) (h : n < tenTo width) :
    (Decimal.paddedChars width n).length = width :=
  Decimal.length_padZeros (Decimal.length_digits_le hwidth h)

lemma length_paddedTwo {n : Nat} (h : n ≤ 99) : (Decimal.paddedChars 2 n).length = 2 :=
  length_paddedChars (by decide) (h.trans_lt (by decide))

lemma areDigits_paddedChars (width n : Nat) : Decimal.AreDigits (Decimal.paddedChars width n) :=
  Decimal.areDigits_padZeros _ (Decimal.areDigits_digits n)

/-- Only zero is written with zeros alone. -/
lemma all_zero_paddedChars_iff {width n : Nat} :
    (Decimal.paddedChars width n).all (· == '0') = true ↔ n = 0 := by
  constructor
  · -- the number is what the characters are worth, and zeros are worth nothing
    intro h
    have hzeros : Decimal.paddedChars width n =
        List.replicate (Decimal.paddedChars width n).length '0' :=
      List.eq_replicate_iff.mpr ⟨rfl, by simpa using h⟩
    have hvalue : Decimal.ofDigits (Decimal.paddedChars width n) = 0 := by
      rw [hzeros, Decimal.ofDigits_replicate_zero]
    rwa [Decimal.paddedChars, Decimal.ofDigits_padZeros, Decimal.ofDigits_digits] at hvalue
  · rintro rfl
    have hzero : Decimal.digits 0 = ['0'] := rfl
    simp [Decimal.paddedChars, Decimal.padZeros, hzero]

@[simp] lemma toList_padded (width n : Nat) :
    (Decimal.padded width n).toList = Decimal.paddedChars width n :=
  String.toList_ofList

/-! ## The parts of a text are those of the timestamp that it writes -/

namespace Written

variable {w : Written}

lemma IsValid.length_dateChars (h : w.IsValid) : w.dateChars.length = 10 := by
  have hyear : w.year < tenTo 4 := Nat.lt_succ_of_le h.year
  have hmonth : w.month ≤ 12 := Date.month_le_of_isValid h.date
  have hday : w.day ≤ 31 := Date.day_le_of_isValid h.date
  simp [dateChars, length_paddedChars (by decide) hyear,
    length_paddedTwo (hmonth.trans (by decide)), length_paddedTwo (hday.trans (by decide))]

end Written

lemma TimeOfDay.IsValid.length_clockChars {d : TimeOfDay} (h : d.IsValid) :
    d.clockChars.length = 8 := by
  simp [clockChars, length_paddedTwo (h.hour.trans (by decide)),
    length_paddedTwo (h.minute.trans (by decide)), length_paddedTwo (h.second.trans (by decide))]

lemma TimeOfDay.chars_eq (d : TimeOfDay) : d.chars = d.clockChars ++ fractionChars d.fraction := by
  simp [chars, clockChars]

/-- A fraction ends at the first character that cannot belong to it. -/
lemma takeWhile_inFraction {fs : List Char} (hfs : Decimal.AreDigits fs) {c : Char}
    (hc : Shown.inFraction c = false) (rest : List Char) :
    (fractionChars fs ++ c :: rest).takeWhile Shown.inFraction = fractionChars fs ∧
      (fractionChars fs ++ c :: rest).dropWhile Shown.inFraction = c :: rest := by
  have hfraction : ∀ d ∈ fractionChars fs, Shown.inFraction d = true := by
    intro d hd
    unfold fractionChars at hd
    split at hd
    · cases hd
    · rcases List.mem_cons.mp hd with rfl | hd
      · rfl
      · simp [Shown.inFraction, hfs d hd]
  rw [List.takeWhile_append_of_pos hfraction, List.dropWhile_append_of_pos hfraction]
  simp [hc]

lemma drop_one_fractionChars (fs : List Char) : (fractionChars fs).drop 1 = fs := by
  unfold fractionChars
  split
  next hnil => exact hnil.symm
  next => rfl

/-- A zone does not begin with a digit or a point. -/
lemma Zone.IsValid.exists_chars_eq {zone : Zone} (h : zone.IsValid) :
    ∃ c rest, zone.chars = c :: rest ∧ Shown.inFraction c = false := by
  cases zone with
  | utc letter =>
    simp only [Zone.IsValid, List.mem_cons, List.not_mem_nil, or_false] at h
    rcases h with rfl | rfl <;> exact ⟨_, _, rfl, rfl⟩
  | numeric sign hours minutes =>
    have hsign := h.1
    simp only [List.mem_cons, List.not_mem_nil, or_false] at hsign
    rcases hsign with rfl | rfl | rfl <;> exact ⟨_, _, rfl, rfl⟩

lemma Zone.offsetOf_chars {zone : Zone} : Shown.offsetOf zone.chars = zone.shown := by
  cases zone with
  | utc letter => rfl
  | numeric sign hours minutes =>
    have hdigits : (Decimal.paddedChars 2 hours ++ ':' :: Decimal.paddedChars 2 minutes).filter
        Char.isDigit = Decimal.paddedChars 2 hours ++ Decimal.paddedChars 2 minutes := by
      rw [List.filter_append, List.filter_cons_of_neg (by decide),
        List.filter_eq_self.mpr (areDigits_paddedChars 2 hours),
        List.filter_eq_self.mpr (areDigits_paddedChars 2 minutes)]
    rw [chars, Shown.offsetOf, hdigits]
    simp only [List.all_append, Bool.and_eq_true, all_zero_paddedChars_iff]
    rfl

/-- The parts that are shown of a text are those of the timestamp that it writes. -/
lemma Written.ofChars_chars {w : Written} (h : w.IsValid) : Shown.ofChars w.chars = w.shown := by
  have hdate := h.length_dateChars
  have hclock := h.time.length_clockChars
  obtain ⟨c, zone, hzone, hc⟩ := h.zone.exists_chars_eq
  obtain ⟨htake, hdrop⟩ := takeWhile_inFraction h.time.fraction hc zone
  rw [← hzone] at htake hdrop
  -- the date ends at position 10, the separator at 11 and the time of day at 19
  have htext : w.chars = w.dateChars ++ ([w.separator] ++ (w.time.clockChars ++
      (fractionChars w.time.fraction ++ w.zone.chars))) := by
    simp [chars, TimeOfDay.chars_eq]
  have hafter : w.chars.drop 11 =
      w.time.clockChars ++ (fractionChars w.time.fraction ++ w.zone.chars) := by
    rw [htext, ← List.append_assoc]
    exact List.drop_left' (by simp [hdate])
  have hrest : w.chars.drop 19 = fractionChars w.time.fraction ++ w.zone.chars := by
    rw [← List.drop_drop (i := 8) (j := 11), hafter]
    exact List.drop_left' hclock
  rw [Shown.ofChars, hrest, hafter, htake, hdrop, drop_one_fractionChars, Zone.offsetOf_chars,
    htext, List.take_left' hdate, List.take_left' hclock]
  rfl

/-! ## The text is made of these parts -/

lemma dropEndZeros_append_replicate (ds : List Char) (count : Nat) :
    Decimal.dropEndZeros (ds ++ List.replicate count '0') = Decimal.dropEndZeros ds := by
  rw [Decimal.dropEndZeros, List.reverse_append, List.reverse_replicate,
    List.dropWhile_append_of_pos (by simp), Decimal.dropEndZeros]

/-- The nanoseconds are written with the first nine digits of the fraction. -/
lemma padZeros_digits_nanosOfDigits {fs : List Char} (h : Decimal.AreDigits fs) :
    Decimal.padZeros 9 (Decimal.digits (nanosOfDigits fs)) =
      fs.take 9 ++ List.replicate (9 - fs.length) '0' := by
  -- a fraction with nine zeros behind it always has nine digits to take
  have hnine : (fs ++ List.replicate 9 '0').take 9 =
      fs.take 9 ++ List.replicate (9 - fs.length) '0' := by
    rw [List.take_append, List.take_replicate, Nat.min_eq_left (Nat.sub_le _ _)]
  have hdigits : Decimal.AreDigits ((fs ++ List.replicate 9 '0').take 9) := fun d hd =>
    (h.append (Decimal.areDigits_replicate_zero 9)) d (List.mem_of_mem_take hd)
  have hlength : ((fs ++ List.replicate 9 '0').take 9).length = 9 := by simp
  have hne : (fs ++ List.replicate 9 '0').take 9 ≠ [] := by
    rw [← List.length_pos_iff, hlength]
    decide
  have hread := Decimal.padZeros_digits_ofDigits hne hdigits
  rwa [hlength, ← nanosOfDigits_eq_ofDigits, hnine] at hread

lemma fractionChars_nanosOfDigits {fs : List Char} (h : Decimal.AreDigits fs) :
    Decimal.fractionChars (Decimal.padZeros 9 (Decimal.digits (nanosOfDigits fs))) =
      fractionChars (Decimal.dropEndZeros (fs.take 9)) := by
  rw [padZeros_digits_nanosOfDigits h, Decimal.fractionChars_eq, dropEndZeros_append_replicate,
    fractionChars]

namespace Written

variable {w : Written}

/-- The local second is that of the date and the time of day which are written. -/
lemma IsValid.localSeconds_eq (h : w.IsValid) :
    w.timestamp.localSeconds / secondsPerDay = w.date.dayNumber ∧
      w.timestamp.localSeconds % secondsPerDay = w.time.secondOfDay := by
  obtain ⟨hhour, hminute, -, -⟩ := h.time
  have hday : (w.time.secondOfDay : Int) < secondsPerDay := by
    simp only [TimeOfDay.secondOfDay, secondsPerDay]
    omega
  simp only [localSeconds, timestamp, secondsPerDay] at hday ⊢
  omega

/-- The nanoseconds beside the second are those of the fraction, and a leap second shows as one
second more. -/
lemma IsValid.nanos_eq (h : w.IsValid) :
    w.timestamp.shownNanos = nanosOfDigits w.time.fraction ∧
      min w.time.second 59 + w.timestamp.nanos / nanosPerSecond = w.time.second := by
  have hlt := nanosOfDigits_lt h.time.fraction
  have hsecond := h.time.second
  have hsixty : w.timestamp.nanos =
    (if w.time.second = 60 then nanosPerSecond else 0) + nanosOfDigits w.time.fraction := rfl
  rw [shownNanos, hsixty]
  simp only [nanosPerSecond] at hlt ⊢
  split <;> omega

/-- Date and time of day come back as they were written. -/
lemma IsValid.toList_dateTimeText (h : w.IsValid) :
    w.timestamp.dateTimeText.toList = w.dateChars ++ ' ' :: w.time.clockChars := by
  obtain ⟨hday, hclock⟩ := h.localSeconds_eq
  have hdate : w.timestamp.localDate = ⟨w.year, w.month, w.day⟩ := by
    rw [localDate, hday]
    exact Date.ofDayNumber_dayNumber h.date
  -- a leap second is the 59th in the second of the day, and the nanoseconds carry one more
  have hsecond := h.nanos_eq.2
  obtain ⟨-, hminute, -, -⟩ := h.time
  have hhours : w.time.secondOfDay / 3600 = w.time.hour := by
    rw [TimeOfDay.secondOfDay]
    omega
  have hminutes : w.time.secondOfDay / 60 % 60 = w.time.minute := by
    rw [TimeOfDay.secondOfDay]
    omega
  have hseconds : w.time.secondOfDay % 60 = min w.time.second 59 := by
    rw [TimeOfDay.secondOfDay]
    omega
  simp [dateTimeText, hdate, hclock, hhours, hminutes, hseconds, hsecond, dateChars,
    TimeOfDay.clockChars]

end Written

/-- An offset is written with its sign, its hours and its minutes. -/
lemma toList_offsetText {t : Timestamp} {hours minutes : Nat} (hminutes : minutes ≤ 59)
    (h : t.offset.natAbs = hours * 3600 + minutes * 60) :
    (t.offsetText "").toList = (if t.offset < 0 then '-' else '+') ::
      (Decimal.paddedChars 2 hours ++ Decimal.paddedChars 2 minutes) := by
  have hhour : t.offset.natAbs / 3600 = hours := by omega
  have hminute : t.offset.natAbs / 60 % 60 = minutes := by omega
  have hsign : (if t.offset < 0 then "-" else "+").toList =
      [if t.offset < 0 then '-' else '+'] := by
    split <;> rfl
  simp [offsetText, hhour, hminute, hsign]

/-- The offset and the name of the zone come back as they were written. -/
lemma Zone.IsValid.zoneChars_shown {zone : Zone} (h : zone.IsValid) {t : Timestamp}
    (ht : t.offset = zone.offset) :
    ' ' :: ((t.offsetText "").toList ++
      ' ' :: (if t.offset = 0 then "UTC" else t.offsetText "").toList) =
      Shown.zoneChars zone.shown := by
  cases zone with
  | utc letter =>
    have hzero : t.offset = 0 := ht
    have hsize : t.offset.natAbs = 0 * 3600 + 0 * 60 := by
      rw [hzero]
      rfl
    rw [toList_offsetText (Nat.zero_le 59) hsize, if_pos hzero, if_neg (by omega)]
    rfl
  | numeric sign hours minutes =>
    obtain ⟨-, hhours, hminutes⟩ := h
    have hoffset : t.offset = if sign = '+' then (hours * 3600 + minutes * 60 : Int)
      else -(hours * 3600 + minutes * 60) := ht
    have hsize : t.offset.natAbs = hours * 3600 + minutes * 60 := by
      rw [hoffset]
      split <;> omega
    by_cases hzero : hours = 0 ∧ minutes = 0
    · obtain ⟨rfl, rfl⟩ := hzero
      have hzero : t.offset = 0 := by omega
      rw [toList_offsetText hminutes hsize, if_pos hzero, if_neg (by omega)]
      rfl
    · -- the sign of the offset is the one that is written only because the offset is not zero
      have hsign : (if t.offset < 0 then '-' else '+') = if sign = '+' then '+' else '-' := by
        rw [hoffset]
        split
        next => exact if_neg (by omega)
        next => exact if_pos (by omega)
      have hne : t.offset ≠ 0 := by omega
      rw [if_neg hne, toList_offsetText hminutes hsize, hsign, shown, if_neg hzero]
      rfl

/-- The text of a timestamp is made of the parts that are shown. -/
lemma Written.toList_text {w : Written} (h : w.IsValid) :
    w.timestamp.text.toList = w.shown.chars := by
  have hzone := h.zone.zoneChars_shown (t := w.timestamp) rfl
  have hfraction := fractionChars_nanosOfDigits h.time.fraction
  simp only [text, String.toList_append, h.toList_dateTimeText, h.nanos_eq.1, String.toList_ofList,
    hfraction]
  rw [Shown.chars, shown, ← hzone]
  simp

/-! ## The parts can be read off -/

namespace Shown

/-- The parts are as long as those of a timestamp are, and the fraction has digits only. -/
structure IsProper (p : Shown) : Prop where
  date : p.date.length = 10
  clock : p.clock.length = 8
  fraction : Decimal.AreDigits p.fraction
  offset : ∀ offset ∈ p.offset, offset.length = 5

variable {p q : Shown}

/-- Where the fraction ends can be seen from the characters. -/
lemma fractionChars_zoneChars_inj {fs gs : List Char} {z z' : Option (List Char)}
    (hfs : Decimal.AreDigits fs) (hgs : Decimal.AreDigits gs)
    (h : fractionChars fs ++ zoneChars z = fractionChars gs ++ zoneChars z') :
    fs = gs ∧ zoneChars z = zoneChars z' := by
  have hblank (z : Option (List Char)) : ∃ rest, zoneChars z = ' ' :: rest := by
    cases z <;> exact ⟨_, rfl⟩
  obtain ⟨rest, hrest⟩ := hblank z
  obtain ⟨rest', hrest'⟩ := hblank z'
  have hends : inFraction ' ' = false := rfl
  rw [hrest, hrest'] at h ⊢
  obtain ⟨htake, hdrop⟩ := takeWhile_inFraction hfs hends rest
  obtain ⟨htake', hdrop'⟩ := takeWhile_inFraction hgs hends rest'
  rw [h] at htake hdrop
  have hfraction := congrArg (List.drop 1) (htake.symm.trans htake')
  rw [drop_one_fractionChars, drop_one_fractionChars] at hfraction
  exact ⟨hfraction, hdrop.symm.trans hdrop'⟩

lemma length_zoneChars_some (offset : List Char) :
    (zoneChars (some offset)).length = 2 * offset.length + 2 := by
  rw [zoneChars, List.length_cons, List.length_append, List.length_cons]
  omega

/-- UTC is told apart by the length, and two other offsets by the first half. -/
lemma zoneChars_inj {z z' : Option (List Char)} (hz : ∀ offset ∈ z, offset.length = 5)
    (hz' : ∀ offset ∈ z', offset.length = 5) (h : zoneChars z = zoneChars z') : z = z' := by
  have hutc : (zoneChars none).length = 10 := rfl
  have hother {offset : List Char} (hfive : offset.length = 5) :
      (zoneChars (some offset)).length = 12 := by
    rw [length_zoneChars_some, hfive]
  have hlength := congrArg List.length h
  cases z with
  | none =>
    cases z' with
    | none => rfl
    | some offset' =>
      rw [hutc, hother (hz' offset' rfl)] at hlength
      cases hlength
  | some offset =>
    cases z' with
    | none =>
      rw [hutc, hother (hz offset rfl)] at hlength
      cases hlength
    | some offset' =>
      have hfives := (hz offset rfl).trans (hz' offset' rfl).symm
      rw [(List.append_inj (List.cons.inj h).2 hfives).1]

/-- Different parts make different texts. -/
lemma IsProper.chars_inj (hp : p.IsProper) (hq : q.IsProper) (h : p.chars = q.chars) : p = q := by
  -- date and time of day are found by their lengths, the fraction by the blank after it
  obtain ⟨hdate, hrest⟩ := List.append_inj h (hp.date.trans hq.date.symm)
  obtain ⟨hclock, hrest⟩ :=
    List.append_inj (List.cons.inj hrest).2 (hp.clock.trans hq.clock.symm)
  obtain ⟨hfraction, hzone⟩ := fractionChars_zoneChars_inj hp.fraction hq.fraction hrest
  have hoffset := zoneChars_inj hp.offset hq.offset hzone
  cases p
  cases q
  simp_all

end Shown

lemma Written.IsValid.shown_isProper {w : Written} (h : w.IsValid) : w.shown.IsProper where
  date := h.length_dateChars
  clock := h.time.length_clockChars
  fraction := Decimal.areDigits_dropEndZeros fun d hd =>
    h.time.fraction d (List.mem_of_mem_take hd)
  offset := by
    intro offset hoffset
    have hzone := h.zone
    cases hw : w.zone with
    | utc letter => simp [shown, hw, Zone.shown] at hoffset
    | numeric sign hours minutes =>
      rw [hw] at hzone
      obtain ⟨-, hhours, hminutes⟩ := hzone
      simp only [shown, hw, Zone.shown, Option.mem_def, Option.ite_none_left_eq_some,
        Option.some.injEq] at hoffset
      rw [← hoffset.2]
      simp [length_paddedTwo (hhours.trans (by decide)),
        length_paddedTwo (hminutes.trans (by decide))]

/-! ## The main result -/

/-- A text that is accepted as a timestamp is one of the grammar, and the text of what was read is
made of parts of it: the same date and the same time of day to the second, a leap second included,
the first nine digits of the fraction without the zeros at their end, and the offset, twice or with
the name of UTC. Nothing else is shown, and none of this is lost: two accepted texts are shown alike
exactly if they agree on these parts. -/
theorem text_eq_shown {text : String} {t : Timestamp} (h : parse? text = some t) :
    (∃ w : Written, w.IsValid ∧ text.toList = w.chars) ∧
    t.text = String.ofList (Shown.ofChars text.toList).chars ∧
    ∀ other u, parse? other = some u →
      (t.text = u.text ↔ Shown.ofChars text.toList = Shown.ofChars other.toList) := by
  obtain ⟨v, hv, htext, rfl⟩ := parse?_eq_some_iff.mp h
  have hparts : Shown.ofChars text.toList = v.shown := by
    rw [htext]
    exact Written.ofChars_chars hv
  refine ⟨⟨v, hv, htext⟩, ?_, ?_⟩
  · rw [hparts, ← Written.toList_text hv, String.ofList_toList]
  · rintro other u hother
    obtain ⟨w, hw, hothertext, rfl⟩ := parse?_eq_some_iff.mp hother
    rw [hparts, hothertext, Written.ofChars_chars hw, ← String.toList_inj, Written.toList_text hv,
      Written.toList_text hw]
    constructor
    · exact hv.shown_isProper.chars_inj hw.shown_isProper
    · intro hshown
      rw [hshown]

/-- A leap second in the last minute of the year 9999, with an offset that puts it into the next
year in UTC: the tenth digit, the separator and the way the minus is written do not show. -/
theorem text_eq_shown_lastSecond :
    ∃ t u : Timestamp, parse? "9999-12-31t23:59:60.1200000009-01:30" = some t ∧
      parse? "9999-12-31 23:59:60.12\u221201:30" = some u ∧
      t.text = "9999-12-31 23:59:60.12 -0130 -0130" ∧ t.text = u.text := by
  have ht : parse? "9999-12-31t23:59:60.1200000009-01:30" =
      some ⟨315569525399, 1120000000, -5400⟩ := by
    decide +kernel
  have hu : parse? "9999-12-31 23:59:60.12\u221201:30" =
      some ⟨315569525399, 1120000000, -5400⟩ := by
    decide +kernel
  obtain ⟨-, htext, hsame⟩ := text_eq_shown ht
  exact ⟨_, _, ht, hu, htext.trans (by decide +kernel), (hsame _ _ hu).mpr (by decide +kernel)⟩

end BackupMonitor.Timestamp
