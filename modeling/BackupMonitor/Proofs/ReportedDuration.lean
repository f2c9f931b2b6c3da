import BackupMonitor.Proofs.Outcome
import BackupMonitor.Proofs.SignedDuration
import BackupMonitor.Proofs.TimestampGrammar

/-!
# The duration that is reported for a backup

A timestamp denotes an instant: its date and time of day less the offset, with the fraction cut
after nine digits. The duration of a completed backup is the difference of two instants. It can
always be represented, changes its sign if the two are exchanged, and does not depend on the offsets
in which they are written. Only a leap second is counted apart.
-/

namespace BackupMonitor

namespace Timestamp

/-! ## Instants -/

/-- The nanoseconds from the start of the year 0 in UTC to the instant that is written. -/
def Written.instant (w : Written) : Int :=
  (Date.civilDays w.year w.month w.day * 86400 + w.time.hour * 3600 + w.time.minute * 60 +
      w.time.second - w.zone.offset) * 1000000000 +
    (Decimal.ofDigits w.time.fraction * 1000000000 / tenTo w.time.fraction.length : Nat)

/-- The text denotes that instant, and none in a leap second. -/
def Denotes (text : String) (instant : Int) : Prop :=
  ∃ w : Written, w.IsValid ∧ text.toList = w.chars ∧ w.time.second ≠ 60 ∧ w.instant = instant

lemma nanosOfDigits_eq_ofDigits (fs : List Char) :
    nanosOfDigits fs = Decimal.ofDigits ((fs ++ List.replicate 9 '0').take 9) := rfl

/-- A fraction is cut after nine digits. -/
lemma nanosOfDigits_eq {fs : List Char} (h : Decimal.AreDigits fs) :
    nanosOfDigits fs = Decimal.ofDigits fs * 1000000000 / tenTo fs.length := by
  have hpadded := h.append (Decimal.areDigits_replicate_zero 9)
  rw [nanosOfDigits_eq_ofDigits, Decimal.ofDigits_take hpadded, Decimal.ofDigits_append,
    Decimal.ofDigits_replicate_zero, List.length_append, List.length_replicate,
    Nat.add_sub_cancel, Nat.add_zero]
  rfl

lemma nanosOfDigits_lt {fs : List Char} (h : Decimal.AreDigits fs) :
    nanosOfDigits fs < nanosPerSecond := by
  rw [nanosOfDigits_eq h]
  refine Nat.div_lt_of_lt_mul ?_
  exact Nat.mul_lt_mul_of_pos_right (Decimal.ofDigits_lt h) (by decide)

lemma Zone.offset_bounds {zone : Zone} (h : zone.IsValid) :
    -secondsPerDay < zone.offset ∧ zone.offset < secondsPerDay := by
  cases zone with
  | utc letter => simp [Zone.offset, secondsPerDay]
  | numeric sign hours minutes =>
    obtain ⟨-, hhours, hminutes⟩ := h
    simp only [Zone.offset, secondsPerDay]
    split <;> omega

namespace Written

variable {w : Written}

lemma dayNumber_date (w : Written) : w.date.dayNumber = Date.civilDays w.year w.month w.day :=
  Date.dayNumber_eq_civilDays _ _ _

/-- Timestamps lie in the years that are written with four digits, or a day beside them. -/
lemma IsValid.seconds_bounds (h : w.IsValid) :
    -secondsPerDay < w.timestamp.seconds ∧ w.timestamp.seconds < 4000000 * secondsPerDay := by
  have hyears := Date.daysBeforeYear_le w.year
  have hmonths := Date.daysOfMonths_le w.year (w.month - 1)
  have hmonth : w.month ≤ 12 := Date.month_le_of_isValid h.date
  have hday : w.day ≤ 31 := Date.day_le_of_isValid h.date
  have hoffset := Zone.offset_bounds h.zone
  obtain ⟨hhour, hminute, hsecond, -⟩ := h.time
  have hyear := h.year
  simp only [timestamp, dayNumber_date, Date.civilDays, TimeOfDay.secondOfDay, secondsPerDay] at *
  omega

lemma IsValid.nanos_lt (h : w.IsValid) : w.timestamp.nanos < 2 * nanosPerSecond := by
  have hlt := nanosOfDigits_lt h.time.fraction
  simp only [timestamp, TimeOfDay.nanos]
  split <;> omega

/-- Outside leap seconds a timestamp is the instant that it denotes. -/
lemma IsValid.instant_eq (h : w.IsValid) (hsecond : w.time.second ≠ 60) :
    w.instant = w.timestamp.seconds * nanosPerSecond + w.timestamp.nanos ∧
      w.timestamp.inLeapSecond = false := by
  have hlt := nanosOfDigits_lt h.time.fraction
  have hkept : min w.time.second 59 = w.time.second := by
    have hle := h.time.second
    omega
  have hnanos : w.timestamp.nanos = nanosOfDigits w.time.fraction := by
    simp [timestamp, TimeOfDay.nanos, hsecond]
  constructor
  · rw [hnanos, instant, nanosOfDigits_eq h.time.fraction]
    simp only [timestamp, dayNumber_date, TimeOfDay.secondOfDay, hkept, secondsPerDay,
      nanosPerSecond]
    push_cast
    ring
  · rw [inLeapSecond, hnanos]
    exact decide_eq_false (Nat.not_le.mpr hlt)

end Written

/-! ## Differences -/

lemma leapAdjustment_swap (a b : Timestamp) : leapAdjustment a b = -leapAdjustment b a := by
  unfold leapAdjustment
  split_ifs <;> omega

/-- Exchanging two instants negates their difference. -/
lemma since_swap (a b : Timestamp) : (a.since b).nanos = -(b.since a).nanos := by
  rw [since, since, leapAdjustment_swap a b]
  dsimp only
  ring

lemma leapAdjustment_bounds (a b : Timestamp) :
    -1 ≤ leapAdjustment a b ∧ leapAdjustment a b ≤ 1 := by
  unfold leapAdjustment
  split_ifs <;> omega

/-- Between timestamps that are written, every difference can be represented. -/
lemma since_bounds {v w : Written} (hv : v.IsValid) (hw : w.IsValid) :
    -TimeDelta.limit ≤ (w.timestamp.since v.timestamp).nanos ∧
      (w.timestamp.since v.timestamp).nanos ≤ TimeDelta.limit := by
  have hleap := leapAdjustment_bounds w.timestamp v.timestamp
  have hlimit : TimeDelta.limit = 9223372036854775807000000 := rfl
  have hvseconds := hv.seconds_bounds
  have hwseconds := hw.seconds_bounds
  have hvnanos := hv.nanos_lt
  have hwnanos := hw.nanos_lt
  simp only [since, hlimit, nanosPerSecond, secondsPerDay] at *
  omega

lemma delta?_stored_since {v w : Written} (hv : v.IsValid) (hw : w.IsValid) :
    (w.timestamp.since v.timestamp).stored.delta? = some (w.timestamp.since v.timestamp) :=
  have hbounds := since_bounds hv hw
  TimeDelta.delta?_stored hbounds.1 hbounds.2

/-- Outside leap seconds the difference is that of the instants. -/
lemma since_eq_instant_sub {v w : Written} (hv : v.IsValid) (hw : w.IsValid)
    (hvsecond : v.time.second ≠ 60) (hwsecond : w.time.second ≠ 60) :
    w.timestamp.since v.timestamp = ⟨w.instant - v.instant⟩ := by
  obtain ⟨hvinstant, hvleap⟩ := hv.instant_eq hvsecond
  obtain ⟨hwinstant, hwleap⟩ := hw.instant_eq hwsecond
  have hadjust : leapAdjustment w.timestamp v.timestamp = 0 := by
    simp [leapAdjustment, hvleap, hwleap]
  rw [since, hadjust, hvinstant, hwinstant, TimeDelta.mk.injEq]
  ring

lemma Denotes.accepted {text : String} {i : Int} (h : Denotes text i) :
    ∃ t, parse? text = some t := by
  obtain ⟨w, hw, hchars, -⟩ := h
  exact ⟨w.timestamp, parse?_eq_some_iff.mpr ⟨w, hw, hchars, rfl⟩⟩

/-- Whatever texts denote two instants, the difference is that of the instants. -/
lemma since_of_denotes {a b : String} {ta tb : Timestamp} {i j : Int} (ha : parse? a = some ta)
    (hb : parse? b = some tb) (hi : Denotes a i) (hj : Denotes b j) : tb.since ta = ⟨j - i⟩ := by
  obtain ⟨v, hv, hachars, hvsecond, rfl⟩ := hi
  obtain ⟨w, hw, hbchars, hwsecond, rfl⟩ := hj
  rw [parse?_eq_some_iff.mpr ⟨v, hv, hachars, rfl⟩, Option.some.injEq] at ha
  rw [parse?_eq_some_iff.mpr ⟨w, hw, hbchars, rfl⟩, Option.some.injEq] at hb
  rw [← ha, ← hb]
  exact since_eq_instant_sub hv hw hvsecond hwsecond

end Timestamp

/-! ## The text and the parts of a difference -/

namespace TimeDelta

variable {d e : TimeDelta}

/-- Of two opposite differences, the text of the one below zero is that of the other, after a minus
sign. -/
lemma text_of_neg (hd : d.stored.delta? = some d) (he : e.stored.delta? = some e)
    (h : e.nanos = -d.nanos) (hpos : 0 < d.nanos) : e.text = "-" ++ d.text := by
  have hnonneg : ¬d.nanos < 0 := by omega
  rw [text, text, StoredDelta.text_eq hd, StoredDelta.text_eq he]
  simp [hnonneg, h, hpos]

end TimeDelta

/-- A number cut toward zero and what is left beside it do not have opposite signs. -/
lemma tdiv_mul_tmod_nonneg (n : Int) (unit : Nat) : 0 ≤ n.tdiv unit * n.tmod unit := by
  have hunit : (0 : Int) ≤ unit := Int.natCast_nonneg _
  rcases Int.le_total 0 n with h | h
  · exact mul_nonneg (Int.tdiv_nonneg h hunit) (Int.tmod_nonneg _ h)
  · have hwhole := Int.tdiv_nonneg (Int.neg_nonneg.mpr h) hunit
    have hrest := Int.tmod_nonneg (unit : Int) (Int.neg_nonneg.mpr h)
    rw [Int.neg_tdiv, Int.neg_nonneg] at hwhole
    rw [Int.neg_tmod, Int.neg_nonneg] at hrest
    exact mul_nonneg_of_nonpos_of_nonpos hwhole hrest

/-- Parts that make up a number of nanoseconds come to less than nothing exactly if it is below
zero. -/
lemma seconds_neg_iff {whole rest nanos : Int} (h : whole * nanosPerSecond + rest = nanos) :
    (whole + rest / nanosPerSecond : ℚ) < 0 ↔ nanos < 0 := by
  have hsum : (whole + rest / nanosPerSecond : ℚ) = nanos / nanosPerSecond := by
    rw [← h]
    simp only [nanosPerSecond]
    push_cast
    ring
  have hsecond : (0 : ℚ) < nanosPerSecond := by norm_num [nanosPerSecond]
  rw [hsum, div_neg_iff]
  simp [hsecond, hsecond.not_gt]

/-! ## The main result -/

/-- The state says that the backup completed, and when it started and stopped. -/
structure Object.CompletedBetween (backup : Object) (startedAt stoppedAt : String) : Prop where
  phase : backup.content.at? Phase.path = some (.string "completed")
  startedAt : backup.content.at? Outcome.startedAtPath = some (.string startedAt)
  stoppedAt : backup.content.at? Outcome.stoppedAtPath = some (.string stoppedAt)

/-- An observation of a completed backup with readable times is a success. -/
lemma Tracked.observe_completed (tracked : Tracked) {backup : Object} {name a b : String}
    {ta tb : Timestamp} (hname : backup.name = some name) (h : backup.CompletedBetween a b)
    (ha : Timestamp.parse? a = some ta) (hb : Timestamp.parse? b = some tb) :
    (tracked.observe backup).result = .ok (some (.success (tb.since ta) tb)) := by
  rw [tracked.observe_result hname, Outcome.ofBackup_eq_success_iff]
  exact ⟨h.phase, ta, Outcome.timestampAt_eq_ok_iff.mpr ⟨a, h.startedAt, ha⟩,
    Outcome.timestampAt_eq_ok_iff.mpr ⟨b, h.stoppedAt, hb⟩, rfl⟩

/-- For any two texts that are accepted as timestamps, a backup that completed between them is a
success, and its duration can be represented. If the two are exchanged, the duration changes its
sign and its text the minus sign in front. If neither names a leap second, the duration is the
difference of the instants that the texts denote, and so it and the metric are the same for all
texts that denote these instants. The two parts of the metric make up the duration and do not have
opposite signs, so what they come to is negative exactly if the duration is. -/
theorem reported_duration_is_difference {a b : String} {ta tb : Timestamp}
    (ha : Timestamp.parse? a = some ta) (hb : Timestamp.parse? b = some tb) :
    (∀ (tracked : Tracked) (backup : Object) (name : String), backup.name = some name →
      backup.CompletedBetween a b →
      (tracked.observe backup).result = .ok (some (.success (tb.since ta) tb))) ∧
    (-TimeDelta.limit ≤ (tb.since ta).nanos ∧ (tb.since ta).nanos ≤ TimeDelta.limit) ∧
    ((ta.since tb).nanos = -(tb.since ta).nanos ∧
      ((tb.since ta).text.toList.head? = some '-' ↔ (tb.since ta).nanos < 0) ∧
      (0 < (tb.since ta).nanos → (ta.since tb).text = "-" ++ (tb.since ta).text) ∧
      ((tb.since ta).nanos < 0 → (tb.since ta).text = "-" ++ (ta.since tb).text)) ∧
    (∃ v w : Timestamp.Written, (v.IsValid ∧ a.toList = v.chars) ∧ w.IsValid ∧ b.toList = w.chars) ∧
    (∀ i j, Timestamp.Denotes a i → Timestamp.Denotes b j →
      tb.since ta = ⟨j - i⟩ ∧
      ∀ a' b', Timestamp.Denotes a' i → Timestamp.Denotes b' j →
        ∃ ta' tb', Timestamp.parse? a' = some ta' ∧ Timestamp.parse? b' = some tb' ∧
          tb'.since ta' = tb.since ta ∧ (tb'.since ta').seconds = (tb.since ta).seconds) ∧
    ∃ whole rest : Int, (tb.since ta).stored.wholeSeconds.toInt = whole ∧
      (tb.since ta).stored.restNanos = rest ∧
      (tb.since ta).seconds = Float.ofInt whole + Float.ofInt rest / 1e9 ∧
      whole = (tb.since ta).nanos.tdiv nanosPerSecond ∧
      whole * nanosPerSecond + rest = (tb.since ta).nanos ∧ 0 ≤ whole * rest ∧
      ((whole + rest / nanosPerSecond : ℚ) < 0 ↔ (tb.since ta).nanos < 0) := by
  obtain ⟨v, hv, hachars, rfl⟩ := Timestamp.parse?_eq_some_iff.mp ha
  obtain ⟨w, hw, hbchars, rfl⟩ := Timestamp.parse?_eq_some_iff.mp hb
  have hbounds := Timestamp.since_bounds hv hw
  have hstored := Timestamp.delta?_stored_since hv hw
  have hback := Timestamp.delta?_stored_since hw hv
  have hswap := Timestamp.since_swap v.timestamp w.timestamp
  refine ⟨fun tracked _ _ hname h => tracked.observe_completed hname h ha hb, hbounds,
    ⟨hswap, StoredDelta.head?_text hstored, TimeDelta.text_of_neg hstored hback hswap, ?_⟩,
    ⟨v, w, ⟨hv, hachars⟩, hw, hbchars⟩, ?_, ?_⟩
  · intro hneg
    exact TimeDelta.text_of_neg hback hstored (by omega) (by omega)
  · -- both pairs of texts denote the same two instants, so the two differences are one
    intro i j hi hj
    have hd := Timestamp.since_of_denotes ha hb hi hj
    refine ⟨hd, fun a' b' hi' hj' => ?_⟩
    obtain ⟨ta', ha'⟩ := hi'.accepted
    obtain ⟨tb', hb'⟩ := hj'.accepted
    have hd' := Timestamp.since_of_denotes ha' hb' hi' hj'
    exact ⟨ta', tb', ha', hb', hd'.trans hd.symm, by rw [hd', hd]⟩
  · obtain ⟨hwhole, hrest⟩ := StoredDelta.parts_eq hstored
    have hsum := Int.tdiv_mul_add_tmod (w.timestamp.since v.timestamp).nanos nanosPerSecond
    have hsign := tdiv_mul_tmod_nonneg (w.timestamp.since v.timestamp).nanos nanosPerSecond
    rw [← hwhole, ← hrest] at hsum hsign
    exact ⟨_, _, rfl, rfl, rfl, hwhole, hsum, hsign, seconds_neg_iff hsum⟩

namespace Sample

/-- A backup that stopped before it started, on either side of a new year. -/
def skewed : Object where
  name := some "b1"
  content := .object [("status", .object [("phase", .string "completed"),
    ("startedAt", .string "2024-01-01T00:30:00.5+02:00"),
    ("stoppedAt", .string "2023-12-31T22:29:59Z")])]

end Sample

/-- A backup that stopped a second and a half before it started took minus that long. -/
theorem reported_duration_is_difference_skewed :
    ∃ ta tb : Timestamp, Timestamp.parse? "2024-01-01T00:30:00.5+02:00" = some ta ∧
      Timestamp.parse? "2023-12-31T22:29:59Z" = some tb ∧
      ((∅ : Tracked).observe Sample.skewed).result = .ok (some (.success (tb.since ta) tb)) ∧
      (tb.since ta).nanos = -1500000000 ∧ (ta.since tb).nanos = 1500000000 ∧
      (tb.since ta).text.toList.head? = some '-' := by
  have ha : Timestamp.parse? "2024-01-01T00:30:00.5+02:00" =
      some ⟨63871281000, 500000000, 7200⟩ := by
    decide +kernel
  have hb : Timestamp.parse? "2023-12-31T22:29:59Z" = some ⟨63871280999, 0, 0⟩ := by
    decide +kernel
  obtain ⟨hobserve, -, ⟨hswap, hsign, -⟩, -⟩ := reported_duration_is_difference ha hb
  exact ⟨_, _, ha, hb, hobserve ∅ _ _ rfl ⟨rfl, rfl, rfl⟩, by decide, hswap.trans (by decide),
    hsign.mpr (by decide)⟩

end BackupMonitor
