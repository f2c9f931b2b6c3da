import BackupMonitor.Proofs.DurationText
import BackupMonitor.Time.StoredDelta

/-!
# The text of a difference of two instants

A difference is stored as seconds rounded down and nanoseconds on top. Its magnitude is always a
duration, so the text is that of the exact magnitude with the sign in front, and it reads as the
difference.
-/

namespace BackupMonitor

/-! ## Arithmetic that does not overflow -/

lemma toInt_succ {a : Int64} (h : a.toInt < 0) : (a + 1).toInt = a.toInt + 1 := by
  have hleast := Int64.le_toInt a
  rw [Int64.toInt_add, Int64.toInt_one]
  exact Int.bmod_eq_of_le (by omega) (by omega)

lemma toInt_abs {a : Int64} (h : -(twoTo 63 : Int) < a.toInt) : a.abs.toInt = a.toInt.natAbs := by
  have hne : a.toBitVec ≠ BitVec.intMin 64 := by
    intro heq
    have hmin : a.toInt = -(twoTo 63 : Int) := by
      rw [← Int64.toInt_toBitVec, heq]
      rfl
    omega
  exact BitVec.toInt_abs_eq_natAbs_of_ne_intMin hne

namespace StoredDelta

variable {s : StoredDelta} {d : TimeDelta}

lemma delta?_eq_some_iff : s.delta? = some d ↔ s.nanos < nanosPerSecond ∧
    d.nanos = s.seconds.toInt * nanosPerSecond + s.nanos ∧
    -TimeDelta.limit ≤ d.nanos ∧ d.nanos ≤ TimeDelta.limit := by
  obtain ⟨nanos⟩ := d
  unfold delta? TimeDelta.ofParts?
  dsimp only
  split <;> grind

lemma isNegative_iff (h : s.delta? = some d) : s.isNegative = true ↔ d.nanos < 0 := by
  obtain ⟨hnanos, hsum, -, -⟩ := delta?_eq_some_iff.mp h
  rw [isNegative, decide_eq_true_iff, Int64.lt_iff_toInt_lt]
  simp only [nanosPerSecond] at hnanos hsum
  have hzero : (0 : Int64).toInt = 0 := rfl
  omega

/-- Seconds that are not below zero are those of a duration. -/
lemma toDuration?_mk {seconds : Int64} {size : Nat} (nanos : Nat) (h : seconds.toInt = size) :
    toDuration? ⟨seconds, nanos⟩ = some ⟨size * nanosPerSecond + nanos⟩ := by
  have hneg : isNegative ⟨seconds, nanos⟩ = false := by
    rw [isNegative, decide_eq_false_iff_not, Int64.lt_iff_toInt_lt, h]
    exact Int.not_lt.mpr (Int.natCast_nonneg size)
  simp [toDuration?, hneg, h]

/-- The magnitude of a difference is a duration, the exact one. -/
lemma toDuration?_abs (h : s.delta? = some d) : s.abs.toDuration? = some ⟨d.nanos.natAbs⟩ := by
  have hneg := isNegative_iff h
  obtain ⟨hnanos, hsum, hleast, -⟩ := delta?_eq_some_iff.mp h
  have hlimit : TimeDelta.limit = 9223372036854775807000000 := rfl
  have htwo : (twoTo 63 : Int) = 9223372036854775808 := rfl
  have hsecond : nanosPerSecond = 1000000000 := rfl
  rw [hsecond] at hnanos hsum
  unfold abs
  split
  next hcut =>
    rw [hneg] at hcut
    -- the seconds were rounded away from zero, so they come closer by one
    have hnext := toInt_succ (a := s.seconds) (by omega)
    rw [toDuration?_mk _ (toInt_abs (by omega)), hsecond, Option.some.injEq, Duration.mk.injEq]
    omega
  next hcut =>
    rw [hneg] at hcut
    rw [toDuration?_mk _ (toInt_abs (by omega)), hsecond, Option.some.injEq, Duration.mk.injEq]
    omega

/-- The text of a difference is that of the exact magnitude, with the sign in front. -/
lemma text_eq (h : s.delta? = some d) :
    s.text = (if d.nanos < 0 then "-" else "") ++ (Duration.mk d.nanos.natAbs).text := by
  have hneg := isNegative_iff h
  simp only [text, toDuration?_abs h, Option.getD_some]
  by_cases hd : d.nanos < 0
  · simp [hneg.mpr hd, hd]
  · simp [mt hneg.mp hd, hd]

/-- The whole seconds are cut toward zero, and the rest is what is left beside them. -/
lemma parts_eq (h : s.delta? = some d) :
    s.wholeSeconds.toInt = d.nanos.tdiv nanosPerSecond ∧
      s.restNanos = d.nanos.tmod nanosPerSecond := by
  have hneg := isNegative_iff h
  obtain ⟨hnanos, hsum, -⟩ := delta?_eq_some_iff.mp h
  have hsecond : nanosPerSecond = 1000000000 := rfl
  rw [hsecond] at hnanos hsum
  unfold wholeSeconds restNanos
  rw [hsecond, Int.tdiv_eq_ediv, Int.tmod_eq_emod,
    show ((1000000000 : Nat) : Int).sign = 1 from rfl]
  split_ifs with hcut hdiv
  all_goals rw [hneg] at hcut
  · omega
  · have hnext := toInt_succ (a := s.seconds) (by omega)
    omega
  · omega
  · omega

/-- A difference is stored in one way only. -/
lemma eq_of_delta?_eq {t : StoredDelta} (hs : s.delta? = some d) (ht : t.delta? = some d) :
    s = t := by
  obtain ⟨hnanos, hsum, -, -⟩ := delta?_eq_some_iff.mp hs
  obtain ⟨hnanos', hsum', -, -⟩ := delta?_eq_some_iff.mp ht
  obtain ⟨seconds, nanos⟩ := s
  obtain ⟨seconds', nanos'⟩ := t
  simp only [nanosPerSecond] at hnanos hnanos' hsum hsum'
  rw [StoredDelta.mk.injEq, ← Int64.toInt_inj]
  omega

end StoredDelta

/-- Every difference that can be represented is stored. -/
lemma TimeDelta.delta?_stored {d : TimeDelta} (hleast : -limit ≤ d.nanos)
    (hgreatest : d.nanos ≤ limit) : d.stored.delta? = some d := by
  have hlimit : limit = 9223372036854775807000000 := rfl
  have hseconds : (Int64.ofInt (d.nanos / nanosPerSecond)).toInt = d.nanos / nanosPerSecond := by
    simp only [nanosPerSecond]
    exact Int64.toInt_ofInt_of_le (by omega) (by omega)
  refine StoredDelta.delta?_eq_some_iff.mpr ⟨?_, ?_, hleast, hgreatest⟩
  · simp only [stored, nanosPerSecond]
    omega
  · rw [stored, hseconds]
    simp only [nanosPerSecond]
    omega

/-! ## Reading -/

/-- Reads the text of a difference as nanoseconds. -/
def readSigned (text : String) : Option ℚ :=
  if text.toList.head? = some '-' then (readNanosChars text.toList.tail).map (- ·)
  else readNanosChars text.toList

/-- No sum of terms has a minus sign. -/
lemma TimeTerm.minus_notMem_chars (ts : List TimeTerm) : '-' ∉ chars ts := by
  intro hminus
  obtain ⟨block, hblock, hminus⟩ := List.mem_flatten.mp hminus
  obtain ⟨t, -, hblock⟩ := List.mem_flatMap.mp hblock
  rcases List.mem_cons.mp hblock with rfl | hblock
  · exact absurd (t.isNumeric_of_mem_number hminus) (by decide)
  · obtain rfl := List.mem_singleton.mp hblock
    revert hminus
    cases t.unit <;> decide

lemma Duration.head?_text_ne (d : Duration) : d.text.toList.head? ≠ some '-' := by
  intro hhead
  rw [d.toList_text] at hhead
  exact TimeTerm.minus_notMem_chars d.terms (List.mem_of_head? hhead)

namespace StoredDelta

variable {s : StoredDelta} {d : TimeDelta}

/-- The text of a difference has a minus sign in front exactly if it is below zero. -/
lemma head?_text (h : s.delta? = some d) : s.text.toList.head? = some '-' ↔ d.nanos < 0 := by
  rw [text_eq h]
  split_ifs with hneg
  · simp [hneg]
  · simp [hneg, Duration.head?_text_ne]

/-- The text of a difference reads as the difference. -/
lemma readSigned_text (h : s.delta? = some d) : readSigned s.text = some (d.nanos : ℚ) := by
  have hread : readNanosChars (Duration.mk d.nanos.natAbs).text.toList =
      some (d.nanos.natAbs : ℚ) := Duration.readNanos_text _
  rw [readSigned, if_congr (head?_text h) rfl rfl, text_eq h]
  split_ifs with hneg
  · rw [String.toList_append, show "-".toList = ['-'] from rfl, List.singleton_append,
      List.tail_cons, hread, Option.map_some, Nat.cast_natAbs, abs_of_neg hneg, Int.cast_neg,
      neg_neg]
  · rw [String.toList_append, show "".toList = [] from rfl, List.nil_append, hread,
      Nat.cast_natAbs, abs_of_nonneg (Int.not_lt.mp hneg)]

end StoredDelta

/-! ## The main result -/

/-- The text of every duration reads as exactly that duration and is canonical, so different
durations have different texts. A difference of two instants has the text of its exact magnitude,
after a minus sign if and only if it is below zero: the magnitude is always a duration, at both ends
of the range too, and different differences have different texts. -/
theorem duration_texts_are_exact :
    (∀ d : Duration, readNanos d.text = some (d.nanos : ℚ) ∧
      ∃ ts, d.text.toList = TimeTerm.chars ts ∧ TimeTerm.AreCanonical ts ∧
        TimeTerm.total ts = d.nanos) ∧
    Function.Injective Duration.text ∧
    (∀ d : TimeDelta, -TimeDelta.limit ≤ d.nanos → d.nanos ≤ TimeDelta.limit →
      d.stored.delta? = some d) ∧
    (∀ (s : StoredDelta) (d : TimeDelta), s.delta? = some d →
      s.abs.toDuration? = some ⟨d.nanos.natAbs⟩ ∧
      s.text = (if d.nanos < 0 then "-" else "") ++ (Duration.mk d.nanos.natAbs).text ∧
      d.text = s.text ∧ readSigned s.text = some (d.nanos : ℚ)) ∧
    ∀ (s t : StoredDelta) (d e : TimeDelta), s.delta? = some d → t.delta? = some e →
      s.text = t.text → s = t := by
  refine ⟨fun d => ⟨d.readNanos_text, d.terms, d.toList_text, d.terms_spec.2, d.terms_spec.1⟩,
    ?_, fun d => d.delta?_stored, ?_, ?_⟩
  · intro d e htext
    have hread := d.readNanos_text
    rw [htext, e.readNanos_text] at hread
    exact congrArg Duration.mk (by exact_mod_cast (Option.some.inj hread).symm)
  · intro s d hs
    obtain ⟨-, -, hleast, hgreatest⟩ := StoredDelta.delta?_eq_some_iff.mp hs
    have hstored : d.stored = s :=
      StoredDelta.eq_of_delta?_eq (TimeDelta.delta?_stored hleast hgreatest) hs
    exact ⟨StoredDelta.toDuration?_abs hs, StoredDelta.text_eq hs,
      congrArg StoredDelta.text hstored, StoredDelta.readSigned_text hs⟩
  · intro s t d e hs ht htext
    have hread := StoredDelta.readSigned_text hs
    rw [htext, StoredDelta.readSigned_text ht] at hread
    have hnanos : d.nanos = e.nanos := by exact_mod_cast (Option.some.inj hread).symm
    obtain rfl : d = e := congrArg TimeDelta.mk hnanos
    exact StoredDelta.eq_of_delta?_eq hs ht

/-- The least difference, stored with seconds that lie below it, has the text of its magnitude. -/
theorem duration_texts_are_exact_least :
    let s : StoredDelta := ⟨-9223372036854776, 193000000⟩
    s.delta? = some ⟨-TimeDelta.limit⟩ ∧
    s.abs.toDuration? = some ⟨9223372036854775807000000⟩ ∧
    s.text = "-" ++ (Duration.mk 9223372036854775807000000).text ∧
    readSigned s.text = some (-9223372036854775807000000) := by
  have hs : StoredDelta.delta? ⟨-9223372036854776, 193000000⟩ = some ⟨-TimeDelta.limit⟩ := by decide
  obtain ⟨hmagnitude, htext, -, hread⟩ := duration_texts_are_exact.2.2.2.1 _ _ hs
  exact ⟨hs, hmagnitude, htext, hread⟩

end BackupMonitor
