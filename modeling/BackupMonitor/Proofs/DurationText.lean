import BackupMonitor.Proofs.DurationTerms
import Mathlib.Algebra.Order.Field.Basic
import Mathlib.Tactic.NormNum

/-!
# The text of a duration says exactly how long it is

The text of a duration is that of its terms (`Duration.toList_text`). They are canonical and come to
the nanoseconds of the duration (`Duration.terms_spec`), so the text reads as the duration.
-/

namespace BackupMonitor

/-! ## Canonical texts -/

/-- The units below a second. -/
def TimeUnit.small : List TimeUnit := [millis, micros, nanos]

lemma TimeUnit.forall_mem_small {p : TimeUnit → Prop} :
    (∀ unit ∈ small, p unit) ↔ p millis ∧ p micros ∧ p nanos := by
  simp [small]

namespace TimeTerm

/-- How the terms of a duration are to be chosen. -/
inductive AreCanonical : List TimeTerm → Prop
  /-- Zero is no seconds. -/
  | zero : AreCanonical [whole 0 .seconds]
  /-- Below a second there is one term, in the largest unit of which it has at least one. -/
  | small (t : TimeTerm) (hunit : t.unit ∈ TimeUnit.small) (hone : 1 ≤ t.value)
      (hsecond : t.nanos < nanosPerSecond)
      (hlargest : ∀ unit ∈ TimeUnit.small, unit.size ≤ t.nanos → unit.size ≤ t.unit.size) :
      AreCanonical [t]
  /-- From one second on there are hours if there is one, minutes if there is one of these or an
  hour, and seconds. -/
  | long (hours minutes : Nat) (t : TimeTerm) (hminutes : minutes < 60) (hunit : t.unit = .seconds)
      (hsixty : t.value < 60) (hone : 0 < hours ∨ 0 < minutes ∨ 1 ≤ t.value) :
      AreCanonical ((if 0 < hours then [whole hours .hours] else []) ++
        (if 0 < hours ∨ 0 < minutes then [whole minutes .minutes] else []) ++ [t])

/-- A single term is the text of a duration below one second. -/
lemma areCanonical_fixed {value places : Nat} {unit : TimeUnit} (hunit : unit ∈ TimeUnit.small)
    (hsize : tenTo places = unit.size) (hone : unit.size ≤ value) (hsecond : value < nanosPerSecond)
    (hlargest : ∀ other ∈ TimeUnit.small, other.size ≤ value → other.size ≤ unit.size) :
    (fixed value places unit).nanos = value ∧ AreCanonical [fixed value places unit] := by
  have hpos : 0 < (unit.size : ℚ) := by
    rw [← hsize]
    exact_mod_cast tenTo_pos places
  have hnanos : (fixed value places unit).nanos = value := by
    rw [nanos_fixed, hsize]
    exact div_mul_cancel₀ _ hpos.ne'
  refine ⟨hnanos, .small _ hunit ?_ ?_ ?_⟩
  · have hvalue : (fixed value places unit).value = value / unit.size := by
      rw [← hsize]
      rfl
    rw [hvalue, one_le_div hpos]
    exact_mod_cast hone
  · rw [hnanos]
    exact_mod_cast hsecond
  · intro other hother hle
    rw [hnanos] at hle
    exact hlargest other hother (by exact_mod_cast hle)

end TimeTerm

namespace Duration

open TimeTerm

/-- The terms of that many nanoseconds, from a second on. -/
def longTerms (nanos : Nat) : List TimeTerm :=
  let hours := nanos / nanosPerSecond / 3600
  let minutes := nanos / nanosPerSecond % 3600 / 60
  (if 0 < hours then [whole hours .hours] else []) ++
    (if 0 < hours ∨ 0 < minutes then [whole minutes .minutes] else []) ++
    [.fixed (nanos % (60 * nanosPerSecond)) 9 .seconds]

/-- The terms of a duration. -/
def terms (d : Duration) : List TimeTerm :=
  if d.nanos = 0 then [whole 0 .seconds]
  else if d.nanos < 1000 then [.fixed d.nanos 0 .nanos]
  else if d.nanos < 1000000 then [.fixed d.nanos 3 .micros]
  else if d.nanos < nanosPerSecond then [.fixed d.nanos 6 .millis]
  else longTerms d.nanos

/-- The text of a duration is that of its terms. -/
lemma toList_text (d : Duration) : d.text.toList = chars d.terms := by
  unfold text terms
  split_ifs
  · rfl
  · simp [chars, blocks, TimeTerm.fixed, TimeUnit.symbol, Decimal.fixed]
  · simp [chars, blocks, TimeTerm.fixed, TimeUnit.symbol, Decimal.fixed]
  · simp [chars, blocks, TimeTerm.fixed, TimeUnit.symbol, Decimal.fixed]
  · dsimp only [longTerms]
    split_ifs <;>
      simp [chars, blocks, TimeTerm.fixed, whole, TimeUnit.symbol, Decimal.fixed,
        Decimal.fixedChars_zero]

/-- Leaving out a term that is nothing does not change a sum. -/
lemma total_ite {p : Prop} [Decidable p] (count : Nat) (unit : TimeUnit) (h : ¬p → count = 0) :
    total (if p then [whole count unit] else []) = count * unit.size := by
  split
  next => simp
  next hp => simp [h hp]

/-- Below a second the terms are canonical and come to the duration. -/
lemma terms_of_lt {d : Duration} (h : d.nanos < nanosPerSecond) :
    total d.terms = d.nanos ∧ AreCanonical d.terms := by
  have hsingle {places : Nat} {unit : TimeUnit}
      (h : (TimeTerm.fixed d.nanos places unit).nanos = d.nanos ∧
        AreCanonical [.fixed d.nanos places unit]) :
      total [.fixed d.nanos places unit] = d.nanos ∧
        AreCanonical [.fixed d.nanos places unit] := by
    rwa [total_cons, total_nil, add_zero]
  unfold terms
  split_ifs with hzero hmicro hmilli
  · exact ⟨by simp [hzero], .zero⟩
  · refine hsingle (areCanonical_fixed (by decide) rfl (Nat.pos_of_ne_zero hzero) h ?_)
    simp only [TimeUnit.forall_mem_small, TimeUnit.size]
    omega
  · refine hsingle (areCanonical_fixed (by decide) rfl (Nat.not_lt.mp hmicro) h ?_)
    simp only [TimeUnit.forall_mem_small, TimeUnit.size]
    omega
  · refine hsingle (areCanonical_fixed (by decide) rfl (Nat.not_lt.mp hmilli) h ?_)
    simp only [TimeUnit.forall_mem_small, TimeUnit.size]
    omega

/-- From a second on the terms are canonical and come to the nanoseconds. -/
lemma longTerms_of_le {nanos : Nat} (h : nanosPerSecond ≤ nanos) :
    total (longTerms nanos) = nanos ∧ AreCanonical (longTerms nanos) := by
  unfold longTerms
  dsimp only
  generalize hhours : nanos / nanosPerSecond / 3600 = hours
  generalize hminutes : nanos / nanosPerSecond % 3600 / 60 = minutes
  generalize hrest : nanos % (60 * nanosPerSecond) = rest
  simp only [nanosPerSecond] at hhours hminutes hrest h
  have hsum : nanos = hours * (3600 * 1000000000) + minutes * (60 * 1000000000) + rest := by
    omega
  constructor
  · rw [total_append, total_append, total_ite _ _ (by omega), total_ite _ _ (by omega), total_cons,
      total_nil, nanos_fixed, hsum]
    simp only [TimeUnit.size, nanosPerSecond, show tenTo 9 = 1000000000 from rfl]
    push_cast
    ring
  · have hvalue : (TimeTerm.fixed rest 9 .seconds).value = rest / (1000000000 : ℕ) := rfl
    refine .long hours minutes _ (by omega) rfl ?_ ?_
    · rw [hvalue, div_lt_iff₀ (by norm_num)]
      norm_cast
      omega
    · rw [hvalue, one_le_div (by norm_num)]
      norm_cast
      omega

/-- The terms of a duration are canonical and come to its nanoseconds. -/
lemma terms_spec (d : Duration) : total d.terms = d.nanos ∧ AreCanonical d.terms := by
  rcases Nat.lt_or_ge d.nanos nanosPerSecond with h | h
  · exact terms_of_lt h
  · have hterms : d.terms = longTerms d.nanos := by
      have hsecond : nanosPerSecond = 1000000000 := rfl
      unfold terms
      rw [if_neg (by omega), if_neg (by omega), if_neg (by omega), if_neg (by omega)]
    rw [hterms]
    exact longTerms_of_le h

/-- The text of a duration reads as its nanoseconds. -/
lemma readNanos_text (d : Duration) : readNanos d.text = some (d.nanos : ℚ) := by
  rw [readNanos, toList_text, readNanosChars_chars, d.terms_spec.1]

end Duration

end BackupMonitor
