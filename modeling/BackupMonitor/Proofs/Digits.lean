import BackupMonitor.Decimal.Nearest
import BackupMonitor.Decimal.Positional
import Mathlib.Data.List.Induction
import Mathlib.Data.List.TakeWhile
import Mathlib.Tactic.Ring

/-!
# Decimal digits and what they stand for

`Decimal.digits` writes a number and `Decimal.ofDigits` reads it. The digits of a number begin with
a zero only if they are that zero; zeros put in front do not change what digits stand for, and
zeros put at the end multiply it by a power of ten.
-/

namespace BackupMonitor.Decimal

/-- A list of digits and nothing else. -/
def AreDigits (ds : List Char) : Prop :=
  ∀ d ∈ ds, d.isDigit = true

/-- The value of digits is that of the core library. -/
lemma ofDigits_eq_ofDigitChars (ds : List Char) : ofDigits ds = Nat.ofDigitChars 10 ds 0 := by
  unfold ofDigits Nat.ofDigitChars
  congr 1
  funext n d
  rw [Nat.mul_comm]
  rfl

/-- A digit is written for a number below ten. -/
lemma exists_digitChar {d : Char} (h : d.isDigit = true) : ∃ k < 10, Nat.digitChar k = d := by
  have hrange : 48 ≤ d.toNat ∧ d.toNat ≤ 57 := by
    simp only [Char.isDigit, Bool.and_eq_true, decide_eq_true_eq] at h
    exact ⟨UInt32.le_iff_toNat_le.mp h.1, UInt32.le_iff_toNat_le.mp h.2⟩
  have hlt : d.toNat - 48 < 10 := by omega
  refine ⟨d.toNat - 48, hlt, Char.toNat_inj.mp ?_⟩
  rw [Nat.toNat_digitChar_of_lt_ten hlt]
  omega

/-! ## Digits of numbers -/

@[simp] lemma ofDigits_digits (n : Nat) : ofDigits (digits n) = n := by
  rw [ofDigits_eq_ofDigitChars]
  exact Nat.ofDigitChars_ten_toDigits

lemma digits_ne_nil (n : Nat) : digits n ≠ [] :=
  Nat.toDigits_ne_nil

/-- A number is written in digits. -/
lemma areDigits_digits (n : Nat) : AreDigits (digits n) :=
  fun _ hd => Nat.isDigit_of_mem_toDigits (by decide) (by decide) hd

/-- The digits of a number that is not zero do not begin with a zero. -/
lemma head?_digits_ne_zero {n : Nat} (h : 0 < n) : (digits n).head? ≠ some '0' := by
  induction n using Nat.strong_induction_on with
  | _ n ih =>
    rcases Nat.lt_or_ge n 10 with hn | hn
    · simp only [digits, Nat.toDigits_of_lt_base hn, List.head?_cons, ne_eq, Option.some.injEq,
        Nat.digitChar_eq_zero]
      exact Nat.pos_iff_ne_zero.mp h
    · have hne : (Nat.toDigits 10 (n / 10)).head? ≠ none := by
        simp
      rw [digits, Nat.toDigits_of_base_le (by decide) hn, List.head?_append,
        Option.or_of_isSome (Option.isSome_iff_ne_none.mpr hne)]
      exact ih (n / 10) (Nat.div_lt_self h (by decide)) (Nat.div_pos hn (by decide))

/-- A number below a power of ten has at most that many digits. -/
lemma length_digits_le {n places : Nat} (hplaces : 0 < places) (h : n < tenTo places) :
    (digits n).length ≤ places :=
  (Nat.length_toDigits_le_iff (by decide) hplaces).mpr h

/-- A run of digits ends where what follows does not begin with a digit. -/
lemma takeWhile_isDigit_append {ds rest : List Char} (hds : AreDigits ds)
    (hrest : ∀ c ∈ rest.head?, c.isDigit = false) :
    (ds ++ rest).takeWhile Char.isDigit = ds ∧ (ds ++ rest).dropWhile Char.isDigit = rest := by
  rw [List.takeWhile_append_of_pos hds, List.dropWhile_append_of_pos hds]
  cases rest with
  | nil => simp
  | cons c rest => simp [hrest c rfl]

/-! ## Zeros in front and at the end -/

/-- The digits of `n` with zeros in front, so that there are at least `width`. -/
def paddedChars (width n : Nat) : List Char :=
  padZeros width (digits n)

@[simp] lemma ofDigits_nil : ofDigits [] = 0 := rfl

lemma ofDigits_concat (ds : List Char) (d : Char) :
    ofDigits (ds ++ [d]) = ofDigits ds * 10 + (d.toNat - 48) := by
  simp [ofDigits]

/-- Digits that come first count by a power of ten. -/
lemma ofDigits_append (ds es : List Char) :
    ofDigits (ds ++ es) = ofDigits ds * tenTo es.length + ofDigits es := by
  induction es using List.reverseRecOn with
  | nil => simp [tenTo]
  | append_singleton es e ih =>
    rw [← List.append_assoc, ofDigits_concat, ofDigits_concat, ih, List.length_append,
      List.length_singleton, tenTo_succ]
    ring

lemma digitValue_lt {d : Char} (h : d.isDigit = true) : d.toNat - 48 < 10 := by
  obtain ⟨k, hk, rfl⟩ := exists_digitChar h
  rw [Nat.toNat_digitChar_of_lt_ten hk]
  omega

/-- Digits stand for less than the power of ten with their number as exponent. -/
lemma ofDigits_lt {ds : List Char} (h : AreDigits ds) : ofDigits ds < tenTo ds.length := by
  induction ds using List.reverseRecOn with
  | nil => decide
  | append_singleton ds d ih =>
    have hds := ih fun e he => h e (List.mem_append_left _ he)
    have hd := digitValue_lt (h d (by simp))
    rw [ofDigits_concat, List.length_append, List.length_singleton, tenTo_succ]
    omega

/-- Leaving out the last digits divides by a power of ten. -/
lemma ofDigits_take {ds : List Char} (h : AreDigits ds) (count : Nat) :
    ofDigits (ds.take count) = ofDigits ds / tenTo (ds.length - count) := by
  have hlast : ofDigits (ds.drop count) < tenTo (ds.drop count).length :=
    ofDigits_lt fun d hd => h d (List.mem_of_mem_drop hd)
  have hvalue : ofDigits ds =
      tenTo (ds.drop count).length * ofDigits (ds.take count) + ofDigits (ds.drop count) := by
    rw [Nat.mul_comm, ← ofDigits_append, List.take_append_drop]
  rw [hvalue, ← List.length_drop, Nat.mul_add_div (tenTo_pos _), Nat.div_eq_of_lt hlast,
    Nat.add_zero]

/-- Equally many digits that stand for the same number are the same digits. -/
lemma eq_of_ofDigits_eq {ds es : List Char} (hds : AreDigits ds) (hes : AreDigits es)
    (hlength : ds.length = es.length) (h : ofDigits ds = ofDigits es) : ds = es := by
  induction ds using List.reverseRecOn generalizing es with
  | nil => exact (List.length_eq_zero_iff.mp hlength.symm).symm
  | append_singleton ds d ih =>
    rcases List.eq_nil_or_concat es with rfl | ⟨es, e, rfl⟩
    · simp at hlength
    · rw [List.concat_eq_append] at hes hlength h ⊢
      rw [ofDigits_concat, ofDigits_concat] at h
      obtain ⟨k, hk, rfl⟩ := exists_digitChar (hds d (by simp))
      obtain ⟨l, hl, rfl⟩ := exists_digitChar (hes e (by simp))
      rw [Nat.toNat_digitChar_of_lt_ten hk, Nat.toNat_digitChar_of_lt_ten hl] at h
      -- the last digits agree modulo ten, and what stands before them is the same number
      obtain rfl : k = l := by omega
      have hinit : ds = es := ih (fun c hc => hds c (List.mem_append_left _ hc))
        (fun c hc => hes c (List.mem_append_left _ hc)) (by simpa using hlength) (by omega)
      rw [hinit]

@[simp] lemma ofDigits_replicate_zero (count : Nat) :
    ofDigits (List.replicate count '0') = 0 := by
  rw [ofDigits_eq_ofDigitChars, Nat.ofDigitChars_replicate_zero, Nat.mul_zero]

/-- Zeros in front do not change the value. -/
@[simp] lemma ofDigits_padZeros (width : Nat) (ds : List Char) :
    ofDigits (padZeros width ds) = ofDigits ds := by
  rw [padZeros, ofDigits_append, ofDigits_replicate_zero, Nat.zero_mul, Nat.zero_add]

/-- Zeros are put in front up to the width. -/
lemma length_padZeros {width : Nat} {ds : List Char} (h : ds.length ≤ width) :
    (padZeros width ds).length = width := by
  rw [padZeros, List.length_append, List.length_replicate]
  omega

lemma AreDigits.append {ds es : List Char} (hds : AreDigits ds) (hes : AreDigits es) :
    AreDigits (ds ++ es) :=
  fun d hd => (List.mem_append.mp hd).elim (hds d) (hes d)

lemma areDigits_replicate_zero (count : Nat) : AreDigits (List.replicate count '0') := by
  intro d hd
  rw [List.eq_of_mem_replicate hd]
  rfl

lemma areDigits_padZeros {ds : List Char} (width : Nat) (h : AreDigits ds) :
    AreDigits (padZeros width ds) :=
  (areDigits_replicate_zero _).append h

/-- Digits are the number that they stand for, with as many zeros in front as it takes. -/
lemma padZeros_digits_ofDigits {ds : List Char} (hne : ds ≠ []) (h : AreDigits ds) :
    padZeros ds.length (digits (ofDigits ds)) = ds := by
  have hlength := length_digits_le (List.length_pos_iff.mpr hne) (ofDigits_lt h)
  refine eq_of_ofDigits_eq (areDigits_padZeros _ (areDigits_digits _)) h
    (length_padZeros hlength) ?_
  rw [ofDigits_padZeros, ofDigits_digits]

/-- A list of digits is what is left of it without the zeros at its end, and those zeros. -/
lemma eq_dropEndZeros_append (ds : List Char) :
    ∃ count, ds = dropEndZeros ds ++ List.replicate count '0' := by
  refine ⟨(ds.reverse.takeWhile (· == '0')).length, ?_⟩
  have hzeros : ds.reverse.takeWhile (· == '0') =
      List.replicate (ds.reverse.takeWhile (· == '0')).length '0' :=
    List.eq_replicate_iff.mpr ⟨rfl, fun d hd => by simpa using List.mem_takeWhile_imp hd⟩
  rw [dropEndZeros, ← List.reverse_replicate, ← hzeros, ← List.reverse_append,
    List.takeWhile_append_dropWhile, List.reverse_reverse]

/-- What is left does not end in a zero. -/
lemma getLast?_dropEndZeros_ne (ds : List Char) : (dropEndZeros ds).getLast? ≠ some '0' := by
  intro h
  rw [dropEndZeros, List.getLast?_reverse] at h
  have hhead := List.head?_dropWhile_not (· == '0') ds.reverse
  rw [h] at hhead
  cases hhead

lemma areDigits_dropEndZeros {ds : List Char} (h : AreDigits ds) : AreDigits (dropEndZeros ds) := by
  obtain ⟨count, hds⟩ := eq_dropEndZeros_append ds
  exact fun d hd => h d (hds ▸ List.mem_append_left _ hd)

/-! ## Positional notation -/

/-- A point stands before the places that are left, if any are. -/
lemma fractionChars_eq (ds : List Char) :
    fractionChars ds = if dropEndZeros ds = [] then [] else '.' :: dropEndZeros ds := by
  unfold fractionChars
  cases dropEndZeros ds <;> simp

/-- Without places, positional notation is the digits. -/
lemma fixedChars_zero (n : Nat) : fixedChars n 0 = digits n := by
  rw [fixedChars, fractionChars_eq, show tenTo 0 = 1 from rfl, Nat.div_one, Nat.mod_one]
  simp [show dropEndZeros (padZeros 0 (digits 0)) = [] from rfl]

/-- Positional notation has digits and at most a point. -/
lemma isDigit_of_mem_fixedChars {value places : Nat} {c : Char} (h : c ∈ fixedChars value places) :
    c.isDigit = true ∨ c = '.' := by
  rcases List.mem_append.mp h with h | h
  · exact .inl (areDigits_digits _ c h)
  · rw [fractionChars_eq] at h
    split at h
    · cases h
    · rcases List.mem_cons.mp h with rfl | h
      · exact .inr rfl
      · exact .inl (areDigits_dropEndZeros (areDigits_padZeros _ (areDigits_digits _)) c h)

end BackupMonitor.Decimal
