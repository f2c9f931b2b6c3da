import BackupMonitor.Proofs.Digits
import Mathlib.Algebra.Order.Field.Rat

/-!
# Decimal numbers without needless zeros

`Decimal.IsNumeral` says how a decimal number is to be written: no zero before another digit of the
whole part, and no fraction that is empty or ends in a zero. Positional notation writes it so, and
`Decimal.readNumeral` reads it.
-/

namespace BackupMonitor.Decimal

/-- At least one digit, and no zero before another one. -/
structure IsWhole (ds : List Char) : Prop where
  digits : AreDigits ds
  ne_nil : ds ≠ []
  no_zero_in_front : ds.head? = some '0' → ds = ['0']

/-- A decimal number without needless zeros, and what it stands for. -/
inductive IsNumeral : List Char → ℚ → Prop
  | whole {ds : List Char} (hds : IsWhole ds) : IsNumeral ds (ofDigits ds)
  | fraction {ds fs : List Char} (hds : IsWhole ds) (hfs : AreDigits fs) (hne : fs ≠ [])
      (hlast : fs.getLast? ≠ some '0') :
      IsNumeral (ds ++ '.' :: fs) (ofDigits ds + ofDigits fs / tenTo fs.length)

/-- Reads a decimal number: digits, and maybe a point and more digits. -/
def readNumeral (cs : List Char) : Option ℚ :=
  let ds := cs.takeWhile Char.isDigit
  if ds = [] then none
  else
    match cs.dropWhile Char.isDigit with
    | [] => some (ofDigits ds)
    | c :: fs =>
      if c = '.' ∧ fs ≠ [] ∧ fs.all Char.isDigit then
        some (ofDigits ds + ofDigits fs / tenTo fs.length)
      else none

/-! ## Reading -/

variable {fs : List Char} {value : ℚ}

/-- A decimal number reads as what it stands for. -/
lemma readNumeral_of_isNumeral (h : IsNumeral fs value) : readNumeral fs = some value := by
  cases h with
  | whole hds =>
    obtain ⟨htake, hdrop⟩ : (fs ++ []).takeWhile Char.isDigit = fs ∧
        (fs ++ []).dropWhile Char.isDigit = [] := takeWhile_isDigit_append hds.digits (by simp)
    rw [List.append_nil] at htake hdrop
    simp [readNumeral, htake, hdrop, hds.ne_nil]
  | @fraction ds fs hds hfs hne =>
    obtain ⟨htake, hdrop⟩ : (ds ++ '.' :: fs).takeWhile Char.isDigit = ds ∧
        (ds ++ '.' :: fs).dropWhile Char.isDigit = '.' :: fs :=
      takeWhile_isDigit_append hds.digits (by simp)
    rw [readNumeral, htake, hdrop, if_neg hds.ne_nil]
    exact if_pos ⟨rfl, hne, List.all_eq_true.mpr hfs⟩

/-! ## Positional notation -/

lemma isWhole_digits (n : Nat) : IsWhole (digits n) := by
  refine ⟨areDigits_digits n, digits_ne_nil n, fun hhead => ?_⟩
  rcases Nat.eq_zero_or_pos n with rfl | hn
  · rfl
  · exact absurd hhead (head?_digits_ne_zero hn)

lemma isNumeral_digits (n : Nat) : IsNumeral (digits n) n := by
  simpa using IsNumeral.whole (isWhole_digits n)

lemma tenTo_add (m n : Nat) : tenTo (m + n) = tenTo m * tenTo n :=
  Nat.pow_add 10 m n

/-- The digits of a fraction stand for the same part of one without the zeros at their end. -/
lemma ofDigits_dropEndZeros_div {rest places : Nat} (h : rest < tenTo places) :
    (ofDigits (dropEndZeros (padZeros places (digits rest))) : ℚ) /
      tenTo (dropEndZeros (padZeros places (digits rest))).length = rest / tenTo places := by
  rcases Nat.eq_zero_or_pos places with rfl | hplaces
  · obtain rfl := Nat.lt_one_iff.mp h
    norm_num [show dropEndZeros (padZeros 0 (digits 0)) = [] from rfl]
  · obtain ⟨count, hpadded⟩ := eq_dropEndZeros_append (padZeros places (digits rest))
    have hvalue := ofDigits_padZeros places (digits rest)
    have hlength := length_padZeros (length_digits_le hplaces h)
    rw [hpadded, ofDigits_append, ofDigits_replicate_zero, ofDigits_digits, List.length_replicate,
      Nat.add_zero] at hvalue
    rw [hpadded, List.length_append, List.length_replicate] at hlength
    generalize dropEndZeros (padZeros places (digits rest)) = kept at hvalue hlength ⊢
    have hzeros : (tenTo count : ℚ) ≠ 0 := by exact_mod_cast (tenTo_pos count).ne'
    rw [← hvalue, ← hlength, tenTo_add]
    push_cast
    exact (mul_div_mul_right _ _ hzeros).symm

/-- Positional notation is without needless zeros. -/
lemma isNumeral_fixedChars (value places : Nat) :
    IsNumeral (fixedChars value places) (value / tenTo places) := by
  have hpos : (tenTo places : ℚ) ≠ 0 := by exact_mod_cast (tenTo_pos places).ne'
  have hsplit : (value : ℚ) / tenTo places =
      (value / tenTo places : ℕ) + (value % tenTo places : ℕ) / tenTo places := by
    rw [eq_comm, ← mul_div_cancel_left₀ ((value / tenTo places : ℕ) : ℚ) hpos, ← add_div]
    congr 1
    exact_mod_cast Nat.div_add_mod value (tenTo places)
  rw [hsplit, fixedChars, fractionChars_eq,
    ← ofDigits_dropEndZeros_div (Nat.mod_lt value (tenTo_pos places))]
  split
  next hnil =>
    rw [hnil, ofDigits_nil, Nat.cast_zero, zero_div, add_zero, List.append_nil]
    exact isNumeral_digits _
  next hne =>
    have hfraction := IsNumeral.fraction (isWhole_digits (value / tenTo places))
      (areDigits_dropEndZeros (areDigits_padZeros places (areDigits_digits _))) hne
      (getLast?_dropEndZeros_ne _)
    rwa [ofDigits_digits] at hfraction

end BackupMonitor.Decimal
