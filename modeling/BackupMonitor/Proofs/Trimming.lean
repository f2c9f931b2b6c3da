import BackupMonitor.Text.Blank
import Mathlib.Data.List.DropRight

/-!
# What trimming keeps

A text is the blanks at its ends and what is left without them. `trim` keeps what lies between the
first and the last character that is not blank, however many blanks stand around it.
-/

namespace BackupMonitor.Text

variable {cs ds : List Char} {p : Char → Bool}

/-! ## Characters cut off the end -/

/-- What would be cut off makes no difference at the end. -/
lemma dropEndWhile_append (cs : List Char) (h : ∀ d ∈ ds, p d = true) :
    dropEndWhile p (cs ++ ds) = dropEndWhile p cs := by
  rw [dropEndWhile, List.reverse_append, List.dropWhile_append_of_pos (by simpa using h),
    dropEndWhile]

/-- A list is what is left of it, and what was cut off. -/
lemma exists_dropEndWhile_append (p : Char → Bool) (cs : List Char) :
    ∃ ds, (∀ d ∈ ds, p d = true) ∧ cs = dropEndWhile p cs ++ ds :=
  ⟨cs.rtakeWhile p, fun _ hd => List.mem_rtakeWhile_imp hd,
    List.rdropWhile_append_rtakeWhile.symm⟩

/-- What is left does not end in a character that would be cut off. -/
lemma of_mem_getLast?_dropEndWhile {c : Char} (h : c ∈ (dropEndWhile p cs).getLast?) :
    p c = false := by
  obtain ⟨hne, rfl⟩ := List.mem_getLast?_eq_getLast h
  exact Bool.eq_false_iff.mpr (List.rdropWhile_last_not p cs hne)

/-- Nothing is cut off where the last character stays. -/
lemma dropEndWhile_eq_self_iff :
    dropEndWhile p cs = cs ↔ ∀ c ∈ cs.getLast?, p c = false := by
  constructor
  · intro h c hc
    rw [← h] at hc
    exact of_mem_getLast?_dropEndWhile hc
  · intro h
    refine List.rdropWhile_eq_self_iff.mpr fun hne => ?_
    exact Bool.eq_false_iff.mp (h _ (List.getLast?_eq_some_getLast hne))

/-! ## Blanks cut off both ends -/

/-- A list of blanks and nothing else. -/
def AreBlanks (cs : List Char) : Prop :=
  ∀ c ∈ cs, isBlank c = true

instance (cs : List Char) : Decidable (AreBlanks cs) :=
  decidable_of_iff (cs.all isBlank = true) List.all_eq_true

/-- Blanks around a list make no difference. -/
lemma trimChars_append {left right : List Char} (hleft : AreBlanks left) (hright : AreBlanks right)
    (cs : List Char) : trimChars (left ++ (cs ++ right)) = trimChars cs := by
  have hblank : right.dropWhile isBlank = [] := List.dropWhile_eq_nil_iff.mpr hright
  rw [trimChars, List.dropWhile_append_of_pos hleft, List.dropWhile_append]
  split
  next hnil =>
    rw [hblank, trimChars, List.isEmpty_iff.mp hnil]
  next =>
    rw [dropEndWhile_append _ hright, trimChars]

/-- A list is what is left of it, between blanks. -/
lemma exists_append_trimChars (cs : List Char) :
    ∃ left right, AreBlanks left ∧ AreBlanks right ∧ cs = left ++ (trimChars cs ++ right) := by
  obtain ⟨right, hright, hrest⟩ := exists_dropEndWhile_append isBlank (cs.dropWhile isBlank)
  refine ⟨cs.takeWhile isBlank, right, fun c hc => List.mem_takeWhile_imp hc, hright, ?_⟩
  rw [trimChars, ← hrest, List.takeWhile_append_dropWhile]

/-- What is left neither begins nor ends with a blank. -/
lemma of_mem_ends_trimChars {c : Char}
    (h : c ∈ (trimChars cs).head? ∨ c ∈ (trimChars cs).getLast?) : isBlank c = false := by
  rcases h with h | h
  · -- what is left begins where the characters without the leading blanks do
    obtain ⟨right, -, hrest⟩ := exists_dropEndWhile_append isBlank (cs.dropWhile isBlank)
    obtain ⟨kept, hkept⟩ := List.head?_eq_some_iff.mp h
    have hhead := List.head?_dropWhile_not isBlank cs
    rw [hrest, ← trimChars, hkept] at hhead
    exact hhead
  · exact of_mem_getLast?_dropEndWhile h

/-- Only the end is left to trim where the beginning is not blank. -/
lemma trimChars_of_head (h : ∀ c ∈ cs.head?, isBlank c = false) :
    trimChars cs = dropEndWhile isBlank cs := by
  rw [trimChars]
  congr 1
  cases cs with
  | nil => rfl
  | cons c cs => exact List.dropWhile_cons_of_neg (by simp [h c rfl])

lemma trimChars_trimChars (cs : List Char) : trimChars (trimChars cs) = trimChars cs := by
  rw [trimChars_of_head fun c hc => of_mem_ends_trimChars (.inl hc)]
  exact dropEndWhile_eq_self_iff.mpr fun c hc => of_mem_ends_trimChars (.inr hc)

lemma trimChars_eq_nil_iff : trimChars cs = [] ↔ AreBlanks cs := by
  constructor
  · intro h
    obtain ⟨left, right, hleft, hright, hcs⟩ := exists_append_trimChars cs
    rw [h, List.nil_append] at hcs
    rw [hcs]
    exact fun c hc => (List.mem_append.mp hc).elim (hleft c) (hright c)
  · intro h
    rw [trimChars, List.dropWhile_eq_nil_iff.mpr h]
    rfl

/-! ## Texts -/

@[simp] lemma toList_trim (s : String) : (trim s).toList = trimChars s.toList :=
  String.toList_ofList

@[simp] lemma toList_dropEndSlashes (s : String) :
    (dropEndSlashes s).toList = dropEndWhile (· == '/') s.toList :=
  String.toList_ofList

@[simp] lemma trim_trim (s : String) : trim (trim s) = trim s := by
  rw [← String.toList_inj]
  simp [trimChars_trimChars]

/-- A text is nothing but blanks. -/
def IsBlankText (s : String) : Prop :=
  AreBlanks s.toList

instance (s : String) : Decidable (IsBlankText s) :=
  inferInstanceAs (Decidable (AreBlanks s.toList))

/-- Nothing is left exactly of a text of blanks. -/
lemma trim_eq_empty_iff {s : String} : trim s = "" ↔ IsBlankText s := by
  rw [← String.toList_inj, toList_trim]
  exact trimChars_eq_nil_iff

/-- A text with blanks put in front of it and after it. -/
def Pads (s padded : String) : Prop :=
  ∃ left right, IsBlankText left ∧ IsBlankText right ∧ padded = left ++ s ++ right

/-- Blanks around a text do not count. -/
lemma Pads.trim_eq {s padded : String} (h : Pads s padded) : trim padded = trim s := by
  obtain ⟨left, right, hleft, hright, rfl⟩ := h
  rw [← String.toList_inj]
  simp [trimChars_append hleft hright]

end BackupMonitor.Text
