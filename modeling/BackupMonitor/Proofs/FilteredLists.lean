import Mathlib.Data.List.Forall2
import Mathlib.Tactic.Lemma

/-!
# Places in a list that is filtered

What is kept of a list comes earlier than in the list: behind as much as is kept of what stands
before it (`getElem?_filter_of_getElem?`). A list may also be filtered from a place on
(`filterFrom`), and then what is kept comes behind as much as is left of what stands before it
(`filterFrom_of_getElem?`), whether it stands before that place or not.
-/

namespace BackupMonitor

variable {α : Type} {p : α → Bool} {xs : List α} {x : α} {index place : Nat}

/-! ## What is kept -/

/-- What is kept of a list stands behind all that is kept of what stood before it. -/
lemma getElem?_filter_of_getElem? (h : xs[index]? = some x) (hx : p x = true) :
    (xs.filter p)[(xs.take index).countP p]? = some x := by
  induction xs generalizing index with
  | nil => cases h
  | cons y ys ih =>
    cases index with
    | zero =>
      obtain rfl := Option.some.inj h
      simp [hx]
    | succ index =>
      have hrest := ih h
      by_cases hy : p y = true
      · simpa [hy] using hrest
      · simpa [hy] using hrest

/-- And whatever stands among what is kept stands in the list. -/
lemma exists_of_getElem?_filter (h : (xs.filter p)[place]? = some x) :
    ∃ index, xs[index]? = some x ∧ (xs.take index).countP p = place := by
  induction xs generalizing place with
  | nil => cases h
  | cons y ys ih =>
    by_cases hy : p y = true
    · rw [List.filter_cons_of_pos hy] at h
      cases place with
      | zero => exact ⟨0, h, rfl⟩
      | succ place =>
        obtain ⟨index, hindex, hplace⟩ := ih h
        exact ⟨index + 1, hindex, by simp [hy, hplace]⟩
    · rw [List.filter_cons_of_neg hy] at h
      obtain ⟨index, hindex, hplace⟩ := ih h
      exact ⟨index + 1, hindex, by simp [hy, hplace]⟩

/-- A change of something that is kept, which is kept then as well. -/
lemma filter_modify (h : xs[index]? = some x) (hx : p x = true) {f : α → α}
    (hf : p (f x) = true) :
    (xs.modify index f).filter p = (xs.filter p).modify ((xs.take index).countP p) f := by
  induction xs generalizing index with
  | nil => cases h
  | cons y ys ih =>
    cases index with
    | zero =>
      obtain rfl := Option.some.inj h
      simp [hx, hf]
    | succ index =>
      have hrest := ih h
      by_cases hy : p y = true
      · simp [hy, hrest]
      · simp [hy, hrest]

/-- A change of something that is left out, which is left out then as well. -/
lemma filter_modify_of_not (h : xs[index]? = some x) (hx : p x = false) {f : α → α}
    (hf : p (f x) = false) : (xs.modify index f).filter p = xs.filter p := by
  induction xs generalizing index with
  | nil => cases h
  | cons y ys ih =>
    cases index with
    | zero =>
      obtain rfl := Option.some.inj h
      simp [hx, hf]
    | succ index =>
      rw [List.modify_succ_cons, List.filter_cons, List.filter_cons, ih h]

/-! ## Two lists side by side -/

/-- A change on both sides at the same place. -/
lemma forall₂_modify {β : Type} {R : α → β → Prop} {ys : List β} {f : α → α} {g : β → β}
    (h : List.Forall₂ R xs ys)
    (hplace : ∀ x y, xs[place]? = some x → ys[place]? = some y → R x y → R (f x) (g y)) :
    List.Forall₂ R (xs.modify place f) (ys.modify place g) := by
  induction h generalizing place with
  | nil => simp
  | cons hxy hrest ih =>
    cases place with
    | zero => exact .cons (hplace _ _ rfl rfl hxy) hrest
    | succ place => exact .cons hxy (ih hplace)

lemma forall₂_getElem? {β : Type} {R : α → β → Prop} {ys : List β} (h : List.Forall₂ R xs ys)
    (hx : xs[place]? = some x) : ∃ y, ys[place]? = some y ∧ R x y := by
  induction h generalizing place with
  | nil => cases hx
  | cons hxy hrest ih =>
    cases place with
    | zero =>
      obtain rfl := Option.some.inj hx
      exact ⟨_, rfl, hxy⟩
    | succ place => exact ih hx

/-- Lists are related if they are of one length and are related place by place. -/
lemma forall₂_of_getElem? {β : Type} {R : α → β → Prop} {ys : List β}
    (hlength : xs.length = ys.length)
    (h : ∀ (place : Nat) (x : α) (y : β), xs[place]? = some x → ys[place]? = some y → R x y) :
    List.Forall₂ R xs ys :=
  List.forall₂_iff_get.mpr ⟨hlength, fun place hx hy =>
    h place _ _ (List.getElem?_eq_getElem hx) (List.getElem?_eq_getElem hy)⟩

/-! ## From a place on -/

/-- What is left of a list that is filtered from a place on. -/
def filterFrom (before : Nat) (p : α → Bool) (xs : List α) : List α :=
  xs.take before ++ (xs.drop before).filter p

variable {before : Nat}

lemma filterFrom_append (ys : List α) : filterFrom before p (xs ++ ys) =
    filterFrom before p xs ++ filterFrom (before - xs.length) p ys := by
  unfold filterFrom
  rw [List.take_append, List.drop_append, List.filter_append]
  rcases Nat.le_total before xs.length with hle | hle
  · simp [Nat.sub_eq_zero_of_le hle]
  · simp [List.drop_eq_nil_of_le hle]

/-- What is to be kept is left wherever it stands. -/
lemma filterFrom_cons_of_pos (hx : p x = true) :
    filterFrom before p (x :: xs) = x :: filterFrom (before - 1) p xs := by
  unfold filterFrom
  cases before with
  | zero => simp [hx]
  | succ before => simp

lemma filterFrom_concat_of_pos (hx : p x = true) :
    filterFrom before p (xs ++ [x]) = filterFrom before p xs ++ [x] := by
  rw [filterFrom_append, filterFrom_cons_of_pos hx]
  simp [filterFrom]

lemma filterFrom_concat_of_neg (hx : p x = false) (hbefore : before ≤ xs.length) :
    filterFrom before p (xs ++ [x]) = filterFrom before p xs := by
  rw [filterFrom_append, Nat.sub_eq_zero_of_le hbefore]
  simp [filterFrom, hx]

/-- Nothing is missing of what is to be kept. -/
lemma countP_filterFrom : (filterFrom before p xs).countP p = xs.countP p := by
  unfold filterFrom
  rw [List.countP_append, List.countP_filter]
  simp only [Bool.and_self]
  rw [← List.countP_append, List.take_append_drop]

/-- What is left of more is not less. -/
lemma length_filterFrom_le {ys : List α} (h : xs <+: ys) :
    (filterFrom before p xs).length ≤ (filterFrom before p ys).length := by
  obtain ⟨rest, rfl⟩ := h
  rw [filterFrom_append, List.length_append]
  exact Nat.le_add_right _ _

/-- What is kept stands behind all that is left of what stood before it. -/
lemma filterFrom_of_getElem? (h : xs[index]? = some x) (hx : p x = true) :
    ∃ rest, filterFrom before p xs = filterFrom before p (xs.take index) ++ x :: rest := by
  obtain ⟨hlt, rfl⟩ := List.getElem?_eq_some_iff.mp h
  have hsplit : xs.take index ++ xs[index] :: xs.drop (index + 1) = xs := by
    rw [← List.drop_eq_getElem_cons hlt, List.take_append_drop]
  have hleft : filterFrom before p (xs.take index ++ xs[index] :: xs.drop (index + 1)) = _ :=
    filterFrom_append _
  rw [hsplit, filterFrom_cons_of_pos hx] at hleft
  exact ⟨_, hleft⟩

end BackupMonitor
