import BackupMonitor.Registry.Token
import Mathlib.Tactic.Lemma

/-!
# Cancellation in the forest of tokens

Tokens are only ever added and cancelled. So the lineage of a token stays what it was when the token
was made, and a token that is cancelled stays cancelled.
-/

namespace BackupMonitor

namespace Tokens

variable {ts : Tokens} {t : Token}

/-! ## Tokens that were made -/

/-- A token with a lineage was made. -/
lemma lt_next_of_mem_lineage {other : Token} (h : other ∈ ts.lineage t) : t < ts.next := by
  refine Decidable.byContradiction fun hge => ?_
  have hnone : ts.lineage t = [] := by
    unfold lineage
    rw [List.getD_eq_getElem?_getD, List.getElem?_eq_none (Nat.le_of_not_lt hge)]
    rfl
  rw [hnone] at h
  exact List.not_mem_nil h

@[simp] lemma next_addChild (ts : Tokens) (parent : Token) :
    (ts.addChild parent).next = ts.next + 1 := by
  simp [addChild, next]

/-- A new token changes no lineage. -/
lemma lineage_addChild_of_lt (parent : Token) (h : t < ts.next) :
    (ts.addChild parent).lineage t = ts.lineage t := by
  simp only [lineage, addChild, List.getD_eq_getElem?_getD]
  rw [List.getElem?_append_left h]

/-- A new root changes no lineage. -/
lemma lineage_addRoot_of_lt (h : t < ts.next) : ts.addRoot.lineage t = ts.lineage t := by
  simp only [lineage, addRoot, List.getD_eq_getElem?_getD]
  rw [List.getElem?_append_left h]

/-- A new root has no ancestor but itself. -/
lemma lineage_addRoot_next (ts : Tokens) : ts.addRoot.lineage ts.next = [ts.next] := by
  simp [lineage, addRoot, next]

/-- The lineage of a new token. -/
lemma lineage_addChild_next (ts : Tokens) (parent : Token) :
    (ts.addChild parent).lineage ts.next = ts.next :: ts.lineage parent := by
  simp [lineage, addChild, next]

@[simp] lemma fired_addChild (ts : Tokens) (parent : Token) :
    (ts.addChild parent).fired = ts.fired := rfl

@[simp] lemma lineage_cancelAll (ts : Tokens) (tokens : List Token) (t : Token) :
    (ts.cancelAll tokens).lineage t = ts.lineage t := by
  unfold cancelAll
  induction tokens generalizing ts with
  | nil => rfl
  | cons other rest ih => exact ih (ts.cancel other)

@[simp] lemma next_cancelAll (ts : Tokens) (tokens : List Token) :
    (ts.cancelAll tokens).next = ts.next := by
  unfold cancelAll
  induction tokens generalizing ts with
  | nil => rfl
  | cons other rest ih => exact ih (ts.cancel other)

/-! ## What is cancelled stays cancelled -/

/-- A token is cancelled if one of its lineage was cancelled directly. -/
lemma isCancelled_iff :
    ts.isCancelled t = true ↔ ∃ ancestor ∈ ts.lineage t, ancestor ∈ ts.fired := by
  simp [isCancelled]

/-- A token that was made is cancelled if it was cancelled directly. -/
lemma isCancelled_of_mem_fired (hown : t ∈ ts.lineage t) (hfired : t ∈ ts.fired) :
    ts.isCancelled t = true :=
  isCancelled_iff.mpr ⟨t, hown, hfired⟩

lemma mem_fired_cancel {other : Token} : t ∈ (ts.cancel other).fired ↔ t = other ∨ t ∈ ts.fired :=
  List.mem_cons

/-- The tokens of a list are cancelled, on top of those that were. -/
lemma mem_fired_cancelAll {tokens : List Token} :
    t ∈ (ts.cancelAll tokens).fired ↔ t ∈ tokens ∨ t ∈ ts.fired := by
  unfold cancelAll
  induction tokens generalizing ts with
  | nil => simp
  | cons other rest ih =>
    rw [List.foldl_cons, ih, mem_fired_cancel, List.mem_cons, or_left_comm, or_assoc]

/-- Cancelling another token leaves a token cancelled. -/
lemma isCancelled_cancel (h : ts.isCancelled t = true) (other : Token) :
    (ts.cancel other).isCancelled t = true := by
  unfold isCancelled at h ⊢
  rw [List.any_eq_true] at h ⊢
  obtain ⟨ancestor, hmem, hfired⟩ := h
  refine ⟨ancestor, hmem, ?_⟩
  rw [List.contains_iff_mem] at hfired ⊢
  exact List.mem_cons_of_mem other hfired

/-- Cancelling other tokens leaves a token cancelled. -/
lemma isCancelled_cancelAll (h : ts.isCancelled t = true) (tokens : List Token) :
    (ts.cancelAll tokens).isCancelled t = true := by
  unfold cancelAll
  induction tokens generalizing ts with
  | nil => exact h
  | cons other rest ih => exact ih (isCancelled_cancel h other)

/-- A new token leaves a token cancelled. -/
lemma isCancelled_addChild (h : ts.isCancelled t = true) (parent : Token) :
    (ts.addChild parent).isCancelled t = true := by
  have hmade : t < ts.next := by
    unfold isCancelled at h
    rw [List.any_eq_true] at h
    obtain ⟨ancestor, hmem, -⟩ := h
    exact lt_next_of_mem_lineage hmem
  unfold isCancelled at h ⊢
  rw [lineage_addChild_of_lt parent hmade]
  exact h

end Tokens

end BackupMonitor
