import BackupMonitor.Proofs.RosterInvariant

/-!
# Every tracker under its token

A watcher gives every tracker that it starts a token of its own, a child of the root. As long as
the tracker is wanted, the registry holds that token under the schedule of the tracker; when the
tracker is stopped the token is taken out and cancelled. `Roster.IsAccounted` is this book-keeping,
for trackers that are still running and for those that are not. It makes the tokens that are not
cancelled the ones that are registered (`IsAccounted.isCancelled_eq_false_iff`).
-/

namespace BackupMonitor

namespace Roster

/-- Whatever a tracker was started with, there is the tracker. -/
lemma getElem?_origins_eq_some_iff {r : Roster} {index : Nat} {name : String} {token : Token} :
    r.origins[index]? = some (name, token) ↔
      ∃ t, r.trackers[index]? = some t ∧ t.schedule = name ∧ t.token = token := by
  unfold origins
  rw [List.getElem?_map, Option.map_eq_some_iff]
  simp only [Tracker.origin, Prod.mk.injEq]

section start

variable {r : Roster} {schedule : String}

/-- A schedule that is registered is not started again. -/
lemma start_of_some {token : Token} (h : r.registry.get? schedule = some token) :
    (r.start schedule).1 = r := by
  rw [start_eq, if_pos (by simp [h])]

variable (hnone : r.registry.get? schedule = none)

include hnone

/-- A tracker that is started gets a new child of the root. -/
lemma tokens_start : (r.start schedule).1.tokens = r.tokens.addChild Tokens.root := by
  rw [start_eq, if_neg (by simp [hnone])]

/-- It is registered under that token. -/
lemma registry_start :
    (r.start schedule).1.registry = r.registry.insert schedule r.tokens.next := by
  rw [start_eq, if_neg (by simp [hnone])]

/-- A tracker that is started comes last. -/
lemma origins_start :
    (r.start schedule).1.origins = r.origins ++ [(schedule, r.tokens.next)] := by
  rw [start_eq, if_neg (by simp [hnone])]
  exact List.map_append

end start

/-- The book-keeping about trackers, tokens and the registry. -/
structure IsAccounted (r : Roster) : Prop where
  /-- The root has no other ancestor. -/
  root : r.tokens.lineage Tokens.root = [Tokens.root]
  /-- The token of a tracker is a child of the root. -/
  child : ∀ o ∈ r.origins, r.tokens.lineage o.2 = [o.2, Tokens.root]
  /-- A tracker that was started later has a later token. -/
  ascending : r.origins.Pairwise (·.2 < ·.2)
  /-- Only tokens that were made were cancelled. -/
  made : ∀ token ∈ r.tokens.fired, token < r.tokens.next
  /-- What is registered is what a tracker was started with. -/
  started : ∀ name token, r.registry.get? name = some token → (name, token) ∈ r.origins
  /-- The token of a tracker is registered exactly until it is cancelled itself. -/
  wanted : ∀ o ∈ r.origins, r.registry.get? o.1 = some o.2 ↔ o.2 ∉ r.tokens.fired

namespace IsAccounted

variable {r : Roster} {o o' : String × Token} {name : String} {token : Token}

/-- Every tracker has a token that was made. -/
lemma lt_next (h : r.IsAccounted) (ho : o ∈ r.origins) : o.2 < r.tokens.next :=
  Tokens.lt_next_of_mem_lineage (by rw [h.child o ho]; exact List.mem_cons_self)

lemma root_lt_next (h : r.IsAccounted) : Tokens.root < r.tokens.next :=
  Tokens.lt_next_of_mem_lineage (by rw [h.root]; exact List.mem_cons_self)

/-- No tracker of an accounted roster runs under the root. -/
lemma ne_root (h : r.IsAccounted) (ho : o ∈ r.origins) : o.2 ≠ Tokens.root := by
  intro hroot
  have hchild := h.child o ho
  rw [hroot, h.root] at hchild
  cases hchild

/-- No two trackers were started with the same token. -/
lemma index_eq_of_token_eq (h : r.IsAccounted) {index other : Nat}
    (ho : r.origins[index]? = some o) (ho' : r.origins[other]? = some o') (htoken : o.2 = o'.2) :
    index = other := by
  have hascending := List.pairwise_iff_getElem.mp h.ascending
  obtain ⟨hindex, rfl⟩ := List.getElem?_eq_some_iff.mp ho
  obtain ⟨hother, rfl⟩ := List.getElem?_eq_some_iff.mp ho'
  rcases Nat.lt_trichotomy index other with hlt | heq | hgt
  · exact absurd htoken (Nat.ne_of_lt (hascending index other hindex hother hlt))
  · exact heq
  · exact absurd htoken (Nat.ne_of_gt (hascending other index hother hindex hgt))

/-- Trackers with one token are one tracker. -/
lemma eq_of_token_eq (h : r.IsAccounted) (ho : o ∈ r.origins) (ho' : o' ∈ r.origins)
    (htoken : o.2 = o'.2) : o = o' := by
  obtain ⟨index, hindex⟩ := List.mem_iff_getElem?.mp ho
  obtain ⟨other, hother⟩ := List.mem_iff_getElem?.mp ho'
  obtain rfl := h.index_eq_of_token_eq hindex hother htoken
  exact Option.some.inj (hindex.symm.trans hother)

/-- The token of a tracker is live exactly if it is registered and the root is live. -/
theorem isCancelled_eq_false_iff (h : r.IsAccounted) (ho : o ∈ r.origins) :
    r.tokens.isCancelled o.2 = false ↔
      r.registry.get? o.1 = some o.2 ∧ r.tokens.isCancelled Tokens.root = false := by
  rw [h.wanted o ho]
  simp [Tokens.isCancelled, h.child o ho, h.root]

/-- A registered token is cancelled only along with the root. -/
lemma isCancelled_eq_root (h : r.IsAccounted) (hget : r.registry.get? name = some token) :
    r.tokens.isCancelled token = r.tokens.isCancelled Tokens.root := by
  have hlive := h.isCancelled_eq_false_iff (h.started name token hget)
  simp only [hget, true_and] at hlive
  rw [Bool.eq_iff_iff, ← Bool.not_eq_false, ← Bool.not_eq_false, hlive]

/-! ## It is kept -/

lemma start (h : r.IsAccounted) (schedule : String) : (r.start schedule).1.IsAccounted := by
  cases hget : r.registry.get? schedule with
  | some token => rwa [start_of_some hget]
  | none =>
    have htokens := tokens_start hget
    have hregistry := registry_start hget
    have horigins := origins_start hget
    constructor
    · rw [htokens, Tokens.lineage_addChild_of_lt _ h.root_lt_next, h.root]
    · intro o ho
      rw [horigins] at ho
      rw [htokens]
      rcases List.mem_append.mp ho with ho | ho
      · rw [Tokens.lineage_addChild_of_lt _ (h.lt_next ho), h.child o ho]
      · rw [List.mem_singleton.mp ho, Tokens.lineage_addChild_next, h.root]
    · rw [horigins]
      refine List.pairwise_append.mpr ⟨h.ascending, List.pairwise_singleton _ _, ?_⟩
      intro o ho fresh hfresh
      rw [List.mem_singleton.mp hfresh]
      exact h.lt_next ho
    · intro token htoken
      rw [htokens] at htoken ⊢
      rw [Tokens.next_addChild]
      exact Nat.lt_succ_of_lt (h.made token htoken)
    · intro name token hname
      rw [horigins]
      rw [hregistry, Table.get?_insert] at hname
      split at hname
      next heq =>
        rw [heq, ← Option.some.inj hname]
        exact List.mem_append_right _ List.mem_cons_self
      next => exact List.mem_append_left _ (h.started name token hname)
    · intro o ho
      rw [horigins] at ho
      rw [hregistry, htokens, Table.get?_insert, Tokens.fired_addChild]
      rcases List.mem_append.mp ho with ho | ho
      · split
        next heq =>
          -- the name was free, so this is an earlier tracker that was stopped
          have hne : r.tokens.next ≠ o.2 := Nat.ne_of_gt (h.lt_next ho)
          have hstopped := h.wanted o ho
          rw [heq, hget] at hstopped
          rw [← hstopped]
          simp [hne]
        next => exact h.wanted o ho
      · rw [List.mem_singleton.mp ho, if_pos rfl]
        exact ⟨fun _ hfired => absurd (h.made _ hfired) (Nat.lt_irrefl _), fun _ => rfl⟩

lemma stop (h : r.IsAccounted) (schedule reason : String) :
    (r.stop schedule reason).1.IsAccounted := by
  rw [stop_eq]
  cases hget : r.registry.get? schedule with
  | none => exact h
  | some stopped =>
    have hstopped := h.started schedule stopped hget
    refine ⟨h.root, h.child, h.ascending, ?_, ?_, ?_⟩
    · intro token htoken
      rcases Tokens.mem_fired_cancel.mp htoken with rfl | htoken
      · exact h.lt_next hstopped
      · exact h.made token htoken
    · intro name token hname
      rw [Table.get?_erase] at hname
      split at hname
      next => cases hname
      next => exact h.started name token hname
    · intro o ho
      rw [Table.get?_erase, Tokens.mem_fired_cancel, not_or, ← h.wanted o ho]
      split
      next heq =>
        rw [heq, hget]
        simp [eq_comm]
      next hne =>
        -- the tracker of another schedule has another token
        refine ⟨fun hwanted => ⟨fun htoken => hne ?_, hwanted⟩, fun h => h.2⟩
        exact congrArg Prod.fst (h.eq_of_token_eq ho hstopped htoken)

lemma stopAll (h : r.IsAccounted) : r.stopAll.1.IsAccounted := by
  have hentry {name : String} {token : Token} (hget : r.registry.get? name = some token) :
      token ∈ r.registry.entries.map (·.2) :=
    List.mem_map_of_mem (Table.get?_eq_some_iff.mp hget)
  refine ⟨?_, ?_, h.ascending, ?_, ?_, ?_⟩
  · exact (Tokens.lineage_cancelAll _ _ _).trans h.root
  · exact fun o ho => (Tokens.lineage_cancelAll _ _ _).trans (h.child o ho)
  · intro token htoken
    show token < (r.tokens.cancelAll _).next
    rw [Tokens.next_cancelAll]
    rcases Tokens.mem_fired_cancelAll.mp htoken with htoken | htoken
    · obtain ⟨⟨name, _⟩, hmem, rfl⟩ := List.mem_map.mp htoken
      exact h.lt_next (h.started name _ (Table.get?_eq_some_iff.mpr hmem))
    · exact h.made token htoken
  · intro name token hname
    cases hname
  · intro o ho
    have hempty : r.stopAll.1.registry.get? o.1 = none := rfl
    rw [hempty]
    refine ⟨fun hnone => absurd hnone (by simp), fun hlive => absurd ?_ hlive⟩
    refine Tokens.mem_fired_cancelAll.mpr ?_
    by_cases hfired : o.2 ∈ r.tokens.fired
    · exact .inr hfired
    · exact .inl (hentry ((h.wanted o ho).mpr hfired))

lemma cancel (h : r.IsAccounted) :
    IsAccounted { r with tokens := r.tokens.cancel Tokens.root } := by
  refine ⟨h.root, h.child, h.ascending, ?_, h.started, ?_⟩
  · intro token htoken
    rcases Tokens.mem_fired_cancel.mp htoken with rfl | htoken
    · exact h.root_lt_next
    · exact h.made token htoken
  · intro o ho
    have hroot := h.ne_root ho
    rw [Tokens.mem_fired_cancel, not_or, ← h.wanted o ho]
    exact ⟨fun hwanted => ⟨hroot, hwanted⟩, fun h => h.2⟩

end IsAccounted

/-- The book-keeping is kept. -/
lemma isKept_isAccounted : IsKept IsAccounted where
  start _ schedule h := h.start schedule
  stop _ schedule reason h := h.stop schedule reason
  stopAll _ h := h.stopAll
  cancel _ h := h.cancel
  await _ _ _ h := ⟨h.root, h.child, h.ascending, h.made, h.started, h.wanted⟩
  progress r trackers heq h := by
    have horigins : origins { r with trackers } = r.origins := heq
    refine ⟨h.root, ?_, ?_, h.made, ?_, ?_⟩
    · rw [horigins]
      exact h.child
    · rw [horigins]
      exact h.ascending
    · rw [horigins]
      exact h.started
    · rw [horigins]
      exact h.wanted

end Roster

/-- In the run of a watcher every tracker is accounted for. -/
theorem System.WatcherRun.isAccounted {setup : Setup} {cluster : String} {s : System}
    (h : WatcherRun setup cluster s) : s.roster.IsAccounted := by
  refine h.induct (P := fun s => s.roster.IsAccounted) (fun s hidle => ?_)
    (fun _ _ hrole h => Roster.isKept_isAccounted.apply hrole h)
    (fun _ _ _ h hstep => Roster.isKept_isAccounted.step h hstep)
  have horigins : s.roster.origins = [] := by
    unfold Roster.origins
    rw [hidle.trackers, List.map_nil]
  have hnone {Q : String × Token → Prop} : ∀ o ∈ s.roster.origins, Q o := by
    rw [horigins]
    exact fun o ho => absurd ho List.not_mem_nil
  refine ⟨?_, hnone, ?_, ?_, ?_, hnone⟩
  · show s.roster.tokens.lineage Tokens.root = _
    unfold Tokens.lineage
    rw [hidle.tokens]
    rfl
  · show s.roster.origins.Pairwise _
    rw [horigins]
    exact List.Pairwise.nil
  · intro token htoken
    rw [hidle.fired token htoken]
    show 0 < s.roster.tokens.lineages.length
    rw [hidle.tokens]
    exact Nat.one_pos
  · intro name token hname
    have hname : s.roster.registry.get? name = some token := hname
    rw [hidle.registry] at hname
    cases hname

end BackupMonitor
