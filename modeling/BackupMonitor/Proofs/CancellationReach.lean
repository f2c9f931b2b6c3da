import BackupMonitor.Proofs.Orphans

/-!
# What a cancellation reaches

A token that was handed out is cancelled if it was removed, if it was cancelled itself, or if its
parent or an ancestor of its parent was cancelled, and for no other reason
(`RegistrySession.cancellation_reaches`). What was done is told by the deeds of the session alone:
how parents descend from one another is read off the deeds that made them (`Deed.Descends`),
whatever their names stood for later.

`RegistrySession.IsAccountedFor` says that the deeds so far account for the tokens. It is kept by
every deed. The main results follow from it at any one point: no parent is ever handed out, so what
removes or cancels a token that was handed out never touches a parent.
-/

namespace BackupMonitor

namespace Deed

variable {past : List Deed} {d : Deed} {name : String} {token parent : Token}

/-- A parent: the first root, or a token that was made as a parent. -/
def IsParent (past : List Deed) (token : Token) : Prop :=
  token = Tokens.root ∨ ∃ d ∈ past, ∃ parent, d.MakesParent token parent

/-- A parent and its ancestors, by the deeds that made them. -/
inductive Descends (past : List Deed) : Token → Token → Prop where
  /-- The parent itself. -/
  | refl (token : Token) : Descends past token token
  /-- An ancestor of the parent under which it was made. -/
  | step {d : Deed} {token parent ancestor : Token} (hmem : d ∈ past)
      (h : d.MakesParent token (some parent)) (hparent : Descends past parent ancestor) :
      Descends past token ancestor

/-- It makes a token, as a parent or for a tracker. -/
def Makes (d : Deed) (token : Token) (parent : Option Token) : Prop :=
  d.MakesParent token parent ∨ ∃ name origin, parent = some origin ∧ d.HandsOut name token origin

lemma isParent_snoc :
    IsParent (past ++ [d]) token ↔
      IsParent past token ∨ ∃ parent, d.MakesParent token parent := by
  simp [IsParent, or_and_right, exists_or, or_assoc]

lemma mem_snoc {e : Deed} : e ∈ past ++ [d] ↔ e ∈ past ∨ e = d := by
  simp

lemma exists_mem_snoc {p : Deed → Prop} : (∃ e ∈ past ++ [d], p e) ↔ (∃ e ∈ past, p e) ∨ p d := by
  simp [or_and_right, exists_or]

lemma MakesParent.makes {parent : Option Token} (h : d.MakesParent token parent) :
    d.Makes token parent :=
  .inl h

lemma HandsOut.makes (h : d.HandsOut name token parent) : d.Makes token (some parent) :=
  .inr ⟨name, parent, rfl, h⟩

/-- The lineage of a token when it is made. -/
lemma Makes.lineage_after {parent : Option Token} (h : d.Makes token parent) :
    d.after.tokens.lineage token = token :: parent.elim [] d.session.tokens.lineage := by
  rcases h with hparent | ⟨name, origin, rfl, hout⟩
  · obtain rfl := hparent.token_eq
    rw [hparent.tokens_after]
    cases parent with
    | none => exact Tokens.lineage_addRoot_next _
    | some parent => exact Tokens.lineage_addChild_next _ parent
  · obtain rfl := hout.token_eq
    rw [hout.tokens_after]
    exact Tokens.lineage_addChild_next _ origin

/-- The parent of a token that is made has a name. -/
lemma Makes.exists_parentNamed (h : d.Makes token (some parent)) :
    ∃ name, d.session.parentNamed name = parent := by
  rcases h with ⟨_, parentName, -, -, hparent⟩ |
    ⟨_, origin, horigin, parentName, _, -, -, -, hparent⟩
  · obtain ⟨name, -, hname⟩ := Option.map_eq_some_iff.mp hparent
    exact ⟨name, hname⟩
  · exact ⟨parentName, hparent.trans (Option.some.inj horigin).symm⟩

/-- No token is made as a parent and handed out. -/
lemma HandsOut.not_makesParent (h : d.HandsOut name token parent) (origin : Option Token) :
    ¬ d.MakesParent token origin := by
  obtain ⟨_, _, hstart, -⟩ := h
  rintro ⟨_, _, hnew, -⟩
  rw [hstart] at hnew
  cases hnew

/-- To stop a tracker cancels the token of the name. -/
lemma fires_stop_iff {s : RegistrySession} :
    Fires ⟨s, .stop name⟩ token ↔ s.registry.get? name = some token := by
  simp [Fires, Removes, CancelsToken, CancelsParent]

/-- A deed that spares a token and its ancestors leaves the token as it is. -/
lemma isCancelled_after_of_spared (hmade : token < d.session.tokens.next)
    (hspared : ∀ ancestor ∈ d.session.tokens.lineage token, ¬ d.Fires ancestor) :
    d.after.tokens.isCancelled token = d.session.tokens.isCancelled token := by
  rw [Bool.eq_iff_iff, Tokens.isCancelled_iff, Tokens.isCancelled_iff, d.lineage_after hmade]
  refine exists_congr fun ancestor => and_congr_right fun hmem => ?_
  rw [d.mem_fired_after]
  exact or_iff_left (hspared ancestor hmem)

end Deed

namespace RegistrySession

open Deed

/-- The deeds so far account for the session. -/
structure IsAccountedFor (s : RegistrySession) (past : List Deed) : Prop where
  /-- The tokens that were handed out are accounted for by the registry. -/
  orderly : s.IsOrderly
  /-- A token was cancelled directly if a deed cancelled it. -/
  fired {token : Token} : token ∈ s.tokens.fired ↔ ∃ d ∈ past, d.Fires token
  /-- A token was handed out if a deed handed it out. -/
  handed {name : String} {token : Token} :
    (name, token) ∈ s.handed ↔ ∃ d ∈ past, ∃ parent, d.HandsOut name token parent
  /-- The first root has no ancestors. -/
  root : s.tokens.lineage Tokens.root = [Tokens.root]
  /-- Names of parents stand for parents. -/
  parents {name : String} {token : Token} (h : s.parents.get? name = some token) :
    IsParent past token
  /-- The ancestors of a token that a deed made are those that the deed gave it. -/
  lineage {d : Deed} {token : Token} {parent : Option Token} (hmem : d ∈ past)
    (h : d.Makes token parent) :
    s.tokens.lineage token = token :: parent.elim [] s.tokens.lineage
  /-- Tokens are made under parents. -/
  origin {d : Deed} {token parent : Token} (hmem : d ∈ past) (h : d.Makes token (some parent)) :
    IsParent past parent
  /-- No token that was handed out is a parent. -/
  apart {name : String} {token : Token} (h : (name, token) ∈ s.handed) : ¬ IsParent past token
  /-- What was removed from the registry had been handed out. -/
  removed {d : Deed} {name : String} {token : Token} (hmem : d ∈ past)
    (h : d.Removes name token) : (name, token) ∈ s.handed
  /-- What was cancelled as a token that had been handed out had been handed out. -/
  cancelledToken {d : Deed} {token : Token} (hmem : d ∈ past) (h : d.CancelsToken token) :
    ∃ name, (name, token) ∈ s.handed
  /-- What was cancelled as a parent is a parent. -/
  cancelledParent {d : Deed} {token : Token} (hmem : d ∈ past) (h : d.CancelsParent token) :
    IsParent past token

namespace IsAccountedFor

variable {past : List Deed} {s : RegistrySession} {d : Deed} {name : String}
  {token parent ancestor : Token}

lemma empty : IsAccountedFor {} [] where
  orderly := .empty
  fired := by simp [Tokens.single, Tokens.addRoot]
  handed := by simp
  root := rfl
  parents {name token} h := by
    simp only [Table.singleton, Table.get?_insert, Table.get?_empty] at h
    split at h
    · exact .inl (Option.some.inj h).symm
    · cases h
  lineage hmem := nomatch hmem
  origin hmem := nomatch hmem
  apart h := nomatch h
  removed hmem := nomatch hmem
  cancelledToken hmem := nomatch hmem
  cancelledParent hmem := nomatch hmem

/-! ### Parents -/

lemma isParent_parentNamed (h : s.IsAccountedFor past) (name : String) :
    IsParent past (s.parentNamed name) := by
  unfold parentNamed
  cases hname : s.parents.get? name with
  | none => exact .inl rfl
  | some token => exact h.parents hname

/-- A parent is in its own lineage. -/
lemma mem_lineage_self (h : s.IsAccountedFor past) (hparent : IsParent past token) :
    token ∈ s.tokens.lineage token := by
  rcases hparent with rfl | ⟨d, hmem, origin, hmakes⟩
  · rw [h.root]
    exact List.mem_singleton_self _
  · rw [h.lineage hmem hmakes.makes]
    exact List.mem_cons_self

lemma lt_next_of_isParent (h : s.IsAccountedFor past) (hparent : IsParent past token) :
    token < s.tokens.next :=
  Tokens.lt_next_of_mem_lineage (h.mem_lineage_self hparent)

lemma isParent_of_descends (h : s.IsAccountedFor past) (hdescends : Descends past token ancestor)
    (hparent : IsParent past token) : IsParent past ancestor := by
  induction hdescends with
  | refl token => exact hparent
  | step hmem hmakes _ ih => exact ih (h.origin hmem hmakes.makes)

/-- The lineage of a parent is made up of the parents that it descends from. -/
theorem mem_lineage_iff (h : s.IsAccountedFor past) (hparent : IsParent past token) :
    ancestor ∈ s.tokens.lineage token ↔ Descends past token ancestor := by
  constructor
  · intro hancestor
    -- Lineages get shorter on the way up.
    induction hlength : (s.tokens.lineage token).length using Nat.strongRecOn
      generalizing token with
    | ind length ih =>
      rcases hparent with rfl | ⟨d, hmem, origin, hmakes⟩
      · rw [h.root, List.mem_singleton] at hancestor
        rw [hancestor]
        exact .refl _
      · rw [h.lineage hmem hmakes.makes] at hancestor hlength
        rcases List.mem_cons.mp hancestor with rfl | habove
        · exact .refl _
        · cases origin with
          | none => cases habove
          | some parent =>
            refine .step hmem hmakes ?_
            have hshorter : (s.tokens.lineage parent).length < length := by
              rw [← hlength]
              exact Nat.lt_succ_self _
            exact ih _ hshorter (h.origin hmem hmakes.makes) habove rfl
  · intro hdescends
    induction hdescends with
    | refl token => exact h.mem_lineage_self hparent
    | step hmem hmakes _ ih =>
      rw [h.lineage hmem hmakes.makes]
      exact List.mem_cons_of_mem _ (ih (h.origin hmem hmakes.makes))

/-! ### A deed more -/

lemma isParent_of_makes (h : d.session.IsAccountedFor past) (hmakes : d.Makes token (some parent)) :
    IsParent past parent := by
  obtain ⟨name, rfl⟩ := hmakes.exists_parentNamed
  exact h.isParent_parentNamed name

/-- The lineage of a token, once more deeds are done. -/
lemma lineage_after (h : d.session.IsAccountedFor past) {e : Deed} {parent : Option Token}
    (hmem : e ∈ past ++ [d]) (hmakes : e.Makes token parent) :
    d.after.tokens.lineage token = token :: parent.elim [] d.after.tokens.lineage := by
  have habove : parent.elim [] d.after.tokens.lineage =
      parent.elim [] d.session.tokens.lineage := by
    cases parent with
    | none => rfl
    | some parent =>
      refine d.lineage_after (h.lt_next_of_isParent ?_)
      rcases mem_snoc.mp hmem with hold | rfl
      · exact h.origin hold hmakes
      · exact h.isParent_of_makes hmakes
  rw [habove]
  rcases mem_snoc.mp hmem with hold | rfl
  · have hlineage := h.lineage hold hmakes
    rw [d.lineage_after (Tokens.lt_next_of_mem_lineage (hlineage ▸ List.mem_cons_self)), hlineage]
  · exact hmakes.lineage_after

/-- Nothing that is handed out is a parent, once one more deed is done. -/
lemma apart_after (h : d.session.IsAccountedFor past)
    (hout : (name, token) ∈ d.session.handed ∨ ∃ parent, d.HandsOut name token parent) :
    ¬ IsParent (past ++ [d]) token := by
  rw [isParent_snoc]
  rcases hout with hold | ⟨parent, hnew⟩
  · have hlt := Tokens.lt_next_of_mem_lineage (h.orderly.made hold)
    rintro (hparent | ⟨origin, hmakes⟩)
    · exact h.apart hold hparent
    · exact absurd hmakes.token_eq (Nat.ne_of_lt hlt)
  · rintro (hparent | ⟨origin, hmakes⟩)
    · exact absurd hnew.token_eq (Nat.ne_of_lt (h.lt_next_of_isParent hparent))
    · exact hnew.not_makesParent origin hmakes

/-- A deed is accounted for, together with those before it. -/
theorem after (h : d.session.IsAccountedFor past) : d.after.IsAccountedFor (past ++ [d]) := by
  refine
    { orderly := h.orderly.after
      fired := ?_
      handed := ?_
      root := ?_
      parents := ?_
      lineage := h.lineage_after
      origin := ?_
      apart := fun hout => h.apart_after (d.mem_handed_after.mp hout)
      removed := ?_
      cancelledToken := ?_
      cancelledParent := ?_ }
  · intro token
    rw [d.mem_fired_after, h.fired, exists_mem_snoc]
  · intro name token
    rw [d.mem_handed_after, h.handed, exists_mem_snoc]
  · exact (d.lineage_after (h.lt_next_of_isParent (.inl rfl))).trans h.root
  · intro name token hname
    rw [isParent_snoc]
    exact (d.get?_parents_after hname).imp_left h.parents
  · intro e token parent he hmakes
    rw [isParent_snoc]
    rcases mem_snoc.mp he with hold | rfl
    · exact .inl (h.origin hold hmakes)
    · exact .inl (h.isParent_of_makes hmakes)
  · intro e name token he hremoves
    refine mem_handed_after.mpr (.inl ?_)
    rcases mem_snoc.mp he with hold | rfl
    · exact h.removed hold hremoves
    · exact h.orderly.handed hremoves.2
  · intro e token he hcancels
    rcases mem_snoc.mp he with hold | rfl
    · obtain ⟨name, hout⟩ := h.cancelledToken hold hcancels
      exact ⟨name, mem_handed_after.mpr (.inl hout)⟩
    · obtain ⟨index, name, -, hindex⟩ := hcancels
      exact ⟨name, mem_handed_after.mpr (.inl (List.mem_of_getElem? hindex))⟩
  · intro e token he hcancels
    rw [isParent_snoc]
    rcases mem_snoc.mp he with hold | rfl
    · exact .inl (h.cancelledParent hold hcancels)
    · obtain ⟨name, -, rfl⟩ := hcancels
      exact .inl (h.isParent_parentNamed name)

/-! ### Which tokens are cancelled -/

/-- A token is handed out under one name only. -/
lemma name_eq (h : s.IsAccountedFor past) {other : String} (hname : (name, token) ∈ s.handed)
    (hother : (other, token) ∈ s.handed) : name = other := by
  obtain ⟨i, hi⟩ := List.mem_iff_getElem?.mp hname
  obtain ⟨j, hj⟩ := List.mem_iff_getElem?.mp hother
  obtain rfl := h.orderly.place_eq hi hj rfl
  exact congrArg Prod.fst (Option.some.inj (hi.symm.trans hj))

/-- A parent is cancelled directly by nothing but its own cancellation. -/
lemma fired_iff_of_isParent (h : s.IsAccountedFor past) (hparent : IsParent past token) :
    token ∈ s.tokens.fired ↔ ∃ e ∈ past, e.CancelsParent token := by
  rw [h.fired]
  refine exists_congr fun e => and_congr_right fun hmem =>
    ⟨?_, fun hcancels => .inr (.inr hcancels)⟩
  rintro (⟨name, hremoves⟩ | hcancels | hcancels)
  · exact absurd hparent (h.apart (h.removed hmem hremoves))
  · obtain ⟨name, hout⟩ := h.cancelledToken hmem hcancels
    exact absurd hparent (h.apart hout)
  · exact hcancels

/-- A token that was handed out is cancelled directly when it is removed or by itself. -/
lemma fired_iff_of_handed (h : s.IsAccountedFor past) (hout : (name, token) ∈ s.handed) :
    token ∈ s.tokens.fired ↔
      (∃ e ∈ past, e.Removes name token) ∨ ∃ e ∈ past, e.CancelsToken token := by
  rw [h.fired]
  constructor
  · rintro ⟨e, hmem, ⟨other, hremoves⟩ | hcancels | hcancels⟩
    · obtain rfl := h.name_eq hout (h.removed hmem hremoves)
      exact .inl ⟨e, hmem, hremoves⟩
    · exact .inr ⟨e, hmem, hcancels⟩
    · exact absurd (h.cancelledParent hmem hcancels) (h.apart hout)
  · rintro (⟨e, hmem, hremoves⟩ | ⟨e, hmem, hcancels⟩)
    · exact ⟨e, hmem, .inl ⟨name, hremoves⟩⟩
    · exact ⟨e, hmem, .inr (.inl hcancels)⟩

/-- A parent is cancelled if it or an ancestor was cancelled as a parent. -/
theorem isCancelled_iff_of_isParent (h : s.IsAccountedFor past) (hparent : IsParent past parent) :
    s.tokens.isCancelled parent = true ↔
      ∃ e ∈ past, ∃ ancestor, Descends past parent ancestor ∧ e.CancelsParent ancestor := by
  rw [Tokens.isCancelled_iff]
  constructor
  · rintro ⟨ancestor, hmem, hfired⟩
    rw [h.mem_lineage_iff hparent] at hmem
    rw [h.fired_iff_of_isParent (h.isParent_of_descends hmem hparent)] at hfired
    obtain ⟨e, he, hcancels⟩ := hfired
    exact ⟨e, he, ancestor, hmem, hcancels⟩
  · rintro ⟨e, he, ancestor, hdescends, hcancels⟩
    refine ⟨ancestor, (h.mem_lineage_iff hparent).mpr hdescends, ?_⟩
    rw [h.fired_iff_of_isParent (h.isParent_of_descends hdescends hparent)]
    exact ⟨e, he, hcancels⟩

/-- A token that was handed out is cancelled directly or with its parent. -/
lemma isCancelled_iff_of_handsOut (h : s.IsAccountedFor past) (hmem : d ∈ past)
    (hout : d.HandsOut name token parent) :
    s.tokens.isCancelled token = true ↔
      token ∈ s.tokens.fired ∨ s.tokens.isCancelled parent = true := by
  have hlineage : s.tokens.lineage token = token :: s.tokens.lineage parent :=
    h.lineage hmem hout.makes
  rw [Tokens.isCancelled_iff, Tokens.isCancelled_iff, hlineage]
  simp

/-- Only the cancellation of a parent cancels a parent. -/
lemma isCancelled_enter_of_isParent (h : s.IsAccountedFor past) (hparent : IsParent past parent)
    {action : RegistryAction} (haction : ∀ name, action ≠ .cancelParent name) :
    (s.enter action).1.tokens.isCancelled parent = s.tokens.isCancelled parent := by
  refine isCancelled_after_of_spared (d := ⟨s, action⟩) (h.lt_next_of_isParent hparent) ?_
  intro ancestor hmem hfires
  have hancestor := h.isParent_of_descends ((h.mem_lineage_iff hparent).mp hmem) hparent
  rcases hfires with ⟨name, -, hname⟩ | ⟨index, name, -, hindex⟩ | ⟨name, hcancels, -⟩
  · exact h.apart (h.orderly.handed hname) hancestor
  · exact h.apart (List.mem_of_getElem? hindex) hancestor
  · exact haction name hcancels

/-- A tracker that is stopped leaves the token of another name alone. -/
lemma isCancelled_stop (h : s.IsAccountedFor past) {other : String} (hother : other ≠ name)
    (hname : s.registry.get? other = some token) :
    (s.act (.stop name)).1.tokens.isCancelled token = s.tokens.isCancelled token := by
  have hout := h.orderly.handed hname
  refine isCancelled_after_of_spared (d := ⟨s, .stop name⟩)
    (Tokens.lt_next_of_mem_lineage (h.orderly.made hout)) ?_
  intro ancestor hmem hfires
  have hstopped := h.orderly.handed (fires_stop_iff.mp hfires)
  obtain ⟨d, hd, parent, hhandsOut⟩ := h.handed.mp hout
  have hlineage : s.tokens.lineage token = token :: s.tokens.lineage parent :=
    h.lineage hd hhandsOut.makes
  rw [hlineage] at hmem
  rcases List.mem_cons.mp hmem with rfl | habove
  · exact hother (h.name_eq hout hstopped)
  · have hparent := h.origin hd hhandsOut.makes
    exact h.apart hstopped
      (h.isParent_of_descends ((h.mem_lineage_iff hparent).mp habove) hparent)

end IsAccountedFor

variable {actions rest : List RegistryAction} {past : List Deed} {s : RegistrySession}

lemma Passes.isAccountedFor (h : Passes actions past s rest) : s.IsAccountedFor past := by
  induction h with
  | start => exact .empty
  | @next past s action rest h ih => exact ih.after (d := ⟨s, action⟩)

/-- At every point of a session, a token that was handed out is cancelled if it was removed from the
registry under its name, if it was cancelled itself, or if its parent or an ancestor of its parent
was cancelled, be it before the token was made or after, and only then. A parent is cancelled if it
or an ancestor was cancelled as a parent: nothing else that is done to a registry cancels one. To
stop a tracker leaves the tokens of other names alone, and to cancel a parent leaves the registry as
it is. -/
theorem cancellation_reaches (h : Passes actions past s rest) :
    (∀ name token, (name, token) ∈ s.handed ↔ ∃ d ∈ past, ∃ parent, d.HandsOut name token parent) ∧
    (∀ d ∈ past, ∀ name token parent, d.HandsOut name token parent →
      (s.tokens.isCancelled token = true ↔
        (∃ e ∈ past, e.Removes name token) ∨
        (∃ e ∈ past, e.CancelsToken token) ∨
        ∃ e ∈ past, ∃ ancestor, Descends past parent ancestor ∧ e.CancelsParent ancestor)) ∧
    (∀ parent, IsParent past parent →
      (s.tokens.isCancelled parent = true ↔
        ∃ e ∈ past, ∃ ancestor, Descends past parent ancestor ∧ e.CancelsParent ancestor)) ∧
    (∀ parent action, IsParent past parent → (∀ name, action ≠ .cancelParent name) →
      (s.enter action).1.tokens.isCancelled parent = s.tokens.isCancelled parent) ∧
    (∀ name other token, other ≠ name → s.registry.get? other = some token →
      (s.act (.stop name)).1.tokens.isCancelled token = s.tokens.isCancelled token) ∧
    ∀ name, (s.act (.cancelParent name)).1.registry = s.registry := by
  have haccount := h.isAccountedFor
  refine ⟨fun _ _ => haccount.handed, fun d hmem name token parent hout => ?_,
    fun _ => haccount.isCancelled_iff_of_isParent,
    fun _ _ hparent => haccount.isCancelled_enter_of_isParent hparent,
    fun _ _ _ => haccount.isCancelled_stop, fun _ => rfl⟩
  have hhanded : (name, token) ∈ s.handed := haccount.handed.mpr ⟨d, hmem, parent, hout⟩
  have hparent : IsParent past parent := haccount.origin hmem hout.makes
  rw [haccount.isCancelled_iff_of_handsOut hmem hout, haccount.fired_iff_of_handed hhanded,
    haccount.isCancelled_iff_of_isParent hparent, or_assoc]

end RegistrySession

namespace Sample

/-- A name is registered again under another parent while its first tracker starts, a parent loses
its name to a new one, and the root is cancelled. -/
def crossed : List RegistryAction :=
  [.newParent "shard" (some "root"), .newParent "away" none,
    .start "nightly" "shard" [.stop "nightly", .start "nightly" "away" []],
    .start "hourly" "shard" [], .newParent "shard" none, .cancelParent "root"]

end Sample

/-- The root reaches the token under the parent that it had before the name of that parent was given
away, and not the token under the other root. -/
theorem RegistrySession.cancellation_reaches_crossed :
    ∃ past s, RegistrySession.Passes Sample.crossed past s [] ∧
      s.handed = [("nightly", 3), ("nightly", 4), ("hourly", 5)] ∧
      (∃ d ∈ past, d.HandsOut "hourly" 5 1) ∧ Deed.Descends past 1 Tokens.root ∧
      (∃ e ∈ past, e.CancelsParent Tokens.root) ∧
      s.tokens.isCancelled 5 = true ∧ s.tokens.isCancelled 4 = false ∧
      (s.act (.stop "hourly")).1.tokens.isCancelled 4 = false := by
  obtain ⟨past, s, h, hhanded, hname, hlive, hhourly, habove, hroot⟩ : ∃ past s,
      RegistrySession.Passes Sample.crossed past s [] ∧
      s.handed = [("nightly", 3), ("nightly", 4), ("hourly", 5)] ∧
      s.registry.get? "nightly" = some 4 ∧ s.tokens.isCancelled 4 = false ∧
      (∃ d ∈ past, d.HandsOut "hourly" 5 1) ∧ Deed.Descends past 1 Tokens.root ∧
      ∃ e ∈ past, e.CancelsParent Tokens.root := by
    have hfirst := (@RegistrySession.Passes.start Sample.crossed).next
    refine ⟨_, _, hfirst.next.next.next.next.next.next.next, rfl, rfl, rfl, ?_, ?_, ?_⟩
    · exact ⟨_, List.mem_append_left _ (List.mem_append_left _ (List.mem_append_right _
        (List.mem_singleton_self _))), "shard", [], rfl, rfl, rfl, rfl⟩
    · refine .step (d := ⟨{}, .newParent "shard" (some "root")⟩) ?_
        ⟨"shard", some "root", rfl, rfl, rfl⟩ (.refl Tokens.root)
      simp
    · exact ⟨_, List.mem_append_right _ (List.mem_singleton_self _), "root", rfl, rfl⟩
  obtain ⟨-, hreached, -, -, hstop, -⟩ := RegistrySession.cancellation_reaches h
  obtain ⟨d, hd, hout⟩ := hhourly
  obtain ⟨e, he, hcancels⟩ := hroot
  have hcancelled := (hreached d hd "hourly" 5 1 hout).mpr
    (.inr (.inr ⟨e, he, Tokens.root, habove, hcancels⟩))
  exact ⟨past, s, h, hhanded, ⟨d, hd, hout⟩, habove, ⟨e, he, hcancels⟩, hcancelled, hlive,
    (hstop "hourly" "nightly" 4 (by decide) hname).trans hlive⟩

end BackupMonitor
