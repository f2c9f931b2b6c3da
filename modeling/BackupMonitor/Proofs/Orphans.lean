import BackupMonitor.Proofs.SessionPoints

/-!
# No tracker is left behind

A tracker that nobody can stop any more is an orphan. There are none: at every point of a session a
token that was handed out is registered under its name or was cancelled, also inside of operations
(`RegistrySession.no_orphans`).

What carries this is `RegistrySession.IsOrderly`. Every deed keeps it, since a token loses its name
only to a deed that cancels it.
-/

namespace BackupMonitor

namespace RegistryAnswer

mutual

/-- How many trackers were started, with those that were started inside. -/
def starts : RegistryAnswer → Nat
  | .started value inside => value.toNat + startsAll inside
  | _ => 0

/-- How many trackers were started in all. -/
def startsAll : List RegistryAnswer → Nat
  | [] => 0
  | answer :: answers => answer.starts + startsAll answers

end

end RegistryAnswer

namespace RegistrySession

/-- The tokens that were handed out are accounted for. -/
structure IsOrderly (s : RegistrySession) : Prop where
  /-- A token that was handed out was made. -/
  made {name : String} {token : Token} (h : (name, token) ∈ s.handed) :
    token ∈ s.tokens.lineage token
  /-- Tokens are handed out in the order in which they are made. -/
  ascending : s.handed.Pairwise (·.2 < ·.2)
  /-- What is registered was handed out. -/
  handed {name : String} {token : Token} (h : s.registry.get? name = some token) :
    (name, token) ∈ s.handed
  /-- What was handed out is registered unless it was cancelled. -/
  kept {name : String} {token : Token} (h : (name, token) ∈ s.handed) :
    s.registry.get? name = some token ∨ token ∈ s.tokens.fired

namespace IsOrderly

lemma empty : IsOrderly {} where
  made h := nomatch h
  ascending := .nil
  handed h := nomatch h
  kept h := nomatch h

/-- A deed keeps a session orderly. -/
theorem after {d : Deed} (h : d.session.IsOrderly) : d.after.IsOrderly := by
  refine { made := ?_, ascending := ?_, handed := ?_, kept := ?_ }
  · intro name token hout
    rcases d.mem_handed_after.mp hout with hold | ⟨parent, hnew⟩
    · have hown := h.made hold
      rwa [d.lineage_after (Tokens.lt_next_of_mem_lineage hown)]
    · rw [hnew.tokens_after, hnew.token_eq, Tokens.lineage_addChild_next]
      exact List.mem_cons_self
  · obtain ⟨fresh, hfresh, hlength, hmem⟩ := d.exists_handed_after
    rw [hfresh, List.pairwise_append]
    refine ⟨h.ascending, ?_, fun old hold new hnew => ?_⟩
    · match fresh, hlength with
      | [], _ => exact .nil
      | [entry], _ => exact List.pairwise_singleton _ entry
    · obtain ⟨parent, hout⟩ := (hmem new.1 new.2).mp hnew
      rw [hout.token_eq]
      exact Tokens.lt_next_of_mem_lineage (h.made hold)
  · intro name token hregistered
    rw [d.mem_handed_after]
    rcases d.get?_after_eq_some_iff.mp hregistered with hnew | ⟨hold, -⟩
    · exact .inr hnew
    · exact .inl (h.handed hold)
  · intro name token hout
    rw [d.get?_after_eq_some_iff, d.mem_fired_after]
    rcases d.mem_handed_after.mp hout with hold | hnew
    · rcases h.kept hold with hregistered | hfired
      · by_cases hremoves : d.Removes name token
        · exact .inr (.inr (.inl ⟨name, hremoves⟩))
        · exact .inl (.inr ⟨hregistered, hremoves⟩)
      · exact .inr (.inl hfired)
    · exact .inl (.inl hnew)

variable {s : RegistrySession} {name : String} {token : Token}

/-- A token that was handed out is cancelled or has its name. -/
lemma isCancelled_or_registered (h : s.IsOrderly) (hout : (name, token) ∈ s.handed) :
    s.tokens.isCancelled token = true ∨ s.registry.get? name = some token :=
  (h.kept hout).symm.imp_left (Tokens.isCancelled_of_mem_fired (h.made hout))

/-- A token is handed out once. -/
lemma place_eq {entry entry' : String × Token} (h : s.IsOrderly) {i j : Nat}
    (hi : s.handed[i]? = some entry) (hj : s.handed[j]? = some entry')
    (htoken : entry.2 = entry'.2) : i = j := by
  obtain ⟨hilt, rfl⟩ := List.getElem?_eq_some_iff.mp hi
  obtain ⟨hjlt, rfl⟩ := List.getElem?_eq_some_iff.mp hj
  have hless := List.pairwise_iff_getElem.mp h.ascending
  rcases Nat.lt_trichotomy i j with hij | hij | hji
  · exact absurd htoken (Nat.ne_of_lt (hless i j hilt hjlt hij))
  · exact hij
  · exact absurd htoken.symm (Nat.ne_of_lt (hless j i hjlt hilt hji))

/-- Of the tokens of one name only one is left. -/
lemma place_eq_of_not_isCancelled (h : s.IsOrderly) {i j : Nat} {token' : Token}
    (hi : s.handed[i]? = some (name, token)) (hj : s.handed[j]? = some (name, token'))
    (hlive : s.tokens.isCancelled token = false) (hlive' : s.tokens.isCancelled token' = false) :
    i = j := by
  have hregistered {token : Token} (hmem : (name, token) ∈ s.handed)
      (hlive : s.tokens.isCancelled token = false) : s.registry.get? name = some token := by
    rcases h.isCancelled_or_registered hmem with hcancelled | hregistered
    · rw [hlive] at hcancelled
      cases hcancelled
    · exact hregistered
  have hname := hregistered (List.mem_of_getElem? hi) hlive
  have hname' := hregistered (List.mem_of_getElem? hj) hlive'
  exact h.place_eq hi hj (Option.some.inj (hname.symm.trans hname'))

end IsOrderly

/-! ## Trackers that are started -/

mutual

/-- An operation hands out a token for each tracker that it says was started. -/
lemma length_handed_act (s : RegistrySession) : ∀ action,
    (s.act action).1.handed.length = s.handed.length + (s.act action).2.starts
  | .start name parent inside => by
    cases hname : s.registry.get? name with
    | some token =>
      rw [act_start_of_some hname]
      rfl
    | none =>
      obtain ⟨log, henter⟩ := exists_enter_start_of_none hname parent inside
      rw [act_start_of_none hname, length_handed_actAll _ inside, henter]
      simp only [RegistryAnswer.starts, List.length_append, List.length_singleton, Bool.toNat_true]
      omega
  | .stop name => rfl
  | .stopAll => rfl
  | .contains name => rfl
  | .names => rfl
  | .cancelParent name => rfl
  | .cancelToken index => by
    cases hindex : s.handed[index]? <;> simp [act, hindex, RegistryAnswer.starts]
  | .newParent name parent => rfl

/-- Operations hand out a token for each tracker that they say was started. -/
lemma length_handed_actAll (s : RegistrySession) : ∀ actions,
    (s.actAll actions).1.handed.length =
      s.handed.length + RegistryAnswer.startsAll (s.actAll actions).2
  | [] => rfl
  | action :: actions => by
    show ((s.act action).1.actAll actions).1.handed.length = s.handed.length +
      ((s.act action).2.starts + RegistryAnswer.startsAll ((s.act action).1.actAll actions).2)
    rw [length_handed_actAll _ actions, length_handed_act s action, Nat.add_assoc]

end

variable {actions rest : List RegistryAction} {past : List Deed} {s : RegistrySession}

lemma Passes.isOrderly (h : Passes actions past s rest) : s.IsOrderly := by
  induction h with
  | start => exact .empty
  | @next past s action rest h ih => exact ih.after (d := ⟨s, action⟩)

/-- At every point of a session, inside of operations too, a token that was handed out is cancelled
or registered under its name, and of the tokens of a name at most one is not cancelled. A tracker is
started exactly if its name is not registered: the name is registered then, the token is handed out,
and what is inside is done once. Nothing is registered after all trackers are stopped, and the
answer is how many there were. The names ascend strictly, as many as are registered. -/
theorem no_orphans (h : Passes actions past s rest) :
    (s.actAll rest).1 = (({} : RegistrySession).actAll actions).1 ∧
    (∃ later, Passes actions later (({} : RegistrySession).actAll actions).1 []) ∧
    (∀ name token, (name, token) ∈ s.handed →
      s.tokens.isCancelled token = true ∨ s.registry.get? name = some token) ∧
    (∀ (i j : Nat) (name : String) (token token' : Token), s.handed[i]? = some (name, token) →
      s.handed[j]? = some (name, token') → s.tokens.isCancelled token = false →
      s.tokens.isCancelled token' = false → i = j) ∧
    (∀ name parent inside,
      (s.registry.contains name = true →
        s.act (.start name parent inside) = (s, .started false [])) ∧
      (s.registry.contains name = false → ∃ entered : RegistrySession,
        entered.handed = s.handed ++ [(name, s.tokens.next)] ∧
        entered.registry = s.registry.insert name s.tokens.next ∧
        entered.tokens = s.tokens.addChild (s.parentNamed parent) ∧
        s.act (.start name parent inside) =
          ((entered.actAll inside).1, .started true (entered.actAll inside).2))) ∧
    (s.actAll rest).1.handed.length =
      s.handed.length + RegistryAnswer.startsAll (s.actAll rest).2 ∧
    (s.act .stopAll).2 = .count s.registry.names.length ∧
    (s.act .stopAll).1.registry.names = [] ∧
    s.act .names = (s, .names s.registry.names) ∧
    s.registry.names.Pairwise (· < ·) ∧
    s.registry.names.length = s.registry.size := by
  have horderly := h.isOrderly
  refine ⟨h.actAll_eq, h.exists_end, fun _ _ => horderly.isCancelled_or_registered,
    fun _ _ _ _ _ => horderly.place_eq_of_not_isCancelled, fun name parent inside => ⟨?_, ?_⟩,
    length_handed_actAll s rest, ?_, rfl, rfl, s.registry.names_ascending,
    s.registry.length_names⟩
  · intro hcontains
    obtain ⟨token, hname⟩ := Option.isSome_iff_exists.mp hcontains
    exact act_start_of_some hname parent inside
  · intro hcontains
    have hname : s.registry.get? name = none := by simpa using hcontains
    obtain ⟨log, henter⟩ := exists_enter_start_of_none hname parent inside
    exact ⟨_, by rw [henter], by rw [henter], by rw [henter],
      act_start_of_none hname parent inside⟩
  · rw [Table.length_names]
    rfl

end RegistrySession

namespace Sample

/-- When the tracker of a schedule starts, it is stopped, and a second one is started under the same
name, which stops every tracker as it starts. -/
def restarts : List RegistryAction :=
  [.newParent "shard" (some "root"),
    .start "nightly" "shard" [.start "nightly" "root" [], .stop "nightly",
      .start "nightly" "root" [.stopAll]],
    .start "hourly" "root" []]

end Sample

/-- Within the start of the second tracker, which is within the start of the first one, the token of
the first one is cancelled and that of the second one is registered, until every tracker is
stopped. -/
theorem RegistrySession.no_orphans_restarts :
    ∃ past s, RegistrySession.Passes Sample.restarts past s
        [.stopAll, .start "hourly" "root" []] ∧
      s.handed = [("nightly", 2), ("nightly", 3)] ∧
      s.registry.get? "nightly" = some 3 ∧
      s.tokens.isCancelled 2 = true ∧ s.tokens.isCancelled 3 = false ∧
      (s.act .stopAll).2 = .count 1 ∧
      (({} : RegistrySession).actAll Sample.restarts).1.handed.length = 3 := by
  have h := (@RegistrySession.Passes.start Sample.restarts).next.next.next.next.next
  obtain ⟨hend, -, hleft, -, -, hcount, hstopped, -⟩ := RegistrySession.no_orphans h
  refine ⟨_, _, h, rfl, rfl, ?_, rfl, hstopped, ?_⟩
  · exact (hleft "nightly" 2 List.mem_cons_self).resolve_right (by decide)
  · rw [← hend, hcount]
    rfl

end BackupMonitor
