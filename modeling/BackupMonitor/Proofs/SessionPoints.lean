import BackupMonitor.Proofs.Forest
import BackupMonitor.Registry.Session

/-!
# The points of a session

Operations on a registry nest: what is done when a tracker starts is done after its name has been
registered and before the start is over. `RegistrySession.enter` is what an operation does itself,
and `RegistrySession.Passes` goes through a session one such operation after the other, with those
that are still to be done on a list. So it visits the points inside of operations as well, and it
comes to the end that the session has (`Passes.actAll_eq`, `Passes.exists_end`).

A `Deed` is an operation at the point where it was done. What it does to the tokens, to the registry
and to the parents is told by five relations, `HandsOut`, `Removes`, `CancelsToken`, `CancelsParent`
and `MakesParent`, and each part of the session afterwards is described by one lemma in these terms.
-/

namespace BackupMonitor

namespace RegistrySession

/-- What an operation does itself, before the operations inside it, and the operations inside it
that are to be done then. -/
def enter (s : RegistrySession) : RegistryAction → RegistrySession × List RegistryAction
  | .start name parent inside =>
    let change := s.registry.startIfAbsent s.tokens name (s.parentNamed parent)
    match change.answer with
    | none => (s, [])
    | some token => ({ s.adopt change with handed := s.handed ++ [(name, token)] }, inside)
  | action => ((s.act action).1, [])

end RegistrySession

/-- An operation at the point of a session where it is done. -/
structure Deed where
  /-- The session before. -/
  session : RegistrySession
  /-- The operation. -/
  action : RegistryAction

namespace Deed

/-- The session after it, but before the operations inside it. -/
def after (d : Deed) : RegistrySession :=
  (d.session.enter d.action).1

/-- It starts a tracker under a name that is not registered: it registers the name with a new token,
a child of `parent`, and hands the token out. -/
def HandsOut (d : Deed) (name : String) (token parent : Token) : Prop :=
  ∃ parentName inside, d.action = .start name parentName inside ∧
    d.session.registry.get? name = none ∧ d.session.tokens.next = token ∧
    d.session.parentNamed parentName = parent

/-- It stops the tracker of the name, or every tracker, and so removes the name with its token. -/
def Removes (d : Deed) (name : String) (token : Token) : Prop :=
  (d.action = .stop name ∨ d.action = .stopAll) ∧ d.session.registry.get? name = some token

/-- It cancels directly a token that was handed out. -/
def CancelsToken (d : Deed) (token : Token) : Prop :=
  ∃ index name, d.action = .cancelToken index ∧ d.session.handed[index]? = some (name, token)

/-- It cancels a parent by its name. -/
def CancelsParent (d : Deed) (parent : Token) : Prop :=
  ∃ name, d.action = .cancelParent name ∧ d.session.parentNamed name = parent

/-- It makes a parent, as a child of another one or without a parent. -/
def MakesParent (d : Deed) (token : Token) (parent : Option Token) : Prop :=
  ∃ name parentName, d.action = .newParent name parentName ∧ d.session.tokens.next = token ∧
    parentName.map d.session.parentNamed = parent

/-- It cancels the token, in one way or another. -/
def Fires (d : Deed) (token : Token) : Prop :=
  (∃ name, d.Removes name token) ∨ d.CancelsToken token ∨ d.CancelsParent token

/-- It does nothing to the tokens, the registry and the parents. -/
def IsIdle (d : Deed) : Prop :=
  match d.action with
  | .start name _ _ => d.session.registry.get? name ≠ none
  | .stop name => d.session.registry.get? name = none
  | .contains _ => True
  | .names => True
  | .cancelToken index => d.session.handed[index]? = none
  | _ => False

namespace IsIdle

variable {d : Deed} {name : String} {token : Token}

lemma not_handsOut (h : d.IsIdle) (parent : Token) : ¬ d.HandsOut name token parent := by
  rintro ⟨parentName, inside, haction, hname, -⟩
  rw [IsIdle, haction] at h
  exact h hname

lemma not_removes (h : d.IsIdle) : ¬ d.Removes name token := by
  rintro ⟨haction | haction, hname⟩
  · rw [IsIdle, haction] at h
    exact absurd (hname.symm.trans h) (by simp)
  · rw [IsIdle, haction] at h
    exact h

lemma not_fires (h : d.IsIdle) : ¬ d.Fires token := by
  rintro (⟨name, hremoves⟩ | ⟨index, name, haction, hindex⟩ | ⟨name, haction, -⟩)
  · exact h.not_removes hremoves
  · rw [IsIdle, haction] at h
    exact absurd (hindex.symm.trans h) (by simp)
  · rw [IsIdle, haction] at h
    exact h

end IsIdle

end Deed

namespace RegistrySession

/-- What an operation does itself, one constructor for each thing. -/
inductive Enters (s : RegistrySession) : RegistryAction → RegistrySession → Prop where
  /-- It does nothing. -/
  | idle {action : RegistryAction} (log : List Log.Line) (hidle : Deed.IsIdle ⟨s, action⟩) :
      Enters s action { s with log }
  /-- It starts a tracker. -/
  | start {name parent : String} {inside : List RegistryAction} (log : List Log.Line)
      (hname : s.registry.get? name = none) :
      Enters s (.start name parent inside)
        { s with
          tokens := s.tokens.addChild (s.parentNamed parent)
          registry := s.registry.insert name s.tokens.next
          handed := s.handed ++ [(name, s.tokens.next)]
          log }
  /-- It stops a tracker. -/
  | stop {name : String} {token : Token} (log : List Log.Line)
      (hname : s.registry.get? name = some token) :
      Enters s (.stop name)
        { s with tokens := s.tokens.cancel token, registry := s.registry.erase name, log }
  /-- It stops every tracker. -/
  | stopAll (log : List Log.Line) :
      Enters s .stopAll
        { s with
          tokens := s.tokens.cancelAll (s.registry.entries.map (·.2))
          registry := ∅
          log }
  /-- It cancels a parent. -/
  | cancelParent {name : String} :
      Enters s (.cancelParent name) { s with tokens := s.tokens.cancel (s.parentNamed name) }
  /-- It cancels a token that was handed out. -/
  | cancelToken {index : Nat} {name : String} {token : Token}
      (hindex : s.handed[index]? = some (name, token)) :
      Enters s (.cancelToken index) { s with tokens := s.tokens.cancel token }
  /-- It makes a parent without a parent. -/
  | newRoot {name : String} :
      Enters s (.newParent name none)
        { s with tokens := s.tokens.addRoot, parents := s.parents.insert name s.tokens.next }
  /-- It makes a parent under another one. -/
  | newChild {name parent : String} :
      Enters s (.newParent name (some parent))
        { s with
          tokens := s.tokens.addChild (s.parentNamed parent)
          parents := s.parents.insert name s.tokens.next }

/-- Nothing is done about a name that is registered. -/
lemma enter_start_of_some {s : RegistrySession} {name : String} {token : Token}
    (hname : s.registry.get? name = some token) (parent : String) (inside : List RegistryAction) :
    s.enter (.start name parent inside) = (s, []) := by
  simp [enter, Registry.startIfAbsent, hname]

lemma exists_enter_start_of_none {s : RegistrySession} {name : String}
    (hname : s.registry.get? name = none) (parent : String) (inside : List RegistryAction) :
    ∃ log, s.enter (.start name parent inside) =
      ({ s with
         tokens := s.tokens.addChild (s.parentNamed parent)
         registry := s.registry.insert name s.tokens.next
         handed := s.handed ++ [(name, s.tokens.next)]
         log }, inside) := by
  simp [enter, Registry.startIfAbsent, hname, adopt]

/-- An operation does nothing else. -/
theorem enter_cases (s : RegistrySession) (action : RegistryAction) :
    s.Enters action (s.enter action).1 := by
  cases action with
  | start name parent inside =>
    cases hname : s.registry.get? name with
    | none =>
      obtain ⟨log, henter⟩ := exists_enter_start_of_none hname parent inside
      rw [henter]
      exact .start log hname
    | some token =>
      rw [enter_start_of_some hname]
      exact .idle s.log (by simp [Deed.IsIdle, hname])
  | stop name =>
    simp only [enter, act, Registry.stop]
    cases hname : s.registry.get? name with
    | none => exact .idle _ hname
    | some token => exact .stop _ hname
  | stopAll => exact .stopAll _
  | contains name => exact .idle s.log trivial
  | names => exact .idle s.log trivial
  | cancelParent name => exact .cancelParent
  | cancelToken index =>
    simp only [enter, act]
    cases hindex : s.handed[index]? with
    | none => exact .idle s.log hindex
    | some entry => exact .cancelToken hindex
  | newParent name parent =>
    cases parent with
    | none => exact .newRoot
    | some parent => exact .newChild

end RegistrySession

/-! ## What a deed leaves behind -/

namespace Deed

variable {d : Deed} {name : String} {token : Token}

lemma enters_after (d : Deed) : d.session.Enters d.action d.after :=
  d.session.enter_cases d.action

/-- The tokens that were cancelled directly: those of before, and what the deed cancels. -/
theorem mem_fired_after :
    token ∈ d.after.tokens.fired ↔ token ∈ d.session.tokens.fired ∨ d.Fires token := by
  have henters := d.enters_after
  generalize d.after = after at henters ⊢
  obtain ⟨s, action⟩ := d
  cases henters with
  | idle log hidle => simp [hidle.not_fires]
  | start log hname => simp [Fires, Removes, CancelsToken, CancelsParent]
  | stop log hname =>
    simp only [Tokens.mem_fired_cancel]
    rw [or_comm]
    simp [Fires, Removes, CancelsToken, CancelsParent, hname, eq_comm]
  | stopAll log =>
    rw [Tokens.mem_fired_cancelAll, or_comm]
    simp [Fires, Removes, CancelsToken, CancelsParent, Table.get?_eq_some_iff]
  | cancelParent =>
    rw [Tokens.mem_fired_cancel, or_comm]
    simp [Fires, Removes, CancelsToken, CancelsParent, eq_comm]
  | cancelToken hindex =>
    rw [Tokens.mem_fired_cancel, or_comm]
    simp [Fires, Removes, CancelsToken, CancelsParent, hindex, eq_comm]
  | newRoot =>
    simp [Fires, Removes, CancelsToken, CancelsParent, Tokens.addRoot]
  | newChild => simp [Fires, Removes, CancelsToken, CancelsParent]

/-- What is registered: the new name, and the names of before but for those that were removed. -/
theorem get?_after_eq_some_iff :
    d.after.registry.get? name = some token ↔
      (∃ parent, d.HandsOut name token parent) ∨
        (d.session.registry.get? name = some token ∧ ¬ d.Removes name token) := by
  have henters := d.enters_after
  generalize d.after = after at henters ⊢
  obtain ⟨s, action⟩ := d
  cases henters with
  | idle log hidle => simp [hidle.not_handsOut, hidle.not_removes]
  | @start started parent inside log hname =>
    simp only [HandsOut, Removes, Table.get?_insert]
    by_cases h : name = started
    · subst h
      simp [hname]
    · simp [h, Ne.symm h]
  | @stop stopped removed log hname =>
    simp only [HandsOut, Removes, Table.get?_erase]
    by_cases h : name = stopped
    · subst h
      simp [hname]
    · simp [h, Ne.symm h]
  | stopAll log => simp [HandsOut, Removes]
  | cancelParent => simp [HandsOut, Removes]
  | cancelToken hindex => simp [HandsOut, Removes]
  | newRoot => simp [HandsOut, Removes]
  | newChild => simp [HandsOut, Removes]

/-- What was handed out: the tokens of before, and then the new one. -/
theorem exists_handed_after (d : Deed) :
    ∃ fresh, d.after.handed = d.session.handed ++ fresh ∧ fresh.length ≤ 1 ∧
      ∀ name token, (name, token) ∈ fresh ↔ ∃ parent, d.HandsOut name token parent := by
  have henters := d.enters_after
  generalize d.after = after at henters ⊢
  obtain ⟨s, action⟩ := d
  have hnone {after : RegistrySession} (hafter : after.handed = s.handed)
      (hout : ∀ name token parent, ¬ HandsOut ⟨s, action⟩ name token parent) :
      ∃ fresh, after.handed = s.handed ++ fresh ∧ fresh.length ≤ 1 ∧
        ∀ name token, (name, token) ∈ fresh ↔
          ∃ parent, HandsOut ⟨s, action⟩ name token parent :=
    ⟨[], by rw [hafter, List.append_nil], Nat.zero_le 1, by simp [hout]⟩
  cases henters with
  | idle log hidle => exact hnone rfl fun _ _ => hidle.not_handsOut
  | @start started parent inside log hname =>
    refine ⟨[(started, s.tokens.next)], rfl, Nat.le_refl 1, fun name token => ?_⟩
    simp only [HandsOut, List.mem_singleton, Prod.mk.injEq, RegistryAction.start.injEq]
    constructor
    · rintro ⟨rfl, rfl⟩
      exact ⟨_, parent, inside, ⟨rfl, rfl, rfl⟩, hname, rfl, rfl⟩
    · rintro ⟨_, _, _, ⟨rfl, -, -⟩, -, rfl, -⟩
      exact ⟨rfl, rfl⟩
  | stop log hname => exact hnone rfl (by simp [HandsOut])
  | stopAll log => exact hnone rfl (by simp [HandsOut])
  | cancelParent => exact hnone rfl (by simp [HandsOut])
  | cancelToken hindex => exact hnone rfl (by simp [HandsOut])
  | newRoot => exact hnone rfl (by simp [HandsOut])
  | newChild => exact hnone rfl (by simp [HandsOut])

lemma mem_handed_after :
    (name, token) ∈ d.after.handed ↔
      (name, token) ∈ d.session.handed ∨ ∃ parent, d.HandsOut name token parent := by
  obtain ⟨fresh, hfresh, -, hmem⟩ := d.exists_handed_after
  rw [hfresh, List.mem_append, hmem]

/-- The parents: those of before, and the new one. -/
theorem get?_parents_after (h : d.after.parents.get? name = some token) :
    d.session.parents.get? name = some token ∨ ∃ parent, d.MakesParent token parent := by
  have henters := d.enters_after
  generalize d.after = after at henters h
  obtain ⟨s, action⟩ := d
  cases henters with
  | newRoot =>
    simp only [Table.get?_insert] at h
    split at h
    · exact .inr ⟨none, _, none, rfl, Option.some.inj h, rfl⟩
    · exact .inl h
  | @newChild _ parent =>
    simp only [Table.get?_insert] at h
    split at h
    · exact .inr ⟨_, _, some parent, rfl, Option.some.inj h, rfl⟩
    · exact .inl h
  | _ => exact .inl h

/-! ### The forest of tokens -/

/-- The token that is handed out is new. -/
lemma HandsOut.token_eq {parent : Token} (h : d.HandsOut name token parent) :
    token = d.session.tokens.next := by
  obtain ⟨parentName, inside, -, -, rfl, -⟩ := h
  rfl

/-- The token that is handed out is a child of its parent. -/
lemma HandsOut.tokens_after {parent : Token} (h : d.HandsOut name token parent) :
    d.after.tokens = d.session.tokens.addChild parent := by
  obtain ⟨s, action⟩ := d
  obtain ⟨parentName, inside, haction, hname, -, rfl⟩ := h
  obtain rfl : action = .start name parentName inside := haction
  obtain ⟨log, henter⟩ := RegistrySession.exists_enter_start_of_none hname parentName inside
  show (s.enter _).1.tokens = _
  rw [henter]

/-- A parent that is made is new. -/
lemma MakesParent.token_eq {parent : Option Token} (h : d.MakesParent token parent) :
    token = d.session.tokens.next := by
  obtain ⟨_, parentName, -, rfl, -⟩ := h
  rfl

/-- A parent that is made stands under its parent, if it has one. -/
lemma MakesParent.tokens_after {parent : Option Token} (h : d.MakesParent token parent) :
    d.after.tokens = match parent with
      | none => d.session.tokens.addRoot
      | some parent => d.session.tokens.addChild parent := by
  obtain ⟨s, action⟩ := d
  obtain ⟨_, parentName, haction, -, rfl⟩ := h
  obtain rfl : action = .newParent _ parentName := haction
  cases parentName with
  | none => rfl
  | some parentName => rfl

/-- The lineage of a token stays as it is. -/
theorem lineage_after (h : token < d.session.tokens.next) :
    d.after.tokens.lineage token = d.session.tokens.lineage token := by
  have henters := d.enters_after
  generalize d.after = after at henters ⊢
  obtain ⟨s, action⟩ := d
  cases henters with
  | idle | stop | cancelParent | cancelToken => rfl
  | stopAll => simp
  | start | newChild => exact Tokens.lineage_addChild_of_lt _ h
  | newRoot => exact Tokens.lineage_addRoot_of_lt h

end Deed

/-! ## From point to point -/

namespace RegistrySession

lemma actAll_append (s : RegistrySession) (xs ys : List RegistryAction) :
    (s.actAll (xs ++ ys)).1 = ((s.actAll xs).1.actAll ys).1 := by
  induction xs generalizing s with
  | nil => rfl
  | cons x xs ih => exact ih (s.act x).1

/-- What a start under a registered name does and answers. -/
lemma act_start_of_some {s : RegistrySession} {name : String} {token : Token}
    (hname : s.registry.get? name = some token) (parent : String) (inside : List RegistryAction) :
    s.act (.start name parent inside) = (s, .started false []) := by
  simp [act, Registry.startIfAbsent, hname]

/-- What a start under a name that is not registered does and answers. -/
lemma act_start_of_none {s : RegistrySession} {name : String}
    (hname : s.registry.get? name = none) (parent : String) (inside : List RegistryAction) :
    s.act (.start name parent inside) =
      (((s.enter (.start name parent inside)).1.actAll inside).1,
        .started true ((s.enter (.start name parent inside)).1.actAll inside).2) := by
  simp [act, enter, Registry.startIfAbsent, hname, adopt]

/-- An operation is done when what it does itself and the operations inside it are done. -/
lemma act_eq_actAll_enter (s : RegistrySession) (action : RegistryAction) :
    (s.act action).1 = ((s.enter action).1.actAll (s.enter action).2).1 := by
  cases action with
  | start name parent inside =>
    cases hname : s.registry.get? name with
    | some token =>
      rw [act_start_of_some hname, enter_start_of_some hname]
      rfl
    | none =>
      obtain ⟨log, henter⟩ := exists_enter_start_of_none hname parent inside
      rw [act_start_of_none hname, henter]
  | _ => rfl

/-- The points of a session: what was done by then, oldest first, the session, and what is still to
be done. -/
inductive Passes (actions : List RegistryAction) :
    List Deed → RegistrySession → List RegistryAction → Prop where
  /-- Nothing has been done. -/
  | start : Passes actions [] {} actions
  /-- One more operation has been done; the operations inside it come next. -/
  | next {past : List Deed} {s : RegistrySession} {action : RegistryAction}
      {rest : List RegistryAction} (h : Passes actions past s (action :: rest)) :
      Passes actions (past ++ [⟨s, action⟩]) (s.enter action).1 ((s.enter action).2 ++ rest)

namespace Passes

variable {actions rest : List RegistryAction} {past : List Deed} {s : RegistrySession}

/-- Every point lies on the way to the end of the session. -/
theorem actAll_eq (h : Passes actions past s rest) :
    (s.actAll rest).1 = (({} : RegistrySession).actAll actions).1 := by
  induction h with
  | start => rfl
  | @next past s action rest h ih =>
    rw [actAll_append, ← act_eq_actAll_enter, ← ih]
    rfl

mutual

/-- From a point one comes to the end of the operation that is next. -/
lemma exists_act (s : RegistrySession) : ∀ action past rest,
    Passes actions past s (action :: rest) → ∃ later, Passes actions later (s.act action).1 rest
  | .start name parent inside, past, rest, h => by
    have hnext := h.next
    rw [act_eq_actAll_enter]
    cases hname : s.registry.get? name with
    | some token =>
      rw [enter_start_of_some hname] at hnext ⊢
      exact ⟨_, hnext⟩
    | none =>
      obtain ⟨log, henter⟩ := exists_enter_start_of_none hname parent inside
      rw [henter] at hnext ⊢
      exact exists_actAll _ inside _ rest hnext
  | .stop name, past, rest, h => ⟨_, h.next⟩
  | .stopAll, past, rest, h => ⟨_, h.next⟩
  | .contains name, past, rest, h => ⟨_, h.next⟩
  | .names, past, rest, h => ⟨_, h.next⟩
  | .cancelParent name, past, rest, h => ⟨_, h.next⟩
  | .cancelToken index, past, rest, h => ⟨_, h.next⟩
  | .newParent name parent, past, rest, h => ⟨_, h.next⟩

/-- From a point one comes to the end of the operations that are next. -/
lemma exists_actAll (s : RegistrySession) : ∀ todo past rest,
    Passes actions past s (todo ++ rest) → ∃ later, Passes actions later (s.actAll todo).1 rest
  | [], past, rest, h => ⟨past, h⟩
  | action :: todo, past, rest, h => by
    obtain ⟨mid, hmid⟩ := exists_act s action past (todo ++ rest) h
    exact exists_actAll _ todo mid rest hmid

end

/-- From a point one comes to the end of the session, which is a point too. -/
theorem exists_end (h : Passes actions past s rest) :
    ∃ later, Passes actions later (({} : RegistrySession).actAll actions).1 [] := by
  rw [← h.actAll_eq]
  refine exists_actAll s rest past [] ?_
  rwa [List.append_nil]

end Passes

end RegistrySession

end BackupMonitor
