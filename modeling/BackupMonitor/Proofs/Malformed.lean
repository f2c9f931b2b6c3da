import BackupMonitor.Proofs.Contribution

/-!
# Malformed backups

The state of a backup cannot always be taken in. `Object.IsMalformed` spells out when, field by
field, and `Tracked.observe_eq_error_iff` shows that an observation fails for these backups and no
others, whatever is tracked.

An observation that fails does not always leave what is tracked as it was. A backup that has ended
and of which only the times or the error are malformed is tracked once it is seen, since its phase
can be read; `Tracked.observe_malformed` says that nothing else is ever changed.
-/

namespace BackupMonitor

namespace Table

variable {α : Type} {t : Table α} {name : String}

lemma length_insertEntry_of_fresh (value : α) {entries : List (String × α)}
    (h : lookup name entries = none) :
    (insertEntry name value entries).length = entries.length + 1 := by
  induction entries with
  | nil => rfl
  | cons head rest ih =>
    obtain ⟨key, old⟩ := head
    simp only [lookup] at h
    split at h
    · cases h
    next hne => simp only [insertEntry, hne, if_false]; split <;> simp [ih h]

/-- A new name makes a table larger by one. -/
lemma size_insert_of_fresh (h : t.get? name = none) (value : α) :
    (t.insert name value).size = t.size + 1 :=
  length_insertEntry_of_fresh value h

end Table

/-! ## Backups that cannot be taken in -/

/-- Something stands at the path that is neither a text nor `null`. -/
def Json.IsMistyped (v : Json) (path : List String) : Prop :=
  ∃ value, v.at? path = some value ∧ value ≠ .null ∧ ∀ text, value ≠ .string text

/-- A text stands at the path that can be read as a timestamp. -/
def Json.HasTimestamp (v : Json) (path : List String) : Prop :=
  ∃ text t, v.at? path = some (.string text) ∧ Timestamp.parse? text = some t

/-- What can be wrong with the state of a backup. -/
inductive Object.IsMalformed (backup : Object) : Prop where
  /-- The backup has no name. -/
  | nameless (hname : backup.name = none)
  /-- The phase is no text. -/
  | phase (hphase : backup.content.IsMistyped ["status", "phase"])
  /-- The backup completed, and the time at which it started is absent or no timestamp. -/
  | startedAt (hphase : backup.content.at? ["status", "phase"] = some (.string "completed"))
      (htime : ¬ backup.content.HasTimestamp ["status", "startedAt"])
  /-- The backup completed, and the time at which it stopped is absent or no timestamp. -/
  | stoppedAt (hphase : backup.content.at? ["status", "phase"] = some (.string "completed"))
      (htime : ¬ backup.content.HasTimestamp ["status", "stoppedAt"])
  /-- The backup failed with an error that is no text. -/
  | error (hphase : backup.content.at? ["status", "phase"] = some (.string "failed"))
      (herror : backup.content.IsMistyped ["status", "error"])

namespace Json

variable {v : Json} {path : List String}

lemma textAt_eq_error_iff : (∃ e, v.textAt path = .error e) ↔ v.IsMistyped path := by
  unfold textAt IsMistyped
  cases v.at? path with
  | none => simp
  | some value => cases value <;> simp

end Json

namespace Outcome

variable {backup : Object}

lemma timestampAt_eq_error_iff {path : List String} :
    (∃ e, timestampAt backup path = .error e) ↔ ¬ backup.content.HasTimestamp path := by
  have hok : backup.content.HasTimestamp path ↔ ∃ t, timestampAt backup path = .ok t := by
    simp only [timestampAt_eq_ok_iff]
    exact exists_comm
  rw [hok]
  cases timestampAt backup path <;> simp

/-- The times of a completed backup are unknown as soon as one of them is. -/
lemma timesOf_eq_error_iff :
    (∃ e, timesOf backup = .error e) ↔
      ¬ backup.content.HasTimestamp startedAtPath ∨
        ¬ backup.content.HasTimestamp stoppedAtPath := by
  rw [← timestampAt_eq_error_iff, ← timestampAt_eq_error_iff, timesOf]
  cases timestampAt backup startedAtPath with
  | error e => simp
  | ok startedAt => cases timestampAt backup stoppedAtPath <;> simp

lemma errorOf_eq_error_iff :
    (∃ e, errorOf backup = .error e) ↔ backup.content.IsMistyped errorPath := by
  rw [← Json.textAt_eq_error_iff, errorOf, Object.textAt]
  cases backup.content.textAt errorPath <;> simp

/-- Only the end of a backup has anything that can be malformed beside the phase. -/
lemma ofPhase_eq_error_iff {phase : Phase} :
    (∃ e, ofPhase backup phase = .error e) ↔
      (phase = .completed ∧ (¬ backup.content.HasTimestamp startedAtPath ∨
        ¬ backup.content.HasTimestamp stoppedAtPath)) ∨
      (phase = .failed ∧ backup.content.IsMistyped errorPath) := by
  rw [← timesOf_eq_error_iff, ← errorOf_eq_error_iff]
  cases phase with
  | completed => cases htimes : timesOf backup <;> simp [ofPhase, htimes]
  | failed => cases herror : errorOf backup <;> simp [ofPhase, herror]
  | unset => simp [ofPhase]
  | running => simp [ofPhase]
  | other name => simp [ofPhase]

lemma isTerminal_of_ofPhase_eq_error {phase : Phase} {e : DataError}
    (h : ofPhase backup phase = .error e) : phase.isTerminal = true := by
  rcases ofPhase_eq_error_iff.mp ⟨e, h⟩ with ⟨rfl, -⟩ | ⟨rfl, -⟩ <;> rfl

end Outcome

lemma Phase.ofBackup_eq_error_iff {backup : Object} :
    (∃ cause, ofBackup backup = .error cause) ↔ backup.content.IsMistyped path := by
  rw [← Json.textAt_eq_error_iff, ofBackup, Object.textAt]
  cases backup.content.textAt path <;> simp

namespace Tracked

variable {tracked : Tracked} {backup : Object} {name : String} {phase : Phase}

/-! ## Observations that fail -/

/-- An observation of a backup whose phase can be read fails if its end is malformed. -/
lemma observe_eq_error_of_phase (hname : backup.name = some name)
    (hphase : Phase.ofBackup backup = .ok phase) {e : DataError} :
    (tracked.observe backup).result = .error e ↔ Outcome.ofPhase backup phase = .error e := by
  rw [observe_result tracked hname, Outcome.ofBackup, hphase]

/-- An observation fails exactly if the backup is malformed, whatever is tracked. -/
theorem observe_eq_error_iff (tracked : Tracked) (backup : Object) :
    (∃ e, (tracked.observe backup).result = .error e) ↔ backup.IsMalformed := by
  cases hname : backup.name with
  | none =>
    have herror : (tracked.observe backup).result = .error (.missing "metadata.name") := by
      simp [observe, hname]
    exact ⟨fun _ => .nameless hname, fun _ => ⟨_, herror⟩⟩
  | some name =>
    cases hphase : Phase.ofBackup backup with
    | error cause =>
      have herror : (tracked.observe backup).result = .error (.field cause) := by
        rw [observe_result tracked hname, Outcome.ofBackup, hphase]
      exact ⟨fun _ => .phase (Phase.ofBackup_eq_error_iff.mp ⟨cause, hphase⟩),
        fun _ => ⟨_, herror⟩⟩
    | ok phase =>
      simp only [observe_eq_error_of_phase hname hphase, Outcome.ofPhase_eq_error_iff]
      constructor
      · rintro (⟨rfl, htime | htime⟩ | ⟨rfl, herror⟩)
        · exact .startedAt (Phase.ofBackup_eq_completed_iff.mp hphase) htime
        · exact .stoppedAt (Phase.ofBackup_eq_completed_iff.mp hphase) htime
        · exact .error (Phase.ofBackup_eq_failed_iff.mp hphase) herror
      · intro h
        cases h with
        | nameless hnone => exact absurd (hname.symm.trans hnone) (Option.some_ne_none name)
        | phase hmistyped =>
          obtain ⟨cause, hcause⟩ := Phase.ofBackup_eq_error_iff.mpr hmistyped
          cases hphase.symm.trans hcause
        | startedAt hcompleted htime =>
          have hend : phase = .completed :=
            Except.ok.inj (hphase.symm.trans (Phase.ofBackup_eq_completed_iff.mpr hcompleted))
          exact .inl ⟨hend, .inl htime⟩
        | stoppedAt hcompleted htime =>
          have hend : phase = .completed :=
            Except.ok.inj (hphase.symm.trans (Phase.ofBackup_eq_completed_iff.mpr hcompleted))
          exact .inl ⟨hend, .inr htime⟩
        | error hfailed herror =>
          have hend : phase = .failed :=
            Except.ok.inj (hphase.symm.trans (Phase.ofBackup_eq_failed_iff.mpr hfailed))
          exact .inr ⟨hend, herror⟩

/-! ## What is tracked after an observation that failed -/

/-- A backup that is new and whose phase can be read. -/
structure Discovers (tracked : Tracked) (backup : Object) (name : String) (phase : Phase) :
    Prop where
  /-- The backup has a name. -/
  named : backup.name = some name
  /-- The phase can be read. -/
  readable : Phase.ofBackup backup = .ok phase
  /-- The backup is not tracked. -/
  fresh : tracked.get? name = none

/-- A backup that is new and whose end is malformed is tracked under its phase. -/
lemma observe_of_discovers {e : DataError} (h : (tracked.observe backup).result = .error e)
    (hnew : tracked.Discovers backup name phase) :
    phase.isTerminal = true ∧ (tracked.observe backup).tracked = tracked.insert name phase := by
  have hend : Outcome.ofPhase backup phase = .error e :=
    (observe_eq_error_of_phase hnew.named hnew.readable).mp h
  refine ⟨Outcome.isTerminal_of_ofPhase_eq_error hend, ?_⟩
  simp [observe, hnew.named, hnew.readable, hend, discover, hnew.fresh]

/-- Any other observation that fails leaves alone what is tracked. -/
lemma observe_of_not_discovers {e : DataError} (h : (tracked.observe backup).result = .error e)
    (hold : ¬ ∃ name phase, tracked.Discovers backup name phase) :
    (tracked.observe backup).tracked = tracked := by
  cases hname : backup.name with
  | none => simp [observe, hname]
  | some name =>
    cases hphase : Phase.ofBackup backup with
    | error cause => simp [observe, hname, hphase]
    | ok phase =>
      have hend : Outcome.ofPhase backup phase = .error e :=
        (observe_eq_error_of_phase hname hphase).mp h
      have hknown : (tracked.get? name).isSome = true := by
        rw [Option.isSome_iff_ne_none]
        exact fun hfresh => hold ⟨name, phase, hname, hphase, hfresh⟩
      simp [observe, hname, hphase, hend, discover, hknown]

/-- An observation fails exactly if the backup is malformed. Then it leaves alone what is tracked,
unless the backup is new and its phase can be read: such a backup has ended, and it is tracked
under its phase from then on. -/
theorem observe_malformed (tracked : Tracked) (backup : Object) :
    ((∃ e, (tracked.observe backup).result = .error e) ↔ backup.IsMalformed) ∧
    (backup.IsMalformed →
      ((tracked.observe backup).tracked = tracked ↔
        ¬ ∃ name phase, tracked.Discovers backup name phase) ∧
      ∀ name phase, tracked.Discovers backup name phase →
        phase.isTerminal = true ∧
        (tracked.observe backup).tracked = tracked.insert name phase ∧
        (tracked.observe backup).tracked.size = tracked.size + 1) := by
  refine ⟨observe_eq_error_iff tracked backup, fun hmalformed => ?_⟩
  obtain ⟨e, he⟩ := (observe_eq_error_iff tracked backup).mpr hmalformed
  refine ⟨⟨?_, observe_of_not_discovers he⟩, ?_⟩
  · rintro hsame ⟨name, phase, hnew⟩
    have hadded := congrArg (·.get? name) (observe_of_discovers he hnew).2
    simp [hsame, hnew.fresh] at hadded
  · intro name phase hnew
    obtain ⟨hterminal, hadded⟩ := observe_of_discovers he hnew
    exact ⟨hterminal, hadded, by rw [hadded, Table.size_insert_of_fresh hnew.fresh phase]⟩

/-! ## Sets that can come up -/

/-- What can come to be tracked: backups are observed and forgotten one after the other. -/
inductive Reached : Tracked → Prop where
  /-- Nothing has been observed yet. -/
  | empty : Reached ∅
  /-- A backup was observed. -/
  | observed {tracked : Tracked} (backup : Object) (h : Reached tracked) :
      Reached (tracked.observe backup).tracked
  /-- A backup was forgotten. -/
  | forgotten {tracked : Tracked} (name : String) (h : Reached tracked) :
      Reached (tracked.erase name)

end Tracked

namespace Sample

/-- A backup that completed and states no times. -/
def timeless (name : String) : Object :=
  backup name [("phase", .string "completed")]

end Sample

/-- A backup that completed without times is tracked when it is seen for the first time, and makes
no difference when it is seen again. -/
theorem Tracked.observe_malformed_timeless :
    (Sample.timeless "b1").IsMalformed ∧
      ((∅ : Tracked).observe (Sample.timeless "b1")).tracked = .singleton "b1" .completed ∧
      (Tracked.observe (.singleton "b1" .completed) (Sample.timeless "b1")).tracked =
        .singleton "b1" .completed := by
  have hmalformed : (Sample.timeless "b1").IsMalformed :=
    (Tracked.observe_malformed ∅ (Sample.timeless "b1")).1.mp
      ⟨.missing "status.startedAt", rfl⟩
  refine ⟨hmalformed, ?_, ?_⟩
  · have hnew : (∅ : Tracked).Discovers (Sample.timeless "b1") "b1" .completed := ⟨rfl, rfl, rfl⟩
    exact (((Tracked.observe_malformed ∅ _).2 hmalformed).2 _ _ hnew).2.1
  · refine ((Tracked.observe_malformed _ _).2 hmalformed).1.mpr ?_
    rintro ⟨name, phase, hname, -, hfresh⟩
    obtain rfl := Option.some.inj hname
    cases hfresh

/-- A malformed backup does change what is tracked if it is the first that is seen of it. -/
theorem Tracked.not_unchanged_of_malformed :
    ¬ ∀ (tracked : Tracked) (backup : Object) (e : DataError), tracked.Reached →
      (tracked.observe backup).result = .error e → (tracked.observe backup).tracked = tracked := by
  intro hclaim
  have hsame := hclaim ∅ (Sample.timeless "b1") (.missing "status.startedAt") .empty rfl
  have hsize : ((∅ : Tracked).observe (Sample.timeless "b1")).tracked.size = 1 := rfl
  rw [hsame] at hsize
  cases hsize

end BackupMonitor
