import BackupMonitor.Backup.Tracked
import BackupMonitor.Resource.Event
import Mathlib.Tactic.Lemma

/-!
# What the state of a backup says

A state of a backup says an outcome or not, whatever was tracked of the backup before. Here that
is spelled out in terms of the fields of the object:

* `Outcome.ofBackup_eq_success_iff`: it says a success exactly if the phase is `completed` and
  both times are texts that can be read as timestamps;
* `Outcome.ofBackup_eq_failure_iff`: it says a failure exactly if the phase is `failed` and the
  error is a text or absent;
* `Tracked.observe_result`: an observation answers with what the state says.
-/

namespace BackupMonitor

/-! ## Reading a text by its path -/

namespace Json

variable {v : Json} {path : List String}

/-- A text is read where one stands. -/
lemma textAt_eq_some_iff {s : String} :
    v.textAt path = .ok (some s) ↔ v.at? path = some (.string s) := by
  unfold textAt
  split <;> simp_all

/-- Nothing is read where nothing or `null` stands. -/
lemma textAt_eq_none_iff :
    v.textAt path = .ok none ↔ v.at? path = none ∨ v.at? path = some .null := by
  unfold textAt
  split <;> simp_all

end Json

/-! ## Phases that end a backup -/

namespace Phase

lemma parse_eq_completed_iff {raw : Option String} :
    parse raw = completed ↔ raw = some "completed" := by
  unfold parse
  split
  · simp
  · grind

lemma parse_eq_failed_iff {raw : Option String} : parse raw = failed ↔ raw = some "failed" := by
  unfold parse
  split
  · simp
  · grind

/-- The phase of a backup can be read if a text or nothing stands there. -/
lemma ofBackup_eq_ok_iff {backup : Object} {phase : Phase} :
    ofBackup backup = .ok phase ↔ ∃ raw, backup.textAt path = .ok raw ∧ parse raw = phase := by
  unfold ofBackup
  split <;> simp_all

/-- A backup is completed if its phase is the text `completed`. -/
lemma ofBackup_eq_completed_iff {backup : Object} :
    ofBackup backup = .ok completed ↔ backup.content.at? path = some (.string "completed") := by
  rw [ofBackup_eq_ok_iff, ← Json.textAt_eq_some_iff]
  simp only [parse_eq_completed_iff, exists_eq_right]
  rfl

/-- A backup has failed if its phase is the text `failed`. -/
lemma ofBackup_eq_failed_iff {backup : Object} :
    ofBackup backup = .ok failed ↔ backup.content.at? path = some (.string "failed") := by
  rw [ofBackup_eq_ok_iff, ← Json.textAt_eq_some_iff]
  simp only [parse_eq_failed_iff, exists_eq_right]
  rfl

end Phase

/-! ## Outcomes -/

namespace Outcome

variable {backup : Object}

/-- A timestamp can be read at a path if a text stands there that can be parsed. -/
lemma timestampAt_eq_ok_iff {path : List String} {t : Timestamp} :
    timestampAt backup path = .ok t ↔
      ∃ raw, backup.content.at? path = some (.string raw) ∧ Timestamp.parse? raw = some t := by
  simp only [← Json.textAt_eq_some_iff]
  unfold timestampAt Object.textAt
  split
  · simp_all
  · simp_all
  · next raw hraw =>
    rw [hraw]
    cases hparse : Timestamp.parse? raw <;> simp [hparse]

/-- Both times are read. -/
lemma timesOf_eq_ok_iff {startedAt stoppedAt : Timestamp} :
    timesOf backup = .ok (startedAt, stoppedAt) ↔
      timestampAt backup startedAtPath = .ok startedAt ∧
        timestampAt backup stoppedAtPath = .ok stoppedAt := by
  unfold timesOf
  split
  · simp_all
  · split <;> simp_all

/-- The error of a failed backup is the text that stands there, and a fixed one if none does. -/
lemma errorOf_eq_ok_iff {error : String} :
    errorOf backup = .ok error ↔
      backup.content.at? errorPath = some (.string error) ∨
        (backup.content.at? errorPath = none ∨ backup.content.at? errorPath = some .null) ∧
          error = unknownError := by
  rw [← Json.textAt_eq_some_iff, ← Json.textAt_eq_none_iff]
  unfold errorOf Object.textAt
  split
  · simp_all
  · next raw hraw =>
    rw [hraw]
    cases raw <;> simp [eq_comm]

/-- Only a phase that ends a backup comes with an outcome. -/
lemma ofPhase_eq_some_iff {phase : Phase} {outcome : Outcome} :
    ofPhase backup phase = .ok (some outcome) ↔
      (phase = .completed ∧ ∃ startedAt stoppedAt, timesOf backup = .ok (startedAt, stoppedAt) ∧
        outcome = success (stoppedAt.since startedAt) stoppedAt) ∨
      (phase = .failed ∧ ∃ error, errorOf backup = .ok error ∧ outcome = failure error) := by
  cases phase with
  | completed =>
    cases htimes : timesOf backup with
    | error e => simp [ofPhase, htimes]
    | ok times => simp [ofPhase, htimes, Prod.ext_iff, and_assoc, eq_comm (a := outcome)]
  | failed =>
    cases herror : errorOf backup with
    | error e => simp [ofPhase, herror]
    | ok error => simp [ofPhase, herror, eq_comm]
  | unset => simp [ofPhase]
  | running => simp [ofPhase]
  | other name => simp [ofPhase]

lemma ofBackup_eq_some_iff {outcome : Outcome} :
    ofBackup backup = .ok (some outcome) ↔
      ∃ phase, Phase.ofBackup backup = .ok phase ∧ ofPhase backup phase = .ok (some outcome) := by
  unfold ofBackup
  split <;> simp_all

/-- When a state says a success, and which. -/
theorem ofBackup_eq_success_iff {duration : TimeDelta} {stoppedAt : Timestamp} :
    ofBackup backup = .ok (some (success duration stoppedAt)) ↔
      backup.content.at? Phase.path = some (.string "completed") ∧
        ∃ startedAt, timestampAt backup startedAtPath = .ok startedAt ∧
          timestampAt backup stoppedAtPath = .ok stoppedAt ∧
          duration = stoppedAt.since startedAt := by
  rw [ofBackup_eq_some_iff, ← Phase.ofBackup_eq_completed_iff]
  simp only [ofPhase_eq_some_iff, timesOf_eq_ok_iff]
  constructor
  · rintro ⟨phase, hphase, ⟨rfl, startedAt, stopped, ⟨hstarted, hstopped⟩, heq⟩ | ⟨-, _, -, heq⟩⟩
    · obtain ⟨rfl, rfl⟩ := success.inj heq
      exact ⟨hphase, startedAt, hstarted, hstopped, rfl⟩
    · cases heq
  · rintro ⟨hphase, startedAt, hstarted, hstopped, rfl⟩
    exact ⟨.completed, hphase, .inl ⟨rfl, startedAt, stoppedAt, ⟨hstarted, hstopped⟩, rfl⟩⟩

/-- When a state says a failure, and which. -/
theorem ofBackup_eq_failure_iff {error : String} :
    ofBackup backup = .ok (some (failure error)) ↔
      backup.content.at? Phase.path = some (.string "failed") ∧ errorOf backup = .ok error := by
  rw [ofBackup_eq_some_iff, ← Phase.ofBackup_eq_failed_iff]
  simp only [ofPhase_eq_some_iff]
  constructor
  · rintro ⟨phase, hphase, ⟨-, _, _, -, heq⟩ | ⟨rfl, error', herror, heq⟩⟩
    · cases heq
    · obtain rfl := failure.inj heq
      exact ⟨hphase, herror⟩
  · rintro ⟨hphase, herror⟩
    exact ⟨.failed, hphase, .inr ⟨rfl, error, herror, rfl⟩⟩

end Outcome

/-- An observation of a backup answers with what its state says, whatever is tracked. -/
theorem Tracked.observe_result (tracked : Tracked) {backup : Object} {name : String}
    (hname : backup.name = some name) :
    (tracked.observe backup).result = Outcome.ofBackup backup := by
  unfold observe Outcome.ofBackup
  rw [hname]
  cases Phase.ofBackup backup with
  | error cause => rfl
  | ok phase =>
    show _ = Outcome.ofPhase backup phase
    cases hphase : Outcome.ofPhase backup phase with
    | error e => simp [hphase]
    | ok outcome => cases outcome <;> simp [hphase]

end BackupMonitor
