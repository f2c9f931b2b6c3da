import BackupMonitor.Engine.Tracker
import BackupMonitor.Proofs.Outcome

/-!
# What an event contributes

`Event.report?` is the report that an event makes for the tracker of a schedule, taken on its own:
it is computed from the event alone. `Event.report?_eq_some_iff` compares it with
`Event.Contributes`, which spells out the condition and the wording field by field, and
`Tracker.react_report` shows that a tracker makes exactly this report, whatever it tracks.
-/

namespace BackupMonitor

/-- An object is owned by a schedule if one of its owners is of the kind of schedules and has the
name. -/
lemma Object.isOwnedBySchedule_iff {o : Object} {schedule : String} :
    o.isOwnedBySchedule schedule = true ↔ ∃ owners, o.owners = some owners ∧
      { kind := "ScheduledBackup", name := schedule : Owner } ∈ owners := by
  unfold isOwnedBySchedule isOwnedBy
  cases howners : o.owners with
  | none => simp
  | some owners =>
    simp only [List.any_eq_true, Bool.and_eq_true, beq_iff_eq, Option.some.injEq, exists_eq_left']
    constructor
    · rintro ⟨owner, hmem, hkind, hname⟩
      have howner : owner = { kind := "ScheduledBackup", name := schedule } := by
        rw [← hname]
        exact congrArg (Owner.mk · owner.name) hkind
      exact howner ▸ hmem
    · intro hmem
      exact ⟨_, hmem, rfl, rfl⟩

namespace Event

variable {schedule : String} {event : Event}

/-! ## The contribution of an event -/

/-- The event is about a backup of the schedule that appeared or changed. -/
structure Concerns (schedule : String) (event : Event) : Prop where
  /-- The backup appeared or took a new state. -/
  change : event.change = .added ∨ event.change = .modified
  /-- The backup has a name. -/
  name : ∃ name, event.object.name = some name
  /-- The backup refers to the schedule as its owner. -/
  owner : ∃ owners, event.object.owners = some owners ∧
    { kind := "ScheduledBackup", name := schedule : Owner } ∈ owners

/-- When an event makes a report for the tracker of a schedule, and which report. -/
inductive Contributes (schedule : String) (event : Event) : Report → Prop where
  /-- The backup completed, and both of its times can be read. -/
  | success {started stopped : String} {startedAt stoppedAt : Timestamp}
      (hevent : event.Concerns schedule)
      (hphase : event.object.content.at? ["status", "phase"] = some (.string "completed"))
      (hstarted : event.object.content.at? ["status", "startedAt"] = some (.string started))
      (hstopped : event.object.content.at? ["status", "stoppedAt"] = some (.string stopped))
      (hstartedAt : Timestamp.parse? started = some startedAt)
      (hstoppedAt : Timestamp.parse? stopped = some stoppedAt) :
      Contributes schedule event (.success
        ("backup process completed successfully in " ++ (stoppedAt.since startedAt).text ++
          " at " ++ stoppedAt.text)
        (.singleton "duration_seconds" (stoppedAt.since startedAt).seconds))
  /-- The backup failed with an error. -/
  | failure {error : String} (hevent : event.Concerns schedule)
      (hphase : event.object.content.at? ["status", "phase"] = some (.string "failed"))
      (herror : event.object.content.at? ["status", "error"] = some (.string error)) :
      Contributes schedule event (.failure ("backup failed: " ++ error))
  /-- The backup failed and states no error. -/
  | unexplained (hevent : event.Concerns schedule)
      (hphase : event.object.content.at? ["status", "phase"] = some (.string "failed"))
      (herror : event.object.content.at? ["status", "error"] = none ∨
        event.object.content.at? ["status", "error"] = some .null) :
      Contributes schedule event (.failure "backup failed: unknown error")

/-- The outcome that an event says to the tracker of a schedule. -/
def outcome? (schedule : String) (event : Event) : Option Outcome :=
  match event.change, event.object.name with
  | .deleted, _ => none
  | _, none => none
  | _, some _ =>
    if event.object.isOwnedBySchedule schedule then
      match Outcome.ofBackup event.object with
      | .ok outcome => outcome
      | .error _ => none
    else none

/-- The report that an event makes for the tracker of a schedule. -/
def report? (schedule : String) (event : Event) : Option Report :=
  (event.outcome? schedule).map Outcome.report

lemma concerns_iff : event.Concerns schedule ↔
    (event.change = .added ∨ event.change = .modified) ∧
      (∃ name, event.object.name = some name) ∧
      event.object.isOwnedBySchedule schedule = true := by
  rw [Object.isOwnedBySchedule_iff]
  exact ⟨fun h => ⟨h.change, h.name, h.owner⟩, fun ⟨h, h', h''⟩ => ⟨h, h', h''⟩⟩

/-- Only events about a backup of the schedule say an outcome, and they say that of the state. -/
lemma outcome?_eq_some_iff {outcome : Outcome} :
    event.outcome? schedule = some outcome ↔
      event.Concerns schedule ∧ Outcome.ofBackup event.object = .ok (some outcome) := by
  obtain ⟨change, object⟩ := event
  have hstate : (match Outcome.ofBackup object with
      | .ok outcome => outcome
      | .error _ => none) = some outcome ↔ Outcome.ofBackup object = .ok (some outcome) := by
    cases Outcome.ofBackup object <;> simp
  rw [concerns_iff]
  -- both sides ask for the change, the name and the owner before they read the state
  cases change with
  | deleted => simp [outcome?]
  | added =>
    cases hname : object.name with
    | none => simp [outcome?, hname]
    | some name => by_cases howned : object.isOwnedBySchedule schedule <;>
        simp [outcome?, hname, howned, hstate]
  | modified =>
    cases hname : object.name with
    | none => simp [outcome?, hname]
    | some name => by_cases howned : object.isOwnedBySchedule schedule <;>
        simp [outcome?, hname, howned, hstate]

/-- An event makes the report that its fields say, and no other. -/
theorem report?_eq_some_iff {report : Report} :
    event.report? schedule = some report ↔ event.Contributes schedule report := by
  unfold report?
  rw [Option.map_eq_some_iff]
  simp only [outcome?_eq_some_iff]
  constructor
  · rintro ⟨outcome, ⟨hevent, hstate⟩, rfl⟩
    cases outcome with
    | success duration stoppedAt =>
      obtain ⟨hphase, startedAt, hstarted, hstopped, rfl⟩ :=
        Outcome.ofBackup_eq_success_iff.mp hstate
      obtain ⟨started, hstarted, hstartedAt⟩ := Outcome.timestampAt_eq_ok_iff.mp hstarted
      obtain ⟨stopped, hstopped, hstoppedAt⟩ := Outcome.timestampAt_eq_ok_iff.mp hstopped
      exact .success hevent hphase hstarted hstopped hstartedAt hstoppedAt
    | failure error =>
      obtain ⟨hphase, herror⟩ := Outcome.ofBackup_eq_failure_iff.mp hstate
      rcases Outcome.errorOf_eq_ok_iff.mp herror with herror | ⟨hnone, rfl⟩
      · exact .failure hevent hphase herror
      · exact .unexplained hevent hphase hnone
  · intro h
    cases h with
    | success hevent hphase hstarted hstopped hstartedAt hstoppedAt =>
      refine ⟨.success _ _, ⟨hevent, Outcome.ofBackup_eq_success_iff.mpr ⟨hphase, _, ?_, ?_, rfl⟩⟩,
        rfl⟩
      · exact Outcome.timestampAt_eq_ok_iff.mpr ⟨_, hstarted, hstartedAt⟩
      · exact Outcome.timestampAt_eq_ok_iff.mpr ⟨_, hstopped, hstoppedAt⟩
    | failure hevent hphase herror =>
      refine ⟨.failure _, ⟨hevent, Outcome.ofBackup_eq_failure_iff.mpr ⟨hphase, ?_⟩⟩, rfl⟩
      exact Outcome.errorOf_eq_ok_iff.mpr (.inl herror)
    | unexplained hevent hphase herror =>
      refine ⟨.failure Outcome.unknownError,
        ⟨hevent, Outcome.ofBackup_eq_failure_iff.mpr ⟨hphase, ?_⟩⟩, rfl⟩
      exact Outcome.errorOf_eq_ok_iff.mpr (.inr ⟨herror, rfl⟩)

end Event

/-! ## What a tracker makes of an event -/

namespace Tracker

variable {schedule : String} {tracked : Tracked}

/-- A tracker makes the report of the event, whatever it tracks. -/
theorem react_report (schedule : String) (tracked : Tracked) (event : Event) :
    (react schedule tracked event).report = event.report? schedule := by
  obtain ⟨change, object⟩ := event
  -- what is tracked decides what is logged and tracked next, not what the state says
  have hstate (name : String) (hname : object.name = some name) :
      (reactToState schedule name tracked object).report =
        (match Outcome.ofBackup object with
          | .ok outcome => outcome
          | .error _ => none).map Outcome.report := by
    simp only [reactToState, Tracked.observe_result tracked hname]
    cases Outcome.ofBackup object with
    | error e => rfl
    | ok outcome => cases outcome <;> rfl
  cases hname : object.name with
  | none => cases change <;> simp [react, Event.report?, Event.outcome?, hname]
  | some name =>
    by_cases howned : object.isOwnedBySchedule schedule
    · cases change <;>
        simp [react, Event.report?, Event.outcome?, hname, howned, hstate name hname]
    · cases change <;> simp [react, Event.report?, Event.outcome?, hname, howned]

end Tracker

/-! ## Sample backups -/

namespace Sample

/-- A backup of the schedule `nightly` with that status. -/
def backup (name : String) (status : List (String × Json)) : Object where
  name := some name
  owners := some [{ kind := "ScheduledBackup", name := "nightly" }]
  content := .object [("status", .object status)]

/-- A backup that is running. -/
def running (name : String) : Object :=
  backup name [("phase", .string "running")]

/-- A backup that failed for want of space. -/
def failed (name : String) : Object :=
  backup name [("phase", .string "failed"), ("error", .string "disk full")]

example : ({ change := .modified, object := failed "b1" } : Event).report? "nightly" =
    some (.failure "backup failed: disk full") := rfl

end Sample

end BackupMonitor
