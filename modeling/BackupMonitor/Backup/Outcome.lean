import BackupMonitor.Backup.Phase
import BackupMonitor.Log
import BackupMonitor.Time.StoredDelta
import BackupMonitor.Time.Timestamp
/-!
# Outcomes of backups

A backup that has ended has an outcome, which `Outcome.ofBackup` reads off its state alone: a
completed backup took a certain time and ended at a certain instant, a failed one has an error.
-/

namespace BackupMonitor

/-- Why the state of a backup cannot be read. -/
inductive DataError where
  /-- A field holds another type of value than is expected. -/
  | field (cause : FieldError)
  /-- A field is absent. -/
  | missing (path : String)
  /-- A field holds a text that is no timestamp. -/
  | badTimestamp (path value : String)
deriving DecidableEq, Repr

/-- The text of the error. -/
def DataError.message : DataError → String
  | field cause => cause.message
  | missing path => "field " ++ path ++ " is missing"
  | badTimestamp path value =>
    "field " ++ path ++ " is not an RFC 3339 timestamp: " ++ Text.quote value

/-- How a backup ended. -/
inductive Outcome where
  /-- The backup completed. The duration is negative if the clocks disagree. -/
  | success (duration : TimeDelta) (stoppedAt : Timestamp)
  /-- The backup failed with an error. -/
  | failure (error : String)
deriving DecidableEq, Repr

namespace Outcome

/-- The path of the time at which a backup started. -/
def startedAtPath : List String := ["status", "startedAt"]

/-- The path of the time at which a backup stopped. -/
def stoppedAtPath : List String := ["status", "stoppedAt"]

/-- The path of the error of a failed backup. -/
def errorPath : List String := ["status", "error"]

/-- The error of a failed backup that states none. -/
def unknownError : String := "unknown error"

/-- The name of the duration among the metrics of a report. -/
def durationMetric : String := "duration_seconds"

/-- The report on the outcome. -/
def message : Outcome → String
  | success duration stoppedAt =>
    "backup process completed successfully in " ++ duration.text ++ " at " ++ stoppedAt.text
  | failure error => "backup failed: " ++ error

/-- The timestamp at a path, which has to be there. -/
def timestampAt (backup : Object) (path : List String) : Except DataError Timestamp :=
  match backup.textAt path with
  | .error cause => .error (.field cause)
  | .ok none => .error (.missing (dotted path))
  | .ok (some raw) =>
    match Timestamp.parse? raw with
    | some t => .ok t
    | none => .error (.badTimestamp (dotted path) raw)

/-- When a completed backup started and stopped; of two errors the one about the start counts. -/
def timesOf (backup : Object) : Except DataError (Timestamp × Timestamp) :=
  match timestampAt backup startedAtPath with
  | .error e => .error e
  | .ok startedAt =>
    match timestampAt backup stoppedAtPath with
    | .error e => .error e
    | .ok stoppedAt => .ok (startedAt, stoppedAt)

/-- The error of a failed backup. -/
def errorOf (backup : Object) : Except DataError String :=
  match backup.textAt errorPath with
  | .error cause => .error (.field cause)
  | .ok error => .ok (error.getD unknownError)

/-- The outcome of a backup in a given phase, `none` as long as it has not ended. -/
def ofPhase (backup : Object) : Phase → Except DataError (Option Outcome)
  | .completed =>
    match timesOf backup with
    | .ok (startedAt, stoppedAt) => .ok (some (success (stoppedAt.since startedAt) stoppedAt))
    | .error e => .error e
  | .failed =>
    match errorOf backup with
    | .ok error => .ok (some (failure error))
    | .error e => .error e
  | _ => .ok none

/-- The outcome of a backup, `none` as long as it has not ended. -/
def ofBackup (backup : Object) : Except DataError (Option Outcome) :=
  match Phase.ofBackup backup with
  | .error cause => .error (.field cause)
  | .ok phase => ofPhase backup phase

/-- The warning about a completed backup that stopped before it started. -/
def clockWarnings (backup : Object) : Phase → List Log.Line
  | .completed =>
    match timesOf backup with
    | .ok (startedAt, stoppedAt) =>
      if (stoppedAt.since startedAt).nanos < 0 then
        [⟨.tracked, .warn, "backup stopped before it started, reporting negative duration",
          [("backup", backup.name.getD ""), ("started_at", startedAt.logText),
            ("stopped_at", stoppedAt.logText)]⟩]
      else []
    | .error _ => []
  | _ => []

end Outcome

end BackupMonitor
