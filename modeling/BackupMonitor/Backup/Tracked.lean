import BackupMonitor.Backup.Outcome
import BackupMonitor.Table
/-!
# Backups in flight

`Tracked` holds the backups of one schedule that have been seen and have not ended, with the last
phase of each. `Tracked.observe` feeds it the state of one backup and answers with the outcome to
report, if there is one; a backup with an outcome is not tracked any longer.

A backup is tracked as soon as its phase can be read. So a backup that has ended but of which the
times or the error cannot be read stays tracked, under the phase it was first seen with if that
was the first that was seen of it.
-/

namespace BackupMonitor

/-- The backups that have been seen and have not ended, with the last phase of each. -/
abbrev Tracked := Table Phase

/-- The answer to an observation. -/
structure Observation where
  /-- The outcome to report, if there is one, or why the state cannot be read. -/
  result : Except DataError (Option Outcome)
  /-- What is tracked afterwards. -/
  tracked : Tracked
  /-- What is logged. -/
  log : List Log.Line := []

namespace Tracked

/-- The line about a backup that is seen for the first time. -/
def discovery (name : String) : Phase → Log.Line
  | .unset => ⟨.tracked, .info, "new backup detected", [("backup", name)]⟩
  | phase => ⟨.tracked, .info, "tracking backup", [("backup", name), ("phase", phase.display)]⟩

/-- Puts a backup that is not tracked yet under its phase. -/
def discover (tracked : Tracked) (name : String) (phase : Phase) : Tracked :=
  if tracked.contains name then tracked else tracked.insert name phase

/-- What is logged about a backup in a phase that can be read. -/
def observationLog (tracked : Tracked) (name : String) (backup : Object) (phase : Phase) :
    List Log.Line :=
  (if tracked.contains name then [] else [discovery name phase]) ++
    Outcome.clockWarnings backup phase

/-- Takes in the state of a backup that appeared or changed. -/
def observe (tracked : Tracked) (backup : Object) : Observation :=
  match backup.name with
  | none => { result := .error (.missing "metadata.name"), tracked }
  | some name =>
    match Phase.ofBackup backup with
    | .error cause => { result := .error (.field cause), tracked }
    | .ok phase =>
      let log := tracked.observationLog name backup phase
      match Outcome.ofPhase backup phase with
      | .error e => { result := .error e, tracked := tracked.discover name phase, log }
      | .ok (some outcome) => { result := .ok (some outcome), tracked := tracked.erase name, log }
      | .ok none => { result := .ok none, tracked := tracked.insert name phase, log }

end Tracked

end BackupMonitor
