import BackupMonitor.Resource.Object
import BackupMonitor.Text.Quoted
/-!
# Phases of a backup
-/

namespace BackupMonitor

/-- How far a backup has come. -/
inductive Phase where
  /-- The backup has not stated a phase yet. -/
  | unset
  /-- The backup is in progress. -/
  | running
  /-- The backup ended well. -/
  | completed
  /-- The backup ended badly. -/
  | failed
  /-- Any other phase, by its name. -/
  | other (name : String)
deriving DecidableEq, Repr

namespace Phase

/-- Reads a phase; an absent or empty one is unset. -/
def parse : Option String → Phase
  | none => unset
  | some name =>
    if name = "" then unset
    else if name = "running" then running
    else if name = "completed" then completed
    else if name = "failed" then failed
    else other name

/-- The path of the phase in a backup. -/
def path : List String := ["status", "phase"]

/-- The phase of a backup. -/
def ofBackup (backup : Object) : Except FieldError Phase :=
  match backup.textAt path with
  | .ok raw => .ok (parse raw)
  | .error e => .error e

/-- Whether the backup has ended. -/
def isTerminal : Phase → Bool
  | completed => true
  | failed => true
  | _ => false

/-- The phase as a backup states it. -/
def name : Phase → String
  | unset => ""
  | running => "running"
  | completed => "completed"
  | failed => "failed"
  | other name => name

/-- The phase as it is shown to people. -/
def display : Phase → String
  | unset => "<unset>"
  | phase => phase.name

/-- The phase with its case spelled out. -/
def variant : Phase → String
  | unset => "Unset"
  | running => "Running"
  | completed => "Completed"
  | failed => "Failed"
  | other name => "Other(" ++ Text.quote name ++ ")"

end Phase

end BackupMonitor
