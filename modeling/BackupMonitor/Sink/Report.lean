import BackupMonitor.Table
import BackupMonitor.Text.Quoted
/-!
# Reports and why they do not get through
-/

namespace BackupMonitor

/-- What a monitoring system is told. -/
inductive Report where
  /-- A backup completed, with numbers under names. -/
  | success (message : String) (metrics : Table Float)
  /-- A backup failed. -/
  | failure (message : String)
  /-- The state of the backups cannot be told. -/
  | unknown (message : String)
deriving DecidableEq

/-- The word for the state that is reported. -/
def Report.state : Report → String
  | success .. => "success"
  | failure _ => "failure"
  | unknown _ => "unknown"

/-- Why a sink cannot be set up or did not take a report. -/
inductive SinkError where
  /-- There is no sink of that name. -/
  | unknownModule (name : String)
  /-- A setting is not given. -/
  | missingSetting (name : String)
  /-- No HTTP client could be made, or the monitoring system did not answer. -/
  | unreachable (cause : String)
  /-- The monitoring system answered that it does not take the report. -/
  | unexpectedStatus (code : Nat) (body : String)
deriving DecidableEq, Repr

/-- The text of the error. -/
def SinkError.message : SinkError → String
  | unknownModule name => "output module " ++ Text.quote name ++ " not found"
  | missingSetting name => "'" ++ name ++ "' is not defined"
  | unreachable cause => "unable to send the status: " ++ cause
  | unexpectedStatus code body =>
    "unexpected status code: " ++ toString code ++ ", response: " ++ body

end BackupMonitor
