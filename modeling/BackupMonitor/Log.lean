import BackupMonitor.Decimal.Shortest
/-!
# Log lines

A log line has a source, a level, a message and named fields. What the library has to say beside
its results is a list of such lines, in the order in which they arise.
-/

namespace BackupMonitor

namespace Log

/-- Who speaks. -/
inductive Source where
  /-- The agent itself. -/
  | agent
  /-- The watcher of the schedules. -/
  | watcher
  /-- The registry of trackers. -/
  | registry
  /-- A tracker. -/
  | tracker
  /-- The backups that a tracker tracks. -/
  | tracked
  /-- A stream of changes. -/
  | stream
  /-- The list of sinks. -/
  | sinks
  /-- The Icinga sink. -/
  | icinga
deriving DecidableEq, Repr

/-- The target under which a source can be let through by a filter or kept back. -/
def Source.target : Source → String
  | agent => "warden_agent"
  | watcher => "warden_agent::schedule_watcher"
  | registry => "warden_agent::registry"
  | tracker => "warden_agent::backup_tracker"
  | tracked => "warden_agent::tracked"
  | stream => "warden_agent::watch_client"
  | sinks => "warden_outputs"
  | icinga => "warden_outputs::icinga"

/-- How urgent a line is. -/
inductive Level where
  /-- The normal course of events. -/
  | info
  /-- Something to look at that does not stop the work. -/
  | warn
  /-- A failure. -/
  | error
deriving DecidableEq, Repr

/-- The word for a level. -/
def Level.label : Level → String
  | info => "INFO"
  | warn => "WARN"
  | error => "ERROR"

/-- The value of a field. -/
inductive Value where
  /-- A text. -/
  | text (s : String)
  /-- A whole number. -/
  | int (n : Int)
  /-- A measured number. -/
  | float (x : Float)
deriving DecidableEq

instance : Coe String Value := ⟨.text⟩

/-- One line. -/
structure Line where
  /-- Who speaks. -/
  source : Source
  /-- How urgent the line is. -/
  level : Level
  /-- What happened. -/
  message : String
  /-- To what it happened. -/
  fields : List (String × Value) := []
deriving DecidableEq

end Log

end BackupMonitor
