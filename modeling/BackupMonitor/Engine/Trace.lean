import BackupMonitor.Engine.Server
import BackupMonitor.Sink.Basic
/-!
# Traces

A trace says what each task did, oldest first: the calls it made and how they were answered, the
events it took, what it logged and measured, and what it handed to the sinks.
-/

namespace BackupMonitor

/-- A task: a watcher of the schedules or a tracker, by the order in which they started. -/
inductive TaskId where
  /-- A watcher. -/
  | watcher (index : Nat)
  /-- A tracker. -/
  | tracker (index : Nat)
deriving DecidableEq, Repr

/-- What the task watches. -/
def TaskId.kind : TaskId → ResourceKind
  | watcher _ => .scheduledBackup
  | tracker _ => .backup

/-- What a call to the API server asks for. -/
inductive Query where
  /-- A list of the objects of a kind. -/
  | list (kind : ResourceKind)
  /-- A watch of a kind from a cursor on. -/
  | watch (kind : ResourceKind) (cursor : String)
deriving DecidableEq, Repr

/-- The text of a query in a namespace. -/
def Query.text (space : String) : Query → String
  | list kind => "list " ++ kind.plural ++ " " ++ space
  | watch kind cursor => "watch " ++ kind.plural ++ " " ++ space ++ " " ++ cursor

/-- A call to the API server. -/
structure Call where
  /-- The namespace. -/
  space : String
  /-- What is asked for there. -/
  query : Query
deriving DecidableEq, Repr

/-- One thing that a task did. -/
inductive Occurrence where
  /-- It made a call. -/
  | called (call : Call)
  /-- Its list succeeded. -/
  | listed (kind : ResourceKind) (listing : Listing)
  /-- Its watch was opened. -/
  | opened (kind : ResourceKind)
  /-- Its call failed. -/
  | refused (error : TaskError)
  /-- It took an event. -/
  | took (event : Event)
  /-- It saw the end of its watch. -/
  | sawEnd (kind : ResourceKind)
  /-- It started a tracker for a schedule. -/
  | startedTracker (schedule : String)
  /-- It logged a line. -/
  | logged (line : Log.Line)
  /-- It measured something. -/
  | measured (measurement : Measurement)
  /-- It handed a report to a sink. -/
  | delivered (delivery : Delivery)
  /-- It finished, well or with an error. -/
  | finished (error : Option TaskError)

/-- An occurrence with the task it belongs to. -/
structure Entry where
  /-- The task. -/
  task : TaskId
  /-- What it did. -/
  what : Occurrence

/-- A trace, oldest entry first. -/
abbrev Trace := List Entry

namespace Trace

/-- What the calls that were made asked for. -/
def calls (trace : Trace) : List Query :=
  trace.filterMap fun e => match e.what with | .called c => some c.query | _ => none

/-- What was handed to the sinks. -/
def deliveries (trace : Trace) : List Delivery :=
  trace.filterMap fun e => match e.what with | .delivered d => some d | _ => none

/-- What was logged. -/
def log (trace : Trace) : List Log.Line :=
  trace.filterMap fun e => match e.what with | .logged l => some l | _ => none

/-- What was measured. -/
def measurements (trace : Trace) : List Measurement :=
  trace.filterMap fun e => match e.what with | .measured m => some m | _ => none

/-- The sum of what was measured. -/
def ledger (trace : Trace) : Ledger :=
  .ofList trace.measurements

/-- What one task did. -/
def ofTask (trace : Trace) (task : TaskId) : List Occurrence :=
  (trace.filter (·.task == task)).map (·.what)

end Trace

end BackupMonitor
