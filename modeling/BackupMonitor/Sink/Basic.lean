import BackupMonitor.Log
import BackupMonitor.Metrics
import BackupMonitor.Sink.Report
/-!
# Sinks

A sink takes reports on behalf of a monitoring system. It may refuse any of them, and whether it
does may depend on what it was handed before. `fanOut` hands a report to every sink in turn: a
sink that refuses is logged and counted, and the next one is handed the report all the same.
-/

namespace BackupMonitor

/-- A sink: its name, what it answers to a report after the reports it was handed before, and what
it logs about it. -/
structure Sink where
  /-- The name under which the sink is configured. -/
  name : String
  /-- The error with which the sink refuses a report, given the earlier ones. -/
  respond : List Report → Report → Option SinkError
  /-- What the sink itself logs before it passes a report on. -/
  announce : Report → List Log.Line := fun _ => []
  /-- What the sink itself logs once a report has been taken. -/
  confirm : Report → List Log.Line := fun _ => []

/-- A sink that takes every report and does nothing with it. -/
def Sink.void : Sink where
  name := "void"
  respond _ _ := none

/-- A report as it was handed to the sink at some place in the list of sinks. -/
structure Delivery where
  /-- The place of the sink. -/
  place : Nat
  /-- The name of the sink. -/
  sink : String
  /-- The report. -/
  report : Report
  /-- The error of a sink that refused. -/
  error : Option SinkError
deriving DecidableEq

namespace Delivery

/-- The reports that the sink at a place was handed, oldest first. -/
def reportsAt (place : Nat) (ds : List Delivery) : List Report :=
  (ds.filter (·.place == place)).map (·.report)

/-- What is logged about a delivery: the error of a sink that refused. -/
def log (d : Delivery) : List Log.Line :=
  match d.error with
  | none => []
  | some e => [⟨.sinks, .error, "unable to send " ++ d.report.state ++ " state",
      [("module", d.sink), ("error", e.message)]⟩]

/-- What is counted about a delivery. -/
def measurements (d : Delivery) : List Measurement :=
  match d.error with
  | none => []
  | some _ => [.sinkFailure d.sink]

end Delivery

/-- Hands a report to the sink at a place, after earlier deliveries. -/
def Sink.deliver (sink : Sink) (place : Nat) (earlier : List Delivery) (report : Report) :
    Delivery where
  place := place
  sink := sink.name
  report := report
  error := sink.respond (Delivery.reportsAt place earlier) report

/-- What a sink logs about a report itself, after an answer. -/
def Sink.ownLog (sink : Sink) (d : Delivery) : List Log.Line :=
  sink.announce d.report ++ (if d.error.isNone then sink.confirm d.report else [])

/-- Hands a report to every sink in turn, the first of which stands at `place`. -/
def fanOutFrom (place : Nat) (earlier : List Delivery) (report : Report) :
    List Sink → List Delivery
  | [] => []
  | sink :: sinks =>
    sink.deliver place earlier report :: fanOutFrom (place + 1) earlier report sinks

/-- Hands a report to every sink in turn. -/
def fanOut (sinks : List Sink) (earlier : List Delivery) (report : Report) : List Delivery :=
  fanOutFrom 0 earlier report sinks

end BackupMonitor
