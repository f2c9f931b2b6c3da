import BackupMonitor.Icinga.Delivery
/-!
# Selection of sinks

Sinks are selected by name. Blanks around a name do not count, and a name that is nothing but
blanks selects nothing. The settings of Icinga are looked at only if it is selected.
-/

namespace BackupMonitor

/-- A sink that can be selected. -/
inductive SinkChoice where
  /-- Report to an Icinga service. -/
  | icinga (service : Icinga)
  /-- Discard every report. -/
  | void
deriving DecidableEq, Repr

namespace SinkChoice

/-- The name of the sink that discards reports. -/
def voidName : String := "void"

/-- The name under which the sink is selected. -/
def name : SinkChoice → String
  | icinga _ => Icinga.sinkName
  | void => voidName

/-- The sink that a name without blanks around it selects, where HTTP clients can be made or
cannot. -/
def ofName? (settings : IcingaSettings) (name : String) (httpFailure : Option String := none) :
    Except SinkError SinkChoice :=
  if name = Icinga.sinkName then (Icinga.ofSettings? settings httpFailure).map icinga
  else if name = voidName then .ok void
  else .error (.unknownModule name)

/-- The sinks that a list of names selects, in that order; the first name that selects no sink
decides the error. -/
def select (names : List String) (settings : IcingaSettings) (httpFailure : Option String := none) :
    Except SinkError (List SinkChoice) :=
  ((names.map Text.trim).filter (· ≠ "")).mapM (ofName? settings · httpFailure)

/-- The sink over a network. -/
def sink (network : SubmitRequest → SubmitAnswer) : SinkChoice → Sink
  | icinga service => service.sink network
  | void => Sink.void

end SinkChoice

end BackupMonitor
