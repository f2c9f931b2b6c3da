import BackupMonitor.Icinga.Settings
import BackupMonitor.Json.Writer
/-!
# Check results

What Icinga is told about a service: a filter that selects it, a state, a text and metrics. The
filter compares host and service with quoted texts, so neither can reach outside its quotes.
-/

namespace BackupMonitor

/-- The state of a service. -/
inductive ServiceState where
  /-- All is well. -/
  | ok
  /-- Something to look at. -/
  | warning
  /-- A failure. -/
  | critical
  /-- The state cannot be told. -/
  | unknown
deriving DecidableEq, Repr

/-- The number that stands for a state. -/
def ServiceState.code : ServiceState → Nat
  | ok => 0
  | warning => 1
  | critical => 2
  | unknown => 3

/-- The body of a request that submits a check result. -/
structure CheckResult where
  /-- The expression that selects the service. -/
  filter : String
  /-- The state of the service. -/
  state : ServiceState
  /-- The text that is shown. -/
  output : String
  /-- The metrics, each as `label=value`. -/
  metrics : List String
deriving DecidableEq, Repr

namespace CheckResult

/-- The check result as JSON; the list of metrics is left out if it is empty. -/
def json (r : CheckResult) : Json :=
  .object (
    [("type", .string "Service"), ("filter", .string r.filter),
      ("exit_status", .int r.state.code), ("plugin_output", .string r.output)] ++
    (if r.metrics.isEmpty then []
      else [("performance_data", .array (r.metrics.map .string))]) ++
    [("pretty", .bool true)])

end CheckResult

namespace Icinga

/-- The expression that selects the service. -/
def filter (i : Icinga) : String :=
  "host.name==" ++ Text.quote i.host ++ " && service.name==" ++ Text.quote i.service

/-- The check result for a state, a text and metrics. -/
def checkResult (i : Icinga) (state : ServiceState) (output : String) (metrics : Table Float) :
    CheckResult where
  filter := i.filter
  state := state
  output := output
  metrics := metrics.entries.map fun (label, value) => label ++ "=" ++ Decimal.floatText value

/-- The check result that a report is sent as. -/
def checkResultOf (i : Icinga) : Report → CheckResult
  | .success message metrics => i.checkResult .ok message metrics
  | .failure message => i.checkResult .critical message ∅
  | .unknown message => i.checkResult .unknown message ∅

end Icinga

end BackupMonitor
