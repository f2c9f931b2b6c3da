/-!
# Telemetry settings
-/

namespace BackupMonitor

/-- What the agent tells about itself, and to whom. -/
structure TelemetrySettings where
  /-- The name under which the agent reports. -/
  serviceName : String := "warden"
  /-- The collector of traces and metrics, if there is one. -/
  endpoint : Option String := none
  /-- Whether more is logged. -/
  debug : Bool := false
deriving DecidableEq, Repr

namespace TelemetrySettings

/-- The variable for the collector. -/
def endpointVariable : String := "OTEL_EXPORTER_OTLP_ENDPOINT"

/-- The settings that an environment gives. -/
def ofEnv (env : String → Option String) : TelemetrySettings where
  endpoint := env endpointVariable

/-- What is logged if nothing else is asked for. -/
def directives (s : TelemetrySettings) : String :=
  if s.debug then "debug,kube=info,tower=warn,hyper=warn,h2=warn,rustls=warn"
  else "info,kube=warn,tower=warn,hyper=warn,h2=warn"

end TelemetrySettings

/-- Why telemetry cannot be set up. -/
inductive TelemetryError where
  /-- The exporter of a signal cannot be built. -/
  | exporter (signal cause : String)
  /-- The log cannot be set up. -/
  | subscriber (cause : String)
deriving DecidableEq, Repr

/-- The text of the error. -/
def TelemetryError.message : TelemetryError → String
  | exporter signal cause => "failed to build OTLP " ++ signal ++ " exporter: " ++ cause
  | subscriber cause => "failed to install tracing subscriber: " ++ cause

end BackupMonitor
