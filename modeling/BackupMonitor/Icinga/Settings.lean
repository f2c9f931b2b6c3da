import BackupMonitor.Sink.Report
import BackupMonitor.Text.Blank
/-!
# Settings of the Icinga sink

Settings are raw texts, any of which may be absent. `Icinga.ofSettings?` accepts them if every one
that is required has a character that is not blank; it keeps them without blanks at either end,
and the address of the API also without slashes at its end.
-/

namespace BackupMonitor

/-- The settings as they were given. -/
structure IcingaSettings where
  /-- The address of the API. -/
  apiUrl : Option String := none
  /-- The user of the API. -/
  username : Option String := none
  /-- The password of that user. -/
  password : Option String := none
  /-- The host that the service belongs to. -/
  host : Option String := none
  /-- The service that the reports are about. -/
  service : Option String := none
  /-- Whether any certificate of the API is accepted. -/
  insecure : Bool := false
deriving DecidableEq, Repr

namespace IcingaSettings

/-- What is shown in place of a password. -/
def redacted : String := "<redacted>"

/-- The settings with all their fields, the password hidden. -/
def details (s : IcingaSettings) : String :=
  "IcingaSettings \x7b api_url: " ++ Text.quoteOption s.apiUrl ++
    ", username: " ++ Text.quoteOption s.username ++
    ", password: " ++ Text.quoteOption (s.password.map fun _ => redacted) ++
    ", host: " ++ Text.quoteOption s.host ++
    ", service: " ++ Text.quoteOption s.service ++
    ", insecure_skip_verify: " ++ toString s.insecure ++ " \x7d"

end IcingaSettings

/-- An Icinga service to report to. -/
structure Icinga where
  /-- The address of the API, without a slash at its end. -/
  apiUrl : String
  /-- The user of the API. -/
  username : String
  /-- The password of that user. -/
  password : String
  /-- The host that the service belongs to. -/
  host : String
  /-- The service that the reports are about. -/
  service : String
deriving DecidableEq, Repr

namespace Icinga

/-- The name of the sink in the configuration. -/
def sinkName : String := "icinga"

/-- The variable for the address of the API. -/
def apiUrlVariable : String := "BC_OUTPUT_ICINGA_API_URL"

/-- The variable for the user. -/
def usernameVariable : String := "BC_OUTPUT_ICINGA_USER"

/-- The variable for the password. -/
def passwordVariable : String := "BC_OUTPUT_ICINGA_PASS"

/-- The variable for the service. -/
def serviceVariable : String := "BC_OUTPUT_ICINGA_SERVICE"

/-- The variable for the host. -/
def hostVariable : String := "BC_OUTPUT_ICINGA_HOST"

/-- A required setting without blanks at either end; one that is nothing but blanks is missing. -/
def required (value : Option String) (name : String) : Except SinkError String :=
  match value.map Text.trim with
  | none => .error (.missingSetting name)
  | some kept => if kept = "" then .error (.missingSetting name) else .ok kept

/-- Accepts settings; of several that are missing the error names the first in the order address,
user, password, service, host. After that an HTTP client is made, or cannot be made for some
cause. -/
def ofSettings? (s : IcingaSettings) (httpFailure : Option String := none) :
    Except SinkError Icinga := do
  let apiUrl ← required s.apiUrl apiUrlVariable
  let username ← required s.username usernameVariable
  let password ← required s.password passwordVariable
  let service ← required s.service serviceVariable
  let host ← required s.host hostVariable
  match httpFailure with
  | some cause => .error (.unreachable cause)
  | none => .ok { apiUrl := Text.dropEndSlashes apiUrl, username, password, host, service }

/-- The path of the action that takes check results. -/
def checkResultPath : String := "/v1/actions/process-check-result"

/-- The address that check results are sent to. -/
def endpoint (i : Icinga) : String :=
  i.apiUrl ++ checkResultPath

/-- The service with all its fields but the password. -/
def details (i : Icinga) : String :=
  "IcingaOutput \x7b api_url: " ++ Text.quote i.apiUrl ++
    ", username: " ++ Text.quote i.username ++
    ", host: " ++ Text.quote i.host ++
    ", service: " ++ Text.quote i.service ++ ", .. \x7d"

end Icinga

end BackupMonitor
