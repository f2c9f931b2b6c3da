import BackupMonitor.Icinga.CheckResult
import BackupMonitor.Sink.Basic
/-!
# Delivery to Icinga

A report is sent as one HTTP request, and taken if the answer has status 200. The network is a
function from requests to answers, so a sink is a value like any other.
-/

namespace BackupMonitor

/-- A request with a JSON body and the credentials of a user. -/
structure SubmitRequest where
  /-- The address. -/
  url : String
  /-- The user. -/
  username : String
  /-- The password of the user. -/
  password : String
  /-- The body. -/
  body : String
deriving DecidableEq, Repr

/-- What comes back for a request. -/
inductive SubmitAnswer where
  /-- An answer with a status and a body, `none` if the body cannot be read. -/
  | answered (status : Nat) (body : Option String)
  /-- No answer, with a text that says why. -/
  | unanswered (cause : String)
deriving DecidableEq, Repr

/-- The answer to a request to a server that cannot be reached. -/
def SubmitAnswer.unreachable (r : SubmitRequest) : SubmitAnswer :=
  .unanswered ("error sending request for url (" ++ r.url ++ ")")

namespace Icinga

/-- What stands in place of a body that cannot be read. -/
def unreadableBody : String := "<unreadable body: error decoding response body>"

/-- The request that submits a report. -/
def request (i : Icinga) (report : Report) : SubmitRequest where
  url := i.endpoint
  username := i.username
  password := i.password
  body := (i.checkResultOf report).json.compact

/-- The error that an answer means, if it is not status 200. -/
def errorOf? : SubmitAnswer → Option SinkError
  | .unanswered cause => some (.unreachable cause)
  | .answered status body =>
    if status = 200 then none else some (.unexpectedStatus status (body.getD unreadableBody))

/-- The fields that tell which service a log line is about. -/
def logFields (i : Icinga) : List (String × Log.Value) :=
  [("host", i.host), ("service", i.service)]

/-- The line before a report is sent. A success is logged under its own message. -/
def announcement (i : Icinga) : Report → Log.Line
  | .success message _ => ⟨.icinga, .info, message, i.logFields⟩
  | .failure message =>
    ⟨.icinga, .info, "sending ERROR status to Icinga", ("error", .text message) :: i.logFields⟩
  | .unknown message =>
    ⟨.icinga, .info, "sending UNKNOWN status to Icinga", ("error", .text message) :: i.logFields⟩

/-- The line after a report has been taken. -/
def confirmation (i : Icinga) (report : Report) : Log.Line :=
  ⟨.icinga, .info, "status successfully sent to Icinga",
    ("exit_status", .int (i.checkResultOf report).state.code) :: i.logFields⟩

/-- The sink that sends reports over a network. -/
def sink (i : Icinga) (network : SubmitRequest → SubmitAnswer) : Sink where
  name := sinkName
  respond _ report := errorOf? (network (i.request report))
  announce report := [i.announcement report]
  confirm report := [i.confirmation report]

end Icinga

end BackupMonitor
