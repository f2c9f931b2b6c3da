import BackupMonitor.Api.Status
import BackupMonitor.Json.StrictRecord
/-!
# Answers of the API server

An answer has a status and a body, which can break off. A status from 400 to 599 is an error. Its
body tells more if it is a `Status`; otherwise one is made up from the status of the answer and
the text of the body.
-/

namespace BackupMonitor.Api

/-- What comes back for a request. -/
inductive Answer where
  /-- An answer with a status and the text of the body; `broken` says that the body broke off. -/
  | answered (status : Nat) (body : List Char) (broken : Bool)
  /-- No answer, with a text that says why. -/
  | unanswered (cause : String)
deriving DecidableEq, Repr

/-- The phrase for a status code. -/
def statusPhrase? : Nat → Option String
  | 100 => some "Continue"
  | 101 => some "Switching Protocols"
  | 102 => some "Processing"
  | 103 => some "Early Hints"
  | 200 => some "OK"
  | 201 => some "Created"
  | 202 => some "Accepted"
  | 203 => some "Non Authoritative Information"
  | 204 => some "No Content"
  | 205 => some "Reset Content"
  | 206 => some "Partial Content"
  | 207 => some "Multi-Status"
  | 208 => some "Already Reported"
  | 226 => some "IM Used"
  | 300 => some "Multiple Choices"
  | 301 => some "Moved Permanently"
  | 302 => some "Found"
  | 303 => some "See Other"
  | 304 => some "Not Modified"
  | 305 => some "Use Proxy"
  | 307 => some "Temporary Redirect"
  | 308 => some "Permanent Redirect"
  | 400 => some "Bad Request"
  | 401 => some "Unauthorized"
  | 402 => some "Payment Required"
  | 403 => some "Forbidden"
  | 404 => some "Not Found"
  | 405 => some "Method Not Allowed"
  | 406 => some "Not Acceptable"
  | 407 => some "Proxy Authentication Required"
  | 408 => some "Request Timeout"
  | 409 => some "Conflict"
  | 410 => some "Gone"
  | 411 => some "Length Required"
  | 412 => some "Precondition Failed"
  | 413 => some "Payload Too Large"
  | 414 => some "URI Too Long"
  | 415 => some "Unsupported Media Type"
  | 416 => some "Range Not Satisfiable"
  | 417 => some "Expectation Failed"
  | 418 => some "I'm a teapot"
  | 421 => some "Misdirected Request"
  | 422 => some "Unprocessable Entity"
  | 423 => some "Locked"
  | 424 => some "Failed Dependency"
  | 425 => some "Too Early"
  | 426 => some "Upgrade Required"
  | 428 => some "Precondition Required"
  | 429 => some "Too Many Requests"
  | 431 => some "Request Header Fields Too Large"
  | 451 => some "Unavailable For Legal Reasons"
  | 500 => some "Internal Server Error"
  | 501 => some "Not Implemented"
  | 502 => some "Bad Gateway"
  | 503 => some "Service Unavailable"
  | 504 => some "Gateway Timeout"
  | 505 => some "HTTP Version Not Supported"
  | 506 => some "Variant Also Negotiates"
  | 507 => some "Insufficient Storage"
  | 508 => some "Loop Detected"
  | 510 => some "Not Extended"
  | 511 => some "Network Authentication Required"
  | _ => none

/-- A status code with its phrase. -/
def statusText (code : Nat) : String :=
  toString code ++ " " ++ (statusPhrase? code).getD "<unknown status code>"

/-- The text of a field, empty if it is absent. -/
def textD (v : Json) (name : String) : String :=
  match v.getD name with
  | .string s => s
  | _ => ""

namespace Status

/-- The fields of an error answer. The message and the reason may be missing. -/
def record : Json.StrictRecord := [
  { name := "status", shape := .anyText },
  { name := "message", shape := .anyText, fallback := some (.string "") },
  { name := "reason", shape := .anyText, fallback := some (.string "") },
  { name := "code", shape := .int 0 65535 }]

/-- The error answer that the values of its fields make. -/
def ofRecord (v : Json) : Status where
  status := textD v "status"
  message := textD v "message"
  reason := textD v "reason"
  code :=
    match v.getD "code" with
    | .int n => n.toNat
    | _ => 0

/-- Reads an error answer. -/
def read (depth : Nat) (draft : Json.Draft) : Except Json.Fault Status :=
  (record.read depth draft).map ofRecord

/-- The error answer that a body without a readable status amounts to. -/
def ofUnreadable (code : Nat) (body : List Char) : Status where
  status := statusText code
  message := Text.quote (String.ofList body)
  reason := "Failed to parse error data"
  code := code

/-- The error answer of a body. -/
def ofBody (code : Nat) (body : List Char) : Status :=
  match Json.readChars read body with
  | .ok status => status
  | .error _ => ofUnreadable code body

end Status

/-- The body of an answer that is no error. -/
def Answer.body : Answer → Except Failure (List Char)
  | .unanswered cause => .error (.unanswered cause)
  | .answered status body broken =>
    if broken then .error (.unanswered "the body of the answer broke off")
    else if 400 ≤ status ∧ status < 600 then .error (.refused (.ofBody status body))
    else .ok body

/-- What a reader makes of the body of an answer that is no error; `what` names what it reads. -/
def Answer.decode {α : Type} (answer : Answer) (what : String)
    (reader : Nat → Json.Draft → Except Json.Fault α) : Except Failure α :=
  match answer.body with
  | .error e => .error e
  | .ok body =>
    match Json.readChars reader body with
    | .ok a => .ok a
    | .error _ => .error (.unanswered ("the body of the answer is not " ++ what))

end BackupMonitor.Api
