import BackupMonitor.Text.Quoted
/-!
# Error answers of the API server
-/

namespace BackupMonitor.Api

/-- The body of an error answer. -/
structure Status where
  /-- The outcome in one word. -/
  status : String
  /-- What is wrong, for people. -/
  message : String
  /-- What is wrong, for programs. -/
  reason : String
  /-- The code of the answer. -/
  code : Nat
deriving DecidableEq, Repr

namespace Status

/-- The error answer with all its fields. -/
def details (s : Status) : String :=
  "ErrorResponse \x7b status: " ++ Text.quote s.status ++ ", message: " ++ Text.quote s.message ++
    ", reason: " ++ Text.quote s.reason ++ ", code: " ++ toString s.code ++ " \x7d"

end Status

/-- Why a request to the API server has no result. -/
inductive Failure where
  /-- The API server answered with an error. -/
  | refused (status : Status)
  /-- The request was not answered, or the answer cannot be read; with a text that says why. -/
  | unanswered (cause : String)
deriving DecidableEq, Repr

/-- The text of the failure. -/
def Failure.message : Failure → String
  | refused s => "ApiError: " ++ s.message ++ ": " ++ s.reason ++ " (" ++ s.details ++ ")"
  | unanswered cause => cause

end BackupMonitor.Api
