import BackupMonitor.Api.Status
/-!
# Errors that end a task
-/

namespace BackupMonitor

/-- The two ways to ask for resources. -/
inductive Verb where
  /-- All objects of a kind at once. -/
  | list
  /-- The changes of a kind from some point on. -/
  | watch
deriving DecidableEq, Repr

/-- The word for a way to ask. -/
def Verb.label : Verb → String
  | list => "list"
  | watch => "watch"

/-- Why a task of the agent ends early. -/
inductive TaskError where
  /-- A single request to the API server failed. -/
  | api (cause : Api.Failure)
  /-- A list or a watch of a resource failed. -/
  | call (verb : Verb) (resource cause : String)
  /-- The cluster that owns the pod cannot be told. -/
  | clusterUnknown (pod space cause : String)
  /-- The configuration is unusable. -/
  | config (cause : String)
  /-- Anything else, with the part of the agent that it concerns. -/
  | internal (part cause : String)
deriving DecidableEq, Repr

namespace TaskError

/-- The part of the agent that an internal error concerns, where none is given. -/
def unknownPart : String := "unknown"

/-- The text of the error. -/
def message : TaskError → String
  | api cause => "kubernetes error: " ++ cause.message
  | call verb resource cause => "failed to " ++ verb.label ++ " " ++ resource ++ ": " ++ cause
  | clusterUnknown pod space cause =>
    "cannot resolve cluster of pod " ++ Text.quote pod ++ " in namespace " ++ Text.quote space ++
      ": " ++ cause
  | config cause => "configuration error: " ++ cause
  | internal part cause => "internal error [" ++ part ++ "]: " ++ cause

/-- Whether the error came from talking to the API server. -/
def isTransport : TaskError → Bool
  | api _ => true
  | call .. => true
  | _ => false

/-- The resource or the part of the agent that the error concerns. -/
def context : TaskError → Option String
  | call _ resource _ => some resource
  | internal part _ => some part
  | _ => none

end TaskError

end BackupMonitor
