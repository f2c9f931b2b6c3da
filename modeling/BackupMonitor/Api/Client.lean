import BackupMonitor.Api.Request
import BackupMonitor.Api.Stream
import BackupMonitor.Resource.Cluster
/-!
# What the agent makes of the answers

Each function takes the answer to the request of its name. The status of a watch is not looked at:
an error answer has a body that is no item, so the stream fails at once.
-/

namespace BackupMonitor.Api

/-- The error of a list or a watch that failed. -/
def callError (verb : Verb) (kind : ResourceKind) (failure : Failure) : TaskError :=
  .call verb kind.plural failure.message

/-- The result of a request that cannot be sent. -/
def unsendable : Failure := .unanswered "the request cannot be sent"

/-- The objects and the cursor of a list. -/
def listResult (kind : ResourceKind) (space : String) (answer : Answer) :
    Except Failure Listing :=
  match listRequest? kind space with
  | none => .error unsendable
  | some _ => answer.decode "a list" readListing

/-- The items of a watch. -/
def watchResult (kind : ResourceKind) (space cursor : String) (answer : Answer) :
    Except Failure (List WatchItem) :=
  match watchRequest? kind space cursor, answer with
  | none, _ => .error unsendable
  | some _, .unanswered cause => .error (.unanswered cause)
  | some _, .answered _ body broken => .ok (itemsOfBody body broken)

/-- The version of the server. -/
def versionResult (answer : Answer) : Except Failure String :=
  answer.decode "a version" readVersion

/-- The owners of a pod; a pod without a name is not asked for. -/
def podResult (pod space : String) (answer : Answer) : Except Failure (List Owner) :=
  match podRequest? pod space with
  | none => .error unsendable
  | some _ => answer.decode "a pod" readPodOwners

/-- The name of the cluster that owns a pod. -/
def clusterResult (pod space : String) (answer : Answer) : Except TaskError String :=
  match podResult pod space answer with
  | .error failure => .error (.api failure)
  | .ok owners => clusterOfOwners pod space owners

end BackupMonitor.Api
