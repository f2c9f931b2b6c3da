import BackupMonitor.Error
import BackupMonitor.Resource.Object
/-!
# The cluster that owns a pod
-/

namespace BackupMonitor

/-- The kind of a cluster. -/
def clusterKind : String := "Cluster"

/-- The name of the cluster that owns a pod: the pod has exactly one owner, which is a cluster. -/
def clusterOfOwners (pod space : String) (owners : List Owner) : Except TaskError String :=
  match owners with
  | [] => .error (.clusterUnknown pod space "pod does not have any owner references")
  | [owner] =>
    if owner.kind = clusterKind then .ok owner.name
    else .error (.clusterUnknown pod space
      ("pod is owned by a " ++ Text.quote owner.kind ++ ", not a " ++ clusterKind))
  | _ :: _ :: _ => .error (.clusterUnknown pod space
      "pod has multiple owner references, unable to determine the CNPG cluster")

end BackupMonitor
