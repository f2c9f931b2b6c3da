import BackupMonitor.Json.Shape
import BackupMonitor.Time.Relaxed
/-!
# The shapes of metadata

The content of an object is taken as it comes, but its metadata has to have the types that the API
server gives it.
-/

namespace BackupMonitor.Api

open Json (Shape)

/-- Fields by name, each with its shape. -/
abbrev Fields := List (String × Shape)

/-- Fields of one shape. -/
def fieldsOf (shape : Shape) (names : List String) : Fields :=
  names.map fun name => (name, shape)

/-- Fields that hold a text. -/
def texts (names : List String) : Fields := fieldsOf .anyText names

/-- Fields that hold a truth value. -/
def flags (names : List String) : Fields := fieldsOf .bool names

/-- A timestamp. -/
def timeShape : Shape := .text fun s => (Timestamp.parseRelaxed? s).isSome

/-- Fields that hold a timestamp. -/
def times (names : List String) : Fields := fieldsOf timeShape names

/-- A reference to an owner. -/
def ownerShape : Shape :=
  .record (texts ["apiVersion", "kind", "name", "uid"] ++
    flags ["blockOwnerDeletion", "controller"])

/-- A record of who manages which fields. -/
def managerShape : Shape :=
  .record (texts ["apiVersion", "fieldsType", "manager", "operation", "subresource"] ++
    times ["time"] ++ [("fieldsV1", .anything)])

/-- The metadata of an object. -/
def metadataShape : Shape :=
  .record (texts ["name", "namespace", "uid", "resourceVersion", "generateName", "selfLink"] ++
    times ["creationTimestamp", "deletionTimestamp"] ++
    fieldsOf .int64 ["generation", "deletionGracePeriodSeconds"] ++
    fieldsOf .textMap ["labels", "annotations"] ++
    [("finalizers", .textList), ("managedFields", .list managerShape),
      ("ownerReferences", .list ownerShape)])

/-- The metadata of a list. -/
def listMetadataShape : Shape :=
  .record (texts ["continue", "resourceVersion", "selfLink"] ++ [("remainingItemCount", .int64)])

/-- The version of the server. -/
def versionShape : Shape :=
  .record (texts ["buildDate", "compiler", "gitCommit", "gitTreeState", "gitVersion", "goVersion",
    "major", "minor", "platform"])

end BackupMonitor.Api
