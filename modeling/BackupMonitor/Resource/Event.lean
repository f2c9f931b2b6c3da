import BackupMonitor.Resource.Object
/-!
# Changes of a watched resource
-/

namespace BackupMonitor

/-- What happened to an object. -/
inductive Change where
  /-- The object appeared. -/
  | added
  /-- The object took a new state. -/
  | modified
  /-- The object went away. -/
  | deleted
deriving DecidableEq, Repr

/-- The word for a change. -/
def Change.label : Change → String
  | added => "Added"
  | modified => "Modified"
  | deleted => "Deleted"

/-- A change of one object. -/
structure Event where
  /-- What happened. -/
  change : Change
  /-- The object after it happened; its last state if it went away. -/
  object : Object

end BackupMonitor
