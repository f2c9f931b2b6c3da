import BackupMonitor.Json.Basic
import BackupMonitor.Resource.Kind
/-!
# Objects of the API server

An object is read without a schema: its name, the owners it refers to, and everything else as a
JSON value of which single fields are read by path.
-/

namespace BackupMonitor

/-- A reference to an owner. -/
structure Owner where
  /-- The kind of the owner. -/
  kind : String
  /-- The name of the owner. -/
  name : String
deriving DecidableEq, Repr

/-- An object of any kind. -/
structure Object where
  /-- The name, which an object may lack. -/
  name : Option String := none
  /-- The references to owners, `none` if the list is absent. -/
  owners : Option (List Owner) := none
  /-- The API version and the kind, if the object states both. -/
  types : Option (String × String) := none
  /-- Everything but metadata, API version and kind. -/
  content : Json := .null

instance : Inhabited Object := ⟨{}⟩

/-- A field that holds another type of value than is expected. -/
structure FieldError where
  /-- The path of the field, joined by points. -/
  path : String
  /-- The type that was expected. -/
  expected : String
deriving DecidableEq, Repr

/-- The text of the error. -/
def FieldError.message (e : FieldError) : String :=
  "field " ++ e.path ++ " is not a " ++ e.expected

/-- A path of field names, joined by points. -/
def dotted (path : List String) : String :=
  ".".intercalate path

/-- The text at the end of a path of field names. A field that is absent or `null` on the way
counts as absent, as does a field of a value that has no fields. -/
def Json.textAt (v : Json) (path : List String) : Except FieldError (Option String) :=
  match v.at? path with
  | none => .ok none
  | some .null => .ok none
  | some (.string s) => .ok (some s)
  | some _ => .error ⟨dotted path, "string"⟩

namespace Object

/-- The text of a field of the object's content. -/
def textAt (o : Object) (path : List String) : Except FieldError (Option String) :=
  o.content.textAt path

/-- Whether the object refers to an owner of that kind and name. -/
def isOwnedBy (o : Object) (kind name : String) : Bool :=
  match o.owners with
  | none => false
  | some owners => owners.any fun owner => owner.kind == kind && owner.name == name

/-- Whether the object refers to the schedule of that name. -/
def isOwnedBySchedule (o : Object) (schedule : String) : Bool :=
  o.isOwnedBy ResourceKind.scheduledBackup.name schedule

/-- The cluster that a scheduled backup is for, if it names one. -/
def scheduleCluster (o : Object) : Except FieldError (Option String) :=
  o.textAt ["spec", "cluster", "name"]

end Object

end BackupMonitor
