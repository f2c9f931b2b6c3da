import BackupMonitor.Api.Answer
import BackupMonitor.Api.PodShape
import BackupMonitor.Engine.Server
/-!
# Reading objects of the API server

An object is read as its metadata, its API version and kind, and its content, which is everything
else. The API version and the kind are kept only together:

* they are taken out of the object in the order of the text, so neither is part of the content;
* a second API version or kind, or one that is no text, is taken out too and ends the search. What
  comes after it is content, and the object states no API version and kind.
-/

namespace BackupMonitor.Api

open Json (Draft Fault)

/-- A text at a field. -/
def text? (v : Json) (name : String) : Option String :=
  match v.getD name with
  | .string s => some s
  | _ => none

/-- The items of a list at a field. -/
def items? (v : Json) (name : String) : Option (List Json) :=
  match v.getD name with
  | .array items => some items
  | _ => none

/-- What is read of the metadata of an object. -/
structure Metadata where
  /-- The name. -/
  name : Option String := none
  /-- The references to owners. -/
  owners : Option (List Owner) := none
deriving DecidableEq, Repr

namespace Metadata

/-- The metadata in a value that has its shape. -/
def ofJson (v : Json) : Metadata where
  name := text? v "name"
  owners := (items? v "ownerReferences").map fun owners =>
    owners.map fun o => ⟨textD o "kind", textD o "name"⟩

/-- Reads metadata. -/
def read (depth : Nat) (draft : Draft) : Except Fault Metadata :=
  (metadataShape.read depth draft).map ofJson

end Metadata

/-- The API version and the kind that have been found in an object. -/
structure Types where
  /-- The API version. -/
  apiVersion : Option String := none
  /-- The kind. -/
  kind : Option String := none
deriving DecidableEq, Repr

namespace Types

/-- The API version and the kind, if both were found. -/
def both? (t : Types) : Option (String × String) :=
  match t.apiVersion, t.kind with
  | some apiVersion, some kind => some (apiVersion, kind)
  | _, _ => none

/-- Notes a field if it is the API version or the kind: `none` if it is neither, and `some none` if
it ends the search. -/
def note? (t : Types) (name : String) (value : Json) : Option (Option Types) :=
  let found (before : Option String) (after : String → Types) : Option Types :=
    match before, value with
    | none, .string s => some (after s)
    | _, _ => none
  if name = "apiVersion" then some (found t.apiVersion fun s => { t with apiVersion := some s })
  else if name = "kind" then some (found t.kind fun s => { t with kind := some s })
  else none

/-- Takes the API version and the kind out of the fields of an object. -/
def takeFrom (t : Types) :
    List (String × Json) → Option (String × String) × List (String × Json)
  | [] => (t.both?, [])
  | (name, value) :: fields =>
    match t.note? name value with
    | none =>
      let (types, rest) := takeFrom t fields
      (types, (name, value) :: rest)
    | some none => (none, fields)
    | some (some t) => takeFrom t fields

end Types

/-- What has been read of an object that consists of metadata and other fields. -/
structure Parts (α : Type) where
  /-- The metadata. -/
  metadata : Option α := none
  /-- The other fields, in order. -/
  others : List (String × Json) := []

/-- Reads one more field of such an object. Metadata may not repeat. -/
def Parts.readField {α : Type} (metadata : Nat → Draft → Except Fault α) (depth : Nat)
    (parts : Parts α) : Option String × Draft → Except Fault (Parts α)
  | (none, _) => .error .malformed
  | (some name, draft) =>
    if name = "metadata" then
      if parts.metadata.isSome then .error .malformed
      else do
        let m ← metadata depth draft
        .ok { parts with metadata := some m }
    else do
      let value ← draft.tree depth
      .ok { parts with others := parts.others ++ [(name, value)] }

/-- Reads an object that consists of metadata and other fields. -/
def Parts.read {α : Type} (metadata : Nat → Draft → Except Fault α) (depth : Nat)
    (draft : Draft) : Except Fault (Parts α) :=
  match draft, depth with
  | .object fields ending, depth + 1 => do
    let parts ← fields.foldlM (readField metadata depth) {}
    ending.strict
    .ok parts
  | draft, _ => .error draft.mismatch

/-- The object that its parts make. -/
def objectOfParts (parts : Parts Metadata) : Object :=
  let metadata := parts.metadata.getD {}
  let (types, content) := ({} : Types).takeFrom parts.others
  { name := metadata.name
    owners := metadata.owners
    types
    content := .object (Table.ofList content).entries }

/-- Reads an object of any kind. -/
def readObject (depth : Nat) (draft : Draft) : Except Fault Object :=
  (Parts.read Metadata.read depth draft).map objectOfParts

/-- Reads objects one after the other. -/
def readObjects (depth : Nat) (draft : Draft) : Except Fault (List Object) :=
  match draft, depth with
  | .word .null, _ => .ok []
  | .list items ending, depth + 1 => do
    let objects ← items.mapM (readObject depth)
    ending.strict
    .ok objects
  | draft, _ => .error draft.mismatch

/-- What has been read of a list of objects. -/
structure ListingParts where
  /-- The metadata. -/
  metadata : Option Json := none
  /-- The objects. -/
  items : Option (List Object) := none

/-- Reads one more field of a list of objects. Neither metadata nor items may repeat; all other
fields only have to be readable. -/
def ListingParts.readField (depth : Nat) (parts : ListingParts) :
    Option String × Draft → Except Fault ListingParts
  | (none, _) => .error .malformed
  | (some name, draft) =>
    if name = "metadata" then
      if parts.metadata.isSome then .error .malformed
      else do
        let m ← listMetadataShape.read depth draft
        .ok { parts with metadata := some m }
    else if name = "items" then
      if parts.items.isSome then .error .malformed
      else do
        let items ← readObjects depth draft
        .ok { parts with items := some items }
    else do
      let _ ← draft.tree depth
      .ok parts

/-- Reads a list of objects. -/
def readListing (depth : Nat) (draft : Draft) : Except Fault Listing :=
  match draft, depth with
  | .object fields ending, depth + 1 => do
    let parts ← fields.foldlM (ListingParts.readField depth) {}
    ending.strict
    match parts.items with
    | none => .error .malformed
    | some items => .ok (.of items (parts.metadata.bind (text? · "resourceVersion")))
  | draft, _ => .error draft.mismatch

/-- Reads the version of the server. -/
def readVersion (depth : Nat) (draft : Draft) : Except Fault String :=
  (versionShape.read depth draft).map (textD · "gitVersion")

/-- Reads the owners of a pod. -/
def readPodOwners (depth : Nat) (draft : Draft) : Except Fault (List Owner) :=
  (podShape.read depth draft).map fun pod =>
    (Metadata.ofJson (pod.getD "metadata")).owners.getD []

end BackupMonitor.Api
