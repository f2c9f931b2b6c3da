import BackupMonitor.Json.Shape
/-!
# Strict records

A strict record has each of its fields at most once, and none of them may be `null`. A field that
is missing stands for a value of its own, or makes the record unreadable. Fields that the record
does not have are passed over.

The values may also be written as a list, in the order of the fields; values at the end of the list
may be missing as fields may.
-/

namespace BackupMonitor.Json

/-- A field of a strict record. -/
structure StrictField where
  /-- The name. -/
  name : String
  /-- The shape of its values. -/
  shape : Shape
  /-- The value that stands for it if it is missing. -/
  fallback : Option Json := none

/-- The fields of a strict record, in order. -/
abbrev StrictRecord := List StrictField

namespace StrictRecord

/-- Reads one more entry. -/
def readEntry (record : StrictRecord) (depth : Nat) (before : Table Json) :
    Option String × Draft → Except Fault (Table Json)
  | (none, _) => .error .malformed
  | (some name, draft) =>
    match record.find? (·.name == name) with
    | none => do
      draft.skip
      .ok before
    | some field =>
      if before.contains name then .error .malformed
      else do
        let value ← field.shape.read depth draft
        .ok (before.insert name value)

/-- Puts in the values of the fields that are missing. -/
def fill (record : StrictRecord) (found : Table Json) : Except Fault (Table Json) :=
  record.foldlM
    (fun found field =>
      if found.contains field.name then .ok found
      else
        match field.fallback with
        | some value => .ok (found.insert field.name value)
        | none => .error .malformed)
    found

/-- Reads values in the order of the fields. -/
def readInOrder (depth : Nat) (before : Table Json) :
    StrictRecord → List Draft → Except Fault (Table Json)
  | [], [] => .ok before
  | [], _ :: _ => .error .malformed
  | _ :: _, [] => .ok before
  | field :: fields, draft :: drafts => do
    let value ← field.shape.read depth draft
    readInOrder depth (before.insert field.name value) fields drafts

/-- Reads a record, nested at most `depth` deep. -/
def read (record : StrictRecord) (depth : Nat) (draft : Draft) : Except Fault Json :=
  match draft, depth with
  | .object entries ending, depth + 1 => do
    let found ← entries.foldlM (readEntry record depth) ∅
    ending.strict
    let values ← fill record found
    .ok (.object values.entries)
  | .list items ending, depth + 1 => do
    let found ← readInOrder depth ∅ record items
    ending.strict
    let values ← fill record found
    .ok (.object values.entries)
  | draft, _ => .error draft.mismatch

end StrictRecord

end BackupMonitor.Json
