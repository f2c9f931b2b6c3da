import BackupMonitor.Api.Decode
import BackupMonitor.Log
/-!
# Watch streams

The body of a watch is a text of lines, each of which holds one item: a change of an object, a
bookmark, or an error. A line that is an incomplete text is passed over; one that is no item is a
failure of the stream. The events of a stream are the changes before its first error or failure.
-/

namespace BackupMonitor.Api

open Json (Draft Fault)

/-- One item of a watch stream. -/
inductive WatchItem where
  /-- A change of an object. -/
  | event (event : Event)
  /-- A sign of life, without a change. -/
  | bookmark
  /-- The server ends the watch with an error. -/
  | refused (status : Status)
  /-- The stream failed. -/
  | broken

namespace WatchItem

/-- What an item says by its type. -/
inductive ItemType where
  /-- A change of an object. -/
  | change (change : Change)
  /-- A sign of life. -/
  | bookmark
  /-- An error. -/
  | error
deriving DecidableEq, Repr

/-- The type of item that a word stands for. -/
def ItemType.ofWord? : String → Option ItemType
  | "ADDED" => some (.change .added)
  | "MODIFIED" => some (.change .modified)
  | "DELETED" => some (.change .deleted)
  | "BOOKMARK" => some .bookmark
  | "ERROR" => some .error
  | _ => none

/-- The type of item that a word stands for, if the word is known. -/
def ItemType.ofWord (word : String) : Except Fault ItemType :=
  match ofWord? word with
  | some type => .ok type
  | none => .error .malformed

/-- Reads the type of an item: a word, or an object with `null` under that word. -/
def ItemType.read (depth : Nat) (draft : Draft) : Except Fault ItemType :=
  match draft, depth with
  | .text (some word), _ => ofWord word
  | .broken true fault _, _ => .error fault
  | .missing fault, _ => .error fault
  | .object [] ending, _ + 1 => do
    ending.strict
    .error .malformed
  | .object ((some word, value) :: more) ending, _ + 1 => do
    let type ← ofWord word
    if value.isNull then
      if more.isEmpty then
        ending.strict
        .ok type
      else .error .malformed
    else .error value.mismatch
  | _, _ => .error .malformed

/-- The metadata of a bookmark. -/
def bookmarkMetadata : Json.StrictRecord := [
  { name := "resourceVersion", shape := .anyText },
  { name := "annotations", shape := .textMap, fallback := some (.object []) }]

/-- Reads a bookmark, which has to have metadata, an API version and a kind. -/
def readBookmark (depth : Nat) (draft : Draft) : Except Fault WatchItem := do
  let parts ← Parts.read bookmarkMetadata.read depth draft
  let (types, _) := ({} : Types).takeFrom parts.others
  if types.isSome && parts.metadata.isSome then .ok bookmark else .error .malformed

/-- Reads the object of an item of a type. -/
def readObjectOf (type : ItemType) (depth : Nat) (draft : Draft) : Except Fault WatchItem :=
  match type with
  | .change change => (readObject depth draft).map fun o => event ⟨change, o⟩
  | .bookmark => readBookmark depth draft
  | .error => (Status.read depth draft).map refused

/-- How much of an item has been read. -/
inductive Progress where
  /-- Neither its type nor its object. -/
  | nothing
  /-- Its type. -/
  | type (type : ItemType)
  /-- Its object, which cannot be made out before its type is known. -/
  | object (draft : Draft)
  /-- All of it. -/
  | item (item : WatchItem)

/-- Reads one more field of an item. Neither the type nor the object may repeat. An object that
comes before the type has to be readable as any value at first. -/
def Progress.readField (depth : Nat) (progress : Progress) :
    Option String × Draft → Except Fault Progress
  | (none, _) => .error .malformed
  | (some name, draft) =>
    if name = "type" then
      match progress with
      | nothing => do
        let t ← ItemType.read depth draft
        .ok (type t)
      | object earlier => do
        let t ← ItemType.read depth draft
        let i ← readObjectOf t depth earlier
        .ok (item i)
      | _ => .error .malformed
    else if name = "object" then
      match progress with
      | nothing => do
        let _ ← draft.tree depth
        .ok (object draft)
      | type t => do
        let i ← readObjectOf t depth draft
        .ok (item i)
      | _ => .error .malformed
    else do
      draft.skip
      .ok progress

/-- Reads an item: an object with a type and an object, or a list of the two. -/
def read (depth : Nat) (draft : Draft) : Except Fault WatchItem :=
  match draft, depth with
  | .object fields ending, depth + 1 => do
    let progress ← fields.foldlM (Progress.readField depth) .nothing
    ending.strict
    match progress with
    | .item i => .ok i
    | _ => .error .malformed
  | .list (type :: object :: more) ending, depth + 1 => do
    let t ← ItemType.read depth type
    let i ← readObjectOf t depth object
    if more.isEmpty then
      ending.strict
      .ok i
    else .error .malformed
  | .list [type] ending, depth + 1 => do
    let _ ← ItemType.read depth type
    ending.strict
    .error .malformed
  | .list [] ending, _ + 1 => do
    ending.strict
    .error .malformed
  | draft, _ => .error draft.mismatch

/-- Reads a line; `none` if it is to be passed over. -/
def ofLine? (line : List Char) : Option WatchItem :=
  match Json.readChars read line with
  | .ok item => some item
  | .error .incomplete => none
  | .error .malformed => some broken

/-- Whether the item ends the stream. -/
def endsStream : WatchItem → Bool
  | refused _ => true
  | broken => true
  | _ => false

/-- The event of an item, if it is one. -/
def event? : WatchItem → Option Event
  | event e => some e
  | _ => none

/-- The events of a stream: the changes before the first item that ends it. -/
def events (items : List WatchItem) : List Event :=
  (items.takeWhile (!·.endsStream)).filterMap event?

/-- What is logged about an item. An error of the server is logged under its own message. -/
def log (kind : ResourceKind) : WatchItem → List Log.Line
  | refused status =>
    [⟨.stream, .warn, status.message, [("resource", kind.plural), ("code", .int status.code),
      ("reason", status.reason)]⟩]
  | broken =>
    [⟨.stream, .warn, "watch stream failed, closing stream", [("resource", kind.plural)]⟩]
  | _ => []

/-- What is logged about a stream: the item that ends it. -/
def logAll (kind : ResourceKind) (items : List WatchItem) : List Log.Line :=
  match items.find? (·.endsStream) with
  | some item => item.log kind
  | none => []

end WatchItem

/-- A line without a carriage return at its end. -/
def dropReturn (line : List Char) : List Char :=
  if line.getLast? = some '\r' then line.dropLast else line

/-- The lines of a text, of which `line` has been read of the first, nearest character first. What
stands after the last line feed is a line of its own unless it is empty. -/
def linesFrom (line : List Char) : List Char → List (List Char)
  | [] => if line.isEmpty then [] else [line.reverse]
  | c :: rest => if c = '\n' then line.reverse :: linesFrom [] rest else linesFrom (c :: line) rest

/-- The lines of a body; one that broke off has no line after its last line feed. -/
def linesOf (body : List Char) (broken : Bool) : List (List Char) :=
  let whole := if broken then (body.reverse.dropWhile (· != '\n')).reverse else body
  (linesFrom [] whole).map dropReturn

/-- The items of a body. One that broke off ends with a failure. -/
def itemsOfBody (body : List Char) (broken : Bool) : List WatchItem :=
  (linesOf body broken).filterMap WatchItem.ofLine? ++ (if broken then [.broken] else [])

end BackupMonitor.Api
