import BackupMonitor.Json.Draft
import BackupMonitor.Table
/-!
# Reading JSON text

`Json.parse` reads exactly one value. A text that is no value is refused for one of two causes:
it is a proper beginning of one (`Fault.incomplete`), or no continuation could make it one
(`Fault.malformed`). A reader of a stream of texts needs the difference.

* A text may not hold characters below the space, nor half of a surrogate pair.
* Of two fields of one name the later counts; fields are kept in ascending order of their names.
* Values are nested at most as deep as the caller allows.

A value that does not matter is passed over by `Draft.skip`, which asks for less: it takes half of
a surrogate pair, a number of any size and values nested to any depth.
-/

namespace BackupMonitor.Json

namespace Ending

/-- The end of a list or an object, as a strict reader finds it. -/
def strict : Ending → Except Fault Unit
  | closed => .ok ()
  | faulty fault _ => .error fault

/-- The end of a list or an object, as a lenient reader finds it. -/
def lenient : Ending → Except Fault Unit
  | closed => .ok ()
  | faulty _ fault => .error fault

end Ending

namespace Draft

/-- What a strict reader finds that is after a value of another sort. -/
def mismatch : Draft → Fault
  | broken _ fault _ => fault
  | missing fault => fault
  | _ => .malformed

/-- Whether a draft is the word for the absent value. -/
def isNull : Draft → Bool
  | word .null => true
  | _ => false

mutual

/-- Reads a value of any sort, nested at most `depth` deep. -/
def tree (depth : Nat) : Draft → Except Fault Json
  | word v => .ok v
  | number v => v.elim (.error .malformed) .ok
  | text s => s.elim (.error .malformed) fun s => .ok (.string s)
  | list items ending =>
    match depth with
    | 0 => .error .malformed
    | depth + 1 => do
      let values ← treeItems depth items
      ending.strict
      .ok (.array values)
  | object fields ending =>
    match depth with
    | 0 => .error .malformed
    | depth + 1 => do
      let values ← treeFields depth ∅ fields
      ending.strict
      .ok (.object values.entries)
  | broken _ fault _ => .error fault
  | missing fault => .error fault

/-- Reads values one after the other. -/
def treeItems (depth : Nat) : List Draft → Except Fault (List Json)
  | [] => .ok []
  | item :: items => do
    let value ← tree depth item
    let values ← treeItems depth items
    .ok (value :: values)

/-- Reads fields one after the other, and puts them over those that were read before. -/
def treeFields (depth : Nat) (before : Table Json) :
    List (Option String × Draft) → Except Fault (Table Json)
  | [] => .ok before
  | (none, _) :: _ => .error .malformed
  | (some name, draft) :: fields => do
    let value ← tree depth draft
    treeFields depth (before.insert name value) fields

end

mutual

/-- Passes over a value. -/
def skip : Draft → Except Fault Unit
  | list items ending => do
    skipItems items
    ending.lenient
  | object fields ending => do
    skipFields fields
    ending.lenient
  | broken _ _ fault => .error fault
  | missing fault => .error fault
  | _ => .ok ()

/-- Passes over values one after the other. -/
def skipItems : List Draft → Except Fault Unit
  | [] => .ok ()
  | item :: items => do
    skip item
    skipItems items

/-- Passes over fields one after the other. -/
def skipFields : List (Option String × Draft) → Except Fault Unit
  | [] => .ok ()
  | (_, draft) :: fields => do
    skip draft
    skipFields fields

end

end Draft

/-- How deep values may be nested where nothing else is said. -/
def defaultDepth : Nat := 127

/-- Reads the one value that a list of characters holds; `reader` reads its draft, given how deep
it may be nested. -/
def readChars {α : Type} (reader : Nat → Draft → Except Fault α) (cs : List Char) :
    Except Fault α := do
  let page := Draft.ofChars cs
  let value ← reader defaultDepth page.draft
  if page.goesOn then .error .malformed else .ok value

/-- Reads the one value that a text holds, nested at most `depth` deep. -/
def parseNested (depth : Nat) (text : String) : Except Fault Json :=
  readChars (fun _ => Draft.tree depth) text.toList

/-- Reads the one value that a text holds. -/
def parse (text : String) : Except Fault Json :=
  readChars Draft.tree text.toList

end BackupMonitor.Json
