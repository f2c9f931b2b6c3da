import BackupMonitor.Json.Reader
/-!
# Values of a known shape

A shape says which values are expected. `Shape.read` goes through the draft of a value in the order
of the text and stops at the first thing that does not fit.

The fields of a record may come in any order, may be missing and may be `null`. Fields that the
record does not have are passed over. A field may occur more than once: every value has to fit, and
the last one counts.
-/

namespace BackupMonitor.Json

/-- Which values are expected. -/
inductive Shape where
  /-- A text with a property. -/
  | text (fits : String → Bool)
  /-- One text, which may not be `null` as the field of a record. -/
  | exactly (text : String)
  /-- A whole number between two others. -/
  | int (least greatest : Int)
  /-- A whole number between two others, or a text. -/
  | intOrText (least greatest : Int)
  /-- A truth value. -/
  | bool
  /-- Any value. -/
  | anything
  /-- A list of values of a shape. -/
  | list (item : Shape)
  /-- An object with values of a shape. -/
  | map (value : Shape)
  /-- An object with certain fields. -/
  | record (fields : List (String × Shape))

instance : Inhabited Shape := ⟨.anything⟩

namespace Shape

/-- Any text. -/
def anyText : Shape := text fun _ => true

/-- A whole number of 32 bits. -/
def int32 : Shape := int (-(twoTo 31 : Int)) (twoTo 31 - 1)

/-- A whole number of 64 bits. -/
def int64 : Shape := int (-(twoTo 63 : Int)) (twoTo 63 - 1)

/-- A whole number of 32 bits, or a text. -/
def int32OrText : Shape := intOrText (-(twoTo 31 : Int)) (twoTo 31 - 1)

/-- A list of texts. -/
def textList : Shape := list anyText

/-- Texts under names. -/
def textMap : Shape := map anyText

/-- Whether a field of that shape may be `null`. -/
def isNullable : Shape → Bool
  | exactly _ => false
  | _ => true

/-- Reads a whole number. -/
def readInt (least greatest : Int) (n : Int) : Except Fault Json :=
  if least ≤ n ∧ n ≤ greatest then .ok (.int n) else .error .malformed

/-- Reads a value that is no list and no object, or a value of any sort. -/
def readSimple (shape : Shape) (depth : Nat) (draft : Draft) : Except Fault Json :=
  match shape, draft with
  | anything, draft => draft.tree depth
  | text fits, .text (some s) => if fits s then .ok (.string s) else .error .malformed
  | exactly t, .text (some s) => if s = t then .ok (.string s) else .error .malformed
  | int least greatest, .number (some (.int n)) => readInt least greatest n
  | intOrText least greatest, .number (some (.int n)) => readInt least greatest n
  | intOrText .., .text (some s) => .ok (.string s)
  | bool, .word (.bool b) => .ok (.bool b)
  | _, draft => .error draft.mismatch

mutual

/-- Reads a value of a shape, nested at most `depth` deep. -/
def read (shape : Shape) (depth : Nat) : Draft → Except Fault Json
  | .list items ending =>
    match shape, depth with
    | list item, depth + 1 => do
      let values ← readItems item depth items
      ending.strict
      .ok (.array values)
    | shape, depth => readSimple shape depth (.list items ending)
  | .object entries ending =>
    match shape, depth with
    | map value, depth + 1 => do
      let values ← readEntries value depth ∅ entries
      ending.strict
      .ok (.object values.entries)
    | record fields, depth + 1 => do
      let values ← readFields fields depth ∅ entries
      ending.strict
      .ok (.object values.entries)
    | shape, depth => readSimple shape depth (.object entries ending)
  | draft => readSimple shape depth draft

/-- Reads the items of a list. -/
def readItems (item : Shape) (depth : Nat) : List Draft → Except Fault (List Json)
  | [] => .ok []
  | draft :: drafts => do
    let value ← read item depth draft
    let values ← readItems item depth drafts
    .ok (value :: values)

/-- Reads the entries of an object of which all values have one shape. -/
def readEntries (value : Shape) (depth : Nat) (before : Table Json) :
    List (Option String × Draft) → Except Fault (Table Json)
  | [] => .ok before
  | (none, _) :: _ => .error .malformed
  | (some name, draft) :: drafts => do
    let v ← read value depth draft
    readEntries value depth (before.insert name v) drafts

/-- Reads the entries of a record. -/
def readFields (fields : List (String × Shape)) (depth : Nat) (before : Table Json) :
    List (Option String × Draft) → Except Fault (Table Json)
  | [] => .ok before
  | (none, _) :: _ => .error .malformed
  | (some name, draft) :: drafts =>
    match Table.lookup name fields with
    | none => do
      draft.skip
      readFields fields depth before drafts
    | some shape =>
      if shape.isNullable && draft.isNull then
        readFields fields depth (before.insert name .null) drafts
      else do
        let v ← read shape depth draft
        readFields fields depth (before.insert name v) drafts

end

end Shape

end BackupMonitor.Json
