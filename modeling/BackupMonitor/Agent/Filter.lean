import BackupMonitor.Log
import BackupMonitor.Text.Alphanumeric
import BackupMonitor.Text.Blank
/-!
# Log filters

A filter is a list of directives, written `target[span{field=value}]=level` and separated by
commas. Every part may be missing, and a level can stand alone. A directive without a level lets
everything through that it applies to.

* A directive that names a span or the value of a field is about spans alone. All others are about
  lines: they apply to the lines whose target begins with theirs and which have all their fields.
* Of the directives that apply to a line the most specific one decides. A line to which none
  applies is kept back.
* A text with a directive that cannot be read is no filter.
-/

namespace BackupMonitor.Log

/-- A condition on a field: its name and, if it matters, its value. -/
structure FieldTest where
  /-- The name of the field. -/
  name : String
  /-- What the value has to be. -/
  value : Option String
deriving DecidableEq, Repr

/-- Reads a condition on a field; what follows a second equals sign does not count. -/
def FieldTest.ofChars (cs : List Char) : FieldTest where
  name := String.ofList (cs.takeWhile (· != '='))
  value :=
    match cs.dropWhile (· != '=') with
    | [] => none
    | _ :: value => some (String.ofList (value.takeWhile (· != '=')))

/-- A directive: what it applies to, and up to which severity it lets through. -/
structure Directive where
  /-- How the targets begin, if that matters. -/
  target : Option String := none
  /-- The name of the span, if that matters. -/
  span : Option String := none
  /-- The fields that have to be there. -/
  fields : List FieldTest := []
  /-- How many levels are let through: none, error, warn, info and less urgent ones. -/
  depth : Nat := 5
deriving DecidableEq, Repr

/-- How many levels a filter has to let through for a line of that level to pass. -/
def Level.depth : Level → Nat
  | error => 1
  | warn => 2
  | info => 3

/-- The number of levels that a numeral lets through; it may have a plus sign. -/
def numeralDepth? (numeral : List Char) : Option Nat :=
  let digits := if numeral.head? = some '+' then numeral.tail else numeral
  if digits.isEmpty || !digits.all Char.isDigit then none
  else
    let n := digits.foldl (fun n d => n * 10 + (d.toNat - 48)) 0
    if n ≤ 5 then some n else none

/-- The number of levels that a level lets through: a numeral, or a word in any case. -/
def levelDepth? (word : List Char) : Option Nat :=
  match numeralDepth? word with
  | some depth => some depth
  | none =>
    match String.ofList (word.map Char.toLower) with
    | "off" => some 0
    | "error" => some 1
    | "warn" => some 2
    | "info" => some 3
    | "debug" => some 4
    | "trace" => some 5
    | _ => none

namespace Directive

/-- Whether a directive can begin with a character, a bracket apart. -/
def isFirst (c : Char) : Bool :=
  c == '-' || c == ':' || c == '_' || Text.isAlphanumeric c

/-- The part of a directive that is being read, with the place where it began. -/
inductive Part where
  /-- Nothing has been read. -/
  | start
  /-- A level that stands alone, or a target. -/
  | word (first : Nat)
  /-- The name of a span. -/
  | span (first : Nat)
  /-- A condition on a field. -/
  | field (first : Nat)
  /-- The conditions are complete. -/
  | fields
  /-- The bracket is closed. -/
  | closed
  /-- The level after an equals sign. -/
  | level (first : Nat)
deriving DecidableEq, Repr

/-- The text between two places of a piece. -/
def between (piece : List Char) (first last : Nat) : List Char :=
  (piece.take last).drop first

/-- Reads one more character, which stands at `place`. -/
def readChar (piece : List Char) (state : Part × Directive) (next : Char × Nat) :
    Option (Part × Directive) :=
  let (part, d) := state
  let (c, place) := next
  let text (first : Nat) : String := String.ofList (between piece first place)
  match part with
  | .start =>
    if c = '[' then some (.span (place + 1), d)
    else if isFirst c then some (.word place, d)
    else none
  | .word first =>
    if c = '=' then some (.level (place + 1), { d with target := some (text first) })
    else if c = '[' then some (.span (place + 1), { d with target := some (text first) })
    else some (part, d)
  | .span first =>
    if c = ']' then some (.closed, { d with span := some (text first) })
    else if c = '\x7b' then
      some (.field (place + 1), { d with span := if text first = "" then none else text first })
    else some (part, d)
  | .field first =>
    if c = '\x7d' then
      match between piece first place with
      | [] => none
      | condition => some (.fields, { d with fields := [.ofChars condition] })
    else some (part, d)
  | .fields => if c = ']' then some (.closed, d) else none
  | .closed => if c = '=' then some (.level (place + 1), d) else none
  | .level _ => some (part, d)

/-- What has been read once a piece ends. -/
def finish (piece : List Char) : Part × Directive → Option Directive
  | (.word first, d) =>
    match levelDepth? (piece.drop first) with
    | some depth => some { d with depth }
    | none => some { d with target := some (String.ofList (piece.drop first)) }
  | (.level first, d) =>
    match piece.drop first with
    | [] => some d
    | word => (levelDepth? word).map fun depth => { d with depth }
  | (.closed, d) => some d
  | _ => none

/-- Reads a directive. The blanks around it do not count for where its parts begin and end, but the
parts are cut out of the piece with the blanks. -/
def parse? (piece : List Char) : Option Directive :=
  match (Text.trimChars piece).zipIdx.foldlM (readChar piece) (.start, {}) with
  | some state => finish piece state
  | none => none

/-- Whether a directive is about lines, and not about spans alone. -/
def isAboutLines (d : Directive) : Bool :=
  d.span.isNone && d.fields.all (·.value.isNone)

/-- Whether a line has a field; every line has its message. -/
def hasField (line : Line) (name : String) : Bool :=
  name == "message" || line.fields.any (·.1 == name)

/-- Whether a directive applies to a line. -/
def applies (d : Directive) (line : Line) : Bool :=
  d.isAboutLines &&
    (match d.target with
      | none => true
      | some target => target.toList.isPrefixOf line.source.target.toList) &&
    d.fields.all (hasField line ·.name)

/-- Whether one list of names stands before another in the order of a dictionary, or is the same. -/
def namesLe : List String → List String → Bool
  | [], _ => true
  | _ :: _, [] => false
  | a :: as, b :: bs => if a = b then namesLe as bs else decide (a < b)

/-- How specific a directive is by its target: one without is less specific than any other. -/
def targetSize (d : Directive) : Nat :=
  match d.target with
  | none => 0
  | some target => target.utf8ByteSize + 1

/-- Whether `e` is at least as specific as `d`, where both apply to one line: a longer target is
more specific, then more fields, then names that come later in the dictionary. -/
def leSpecific (d e : Directive) : Bool :=
  if d.targetSize = e.targetSize then
    if d.fields.length = e.fields.length then
      namesLe (d.fields.map (·.name)) (e.fields.map (·.name))
    else decide (d.fields.length < e.fields.length)
  else decide (d.targetSize < e.targetSize)

end Directive

/-- A filter. -/
abbrev Filter := List Directive

namespace Filter

/-- The variable of the environment that gives a filter. -/
def envVariable : String := "RUST_LOG"

/-- Reads a filter; empty pieces do not count. -/
def parse? (text : String) : Option Filter :=
  ((text.toList.splitOn ',').filter (· ≠ [])).mapM Directive.parse?

/-- The directive that decides about a line: the most specific that applies, of equals the last. -/
def deciding? (filter : Filter) (line : Line) : Option Directive :=
  (filter.filter (·.applies line)).foldl
    (fun best d =>
      match best with
      | none => some d
      | some b => if b.leSpecific d then some d else some b)
    none

/-- Whether a line passes. -/
def passes (filter : Filter) (line : Line) : Bool :=
  match filter.deciding? line with
  | some d => decide (line.level.depth ≤ d.depth)
  | none => false

/-- The filter of a text; one that cannot be read counts as missing, and then `fallback` counts. -/
def ofText (text : Option String) (fallback : String) : Filter :=
  ((text.bind parse?).orElse fun _ => parse? fallback).getD []

end Filter

end BackupMonitor.Log
