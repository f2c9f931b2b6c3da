import BackupMonitor.Json.Lexer
/-!
# Drafts of JSON values

A draft is as much of a value as a text has. Where the text breaks off, or goes on with something
that cannot stand there, the draft has a fault in the place of what is missing. Nothing comes after
a fault, so a reader that goes through a draft in the order of the text meets the fault last; it
may well have refused the draft for another reason before.

The fields of an object are all there, in order, also those with a name that occurred before. The
draft is made by a machine that takes one token after the other and keeps the lists and objects that
are open on a stack.
-/

namespace BackupMonitor.Json

/-- How a list or an object ends. -/
inductive Ending where
  /-- With its closing bracket. -/
  | closed
  /-- With a fault in the place of the bracket or what else could come next: what a strict and a
  lenient reader find there. -/
  | faulty (strict lenient : Fault)
deriving DecidableEq, Repr

/-- As much of a value as a text has. A name or a text is `none` if it has half a surrogate pair. -/
inductive Draft where
  /-- A word, which stands for a value. -/
  | word (value : Json)
  /-- A number, with its value if it has one. -/
  | number (value : Option Json)
  /-- A text. -/
  | text (value : Option String)
  /-- A list. -/
  | list (items : List Draft) (ending : Ending)
  /-- An object. -/
  | object (fields : List (Option String × Draft)) (ending : Ending)
  /-- A word, a number or a text that cannot be completed. -/
  | broken (inText : Bool) (strict lenient : Fault)
  /-- No value where one is due. -/
  | missing (fault : Fault)

instance : Inhabited Draft := ⟨.missing .incomplete⟩

namespace Draft

/-- A list or an object that is open, up to the value that is being read. -/
inductive Frame where
  /-- A list, with the items before the value, last first. -/
  | item (before : List Draft)
  /-- An object, with the fields before the value, last first, and the name of the value. -/
  | field (before : List (Option String × Draft)) (name : Option String)

/-- The list or the object that is open, with a value put in that cannot be completed. -/
def Frame.breakOff (frame : Frame) (value : Draft) : Draft :=
  match frame with
  | item before => .list (value :: before).reverse (.faulty .incomplete .incomplete)
  | field before name => .object ((name, value) :: before).reverse (.faulty .incomplete .incomplete)

/-- What can come next. -/
inductive Place where
  /-- A value. -/
  | value
  /-- A value or the end of a list without items. -/
  | firstItem
  /-- A name, after these fields, last first; or the end of an object without fields. -/
  | name (before : List (Option String × Draft))
  /-- The colon after a name. -/
  | colon (before : List (Option String × Draft)) (name : Option String)
  /-- What goes on after a value, or ends what the value is in. -/
  | after (value : Draft)

/-- A draft, and whether the text goes on after a value that is complete. -/
structure Page where
  /-- The draft. -/
  draft : Draft
  /-- Whether more follows. -/
  goesOn : Bool := false

/-- The draft that a value makes which cannot be completed. -/
def breakOff (stack : List Frame) (value : Draft) : Page where
  draft := stack.foldl (fun value frame => frame.breakOff value) value

/-- What can come after the first token of a value; nothing if the token begins no value. -/
def afterFirst? : Token → Option Place
  | .openList => some .firstItem
  | .openObject => some (.name [])
  | .word v => some (.after (.word v))
  | .number v => some (.after (.number v))
  | .text s => some (.after (.text s))
  | _ => none

/-- What stands in the place of a value if a token is there that begins none. -/
def notAValue : Token → Draft
  | .broken inText strict lenient => .broken inText strict lenient
  | _ => .missing .malformed

/-- Goes on with the tokens of a value that stands in the lists and objects of a stack. -/
def build (stack : List Frame) : Place → List Token → Page
  | .value, [] => breakOff stack (.missing .incomplete)
  | .value, token :: rest =>
    match afterFirst? token with
    | some place => build stack place rest
    | none => breakOff stack (notAValue token)
  | .firstItem, [] => breakOff stack (.list [] (.faulty .incomplete .incomplete))
  | .firstItem, .closeList :: rest => build stack (.after (.list [] .closed)) rest
  | .firstItem, token :: rest =>
    match afterFirst? token with
    | some place => build (.item [] :: stack) place rest
    | none => breakOff (.item [] :: stack) (notAValue token)
  | .name before, [] => breakOff stack (.object before.reverse (.faulty .incomplete .incomplete))
  | .name before, .text name :: rest => build stack (.colon before name) rest
  | .name before, .broken true strict lenient :: _ =>
    breakOff stack (.object before.reverse (.faulty strict lenient))
  | .name [], .closeObject :: rest => build stack (.after (.object [] .closed)) rest
  | .name before, _ :: _ =>
    breakOff stack (.object before.reverse (.faulty .malformed .malformed))
  | .colon before name, [] => breakOff (.field before name :: stack) (.missing .incomplete)
  | .colon before name, .colon :: rest => build (.field before name :: stack) .value rest
  | .colon before name, _ :: _ => breakOff (.field before name :: stack) (.missing .malformed)
  | .after value, tokens =>
    match stack with
    | [] => { draft := value, goesOn := !tokens.isEmpty }
    | .item before :: stack =>
      let items := value :: before
      match tokens with
      | [] => breakOff stack (.list items.reverse (.faulty .incomplete .incomplete))
      | .closeList :: rest => build stack (.after (.list items.reverse .closed)) rest
      | .comma :: rest => build (.item items :: stack) .value rest
      | _ :: _ => breakOff stack (.list items.reverse (.faulty .malformed .malformed))
    | .field before name :: stack =>
      let fields := (name, value) :: before
      match tokens with
      | [] => breakOff stack (.object fields.reverse (.faulty .incomplete .incomplete))
      | .closeObject :: rest => build stack (.after (.object fields.reverse .closed)) rest
      | .comma :: rest => build stack (.name fields) rest
      | _ :: _ => breakOff stack (.object fields.reverse (.faulty .malformed .malformed))

/-- The draft of a text. -/
def ofChars (cs : List Char) : Page :=
  build [] .value (tokens cs)

end Draft

end BackupMonitor.Json
