/-!
# JSON values

A value is a tree. The fields of an object are a list of pairs; the reader keeps one field per
name, in ascending order of the names. A number is a whole number or a floating point number,
according to how it was written.
-/

namespace BackupMonitor

/-- A JSON value. -/
inductive Json where
  /-- The absent value. -/
  | null
  /-- A truth value. -/
  | bool (value : Bool)
  /-- A number written without point and exponent. -/
  | int (value : Int)
  /-- Any other number. -/
  | float (value : Float)
  /-- A text. -/
  | string (value : String)
  /-- A list of values. -/
  | array (items : List Json)
  /-- Values under names. -/
  | object (fields : List (String × Json))

namespace Json

instance : Inhabited Json := ⟨null⟩

/-- The value of the first field of that name in a list of fields. -/
def findField (name : String) : List (String × Json) → Option Json
  | [] => none
  | (key, value) :: rest => if name = key then some value else findField name rest

/-- The field of an object; no other value has fields. -/
def get? (v : Json) (name : String) : Option Json :=
  match v with
  | object fields => findField name fields
  | _ => none

/-- The value at the end of a path of field names. -/
def at? (v : Json) : List String → Option Json
  | [] => some v
  | name :: path =>
    match v.get? name with
    | some next => next.at? path
    | none => none

/-- The field of an object, `null` if there is none. -/
def getD (v : Json) (name : String) : Json :=
  (v.get? name).getD null

mutual

/-- Whether two values are the same tree. -/
def same : Json → Json → Bool
  | null, null => true
  | bool a, bool b => a == b
  | int a, int b => a == b
  | float a, float b => decide (a = b)
  | string a, string b => a == b
  | array xs, array ys => sameItems xs ys
  | object xs, object ys => sameFields xs ys
  | _, _ => false

/-- Whether two lists hold the same trees. -/
def sameItems : List Json → List Json → Bool
  | [], [] => true
  | x :: xs, y :: ys => same x y && sameItems xs ys
  | _, _ => false

/-- Whether two lists of fields are the same. -/
def sameFields : List (String × Json) → List (String × Json) → Bool
  | [], [] => true
  | (k, x) :: xs, (l, y) :: ys => k == l && same x y && sameFields xs ys
  | _, _ => false

end

end Json

end BackupMonitor
