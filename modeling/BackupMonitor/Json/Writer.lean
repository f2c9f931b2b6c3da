import BackupMonitor.Decimal.Shortest
import BackupMonitor.Json.Basic
/-!
# Compact JSON text

`Json.compact` writes a value without blanks. In a text only the quote, the backslash and the
characters below the space are escaped; the five that have a short escape use it.
-/

namespace BackupMonitor.Json

/-- Two lower-case hexadecimal digits. -/
def hexPair (n : Nat) : List Char :=
  [Nat.digitChar (n / 16 % 16), Nat.digitChar (n % 16)]

/-- The form of one character inside the quotes. -/
def escapeChar (c : Char) : List Char :=
  if c = '"' then ['\\', '"']
  else if c = '\\' then ['\\', '\\']
  else if c = '\x08' then ['\\', 'b']
  else if c = '\x0c' then ['\\', 'f']
  else if c = '\n' then ['\\', 'n']
  else if c = '\r' then ['\\', 'r']
  else if c = '\t' then ['\\', 't']
  else if c.toNat < 0x20 then ['\\', 'u', '0', '0'] ++ hexPair c.toNat
  else [c]

/-- The JSON form of a text. -/
def quoteChars (cs : List Char) : List Char :=
  '"' :: cs.flatMap escapeChar ++ ['"']

/-- The JSON form of a floating point number: always with a point, so that it reads back as one;
a number that JSON has no form for is written as the absent value. -/
def floatChars (x : Float) : List Char :=
  if x.isNaN || x.isInf then "null".toList
  else
    let text := (Decimal.floatText x).toList
    if text.contains '.' then text else text ++ ['.', '0']

/-- The JSON form of a whole number. -/
def intChars : Int → List Char
  | .ofNat n => Nat.toDigits 10 n
  | .negSucc n => '-' :: Nat.toDigits 10 (n + 1)

mutual

/-- The characters of a value. -/
def chars : Json → List Char
  | null => "null".toList
  | bool b => if b then "true".toList else "false".toList
  | int n => intChars n
  | float x => floatChars x
  | string s => quoteChars s.toList
  | array items => '[' :: itemsChars items ++ [']']
  | object fields => '\x7b' :: fieldsChars fields ++ ['\x7d']

/-- The characters of a list of values, separated by commas. -/
def itemsChars : List Json → List Char
  | [] => []
  | [v] => chars v
  | v :: w :: rest => chars v ++ ',' :: itemsChars (w :: rest)

/-- The characters of a list of fields, separated by commas. -/
def fieldsChars : List (String × Json) → List Char
  | [] => []
  | [(key, v)] => quoteChars key.toList ++ ':' :: chars v
  | (key, v) :: field :: rest =>
    quoteChars key.toList ++ ':' :: chars v ++ ',' :: fieldsChars (field :: rest)

end

/-- The text of a value, without blanks. -/
def compact (v : Json) : String :=
  String.ofList v.chars

end BackupMonitor.Json
