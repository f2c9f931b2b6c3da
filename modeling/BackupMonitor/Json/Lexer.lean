import BackupMonitor.Json.Numeral
/-!
# The tokens of JSON text

`Json.tokens` splits a text into tokens. It is a machine that takes one character after the other;
gaps between tokens are dropped. A token that cannot be completed is the last one.

A token can be read strictly, for its value, or leniently, to be passed over. The two differ:

* a text with half a surrogate pair has no value, nor has a number too great to be finite, but both
  can be passed over;
* of a token that breaks off, a strict and a lenient reader may find different faults: a number
  without its next digit is incomplete to the one and malformed to the other.
-/

namespace BackupMonitor.Json

/-- Why a text is not a value. -/
inductive Fault where
  /-- The text ends before the value does. -/
  | incomplete
  /-- No continuation of the text is a value. -/
  | malformed
deriving DecidableEq, Repr

/-- A part of a text. -/
inductive Token where
  /-- The bracket that opens a list. -/
  | openList
  /-- The bracket that closes a list. -/
  | closeList
  /-- The brace that opens an object. -/
  | openObject
  /-- The brace that closes an object. -/
  | closeObject
  /-- What stands between two items or two fields. -/
  | comma
  /-- What stands between a name and its value. -/
  | colon
  /-- A word, with the value it stands for. -/
  | word (value : Json)
  /-- A number, with its value if it has one. -/
  | number (value : Option Json)
  /-- A text, unless half a surrogate pair is in it. -/
  | text (value : Option String)
  /-- A token that was begun, with what a strict and a lenient reader find. `inText` says whether it
  was begun as a text. -/
  | broken (inText : Bool) (strict lenient : Fault)

namespace Token

/-- A character that begins no token. -/
def stray : Token := broken false .malformed .malformed

/-- A token that ends with the text and could go on. -/
def unfinished : Token := broken false .incomplete .incomplete

/-- A number that ends where a digit has to follow. -/
def digitMissing : Token := broken false .incomplete .malformed

/-- A text with a character or an escape that it may not have. -/
def badText : Token := broken true .malformed .malformed

end Token

/-- Whether a character may stand between tokens. -/
def isGap (c : Char) : Bool :=
  c == ' ' || c == '\n' || c == '\t' || c == '\r'

/-- The value of a hexadecimal digit. -/
def hexValue? (c : Char) : Option Nat :=
  if '0' ≤ c ∧ c ≤ '9' then some (c.toNat - 48)
  else if 'a' ≤ c ∧ c ≤ 'f' then some (c.toNat - 87)
  else if 'A' ≤ c ∧ c ≤ 'F' then some (c.toNat - 55)
  else none

/-- The number written by four hexadecimal digits. -/
def hexQuad? (a b c d : Char) : Option Nat := do
  let a ← hexValue? a
  let b ← hexValue? b
  let c ← hexValue? c
  let d ← hexValue? d
  some (((a * 16 + b) * 16 + c) * 16 + d)

/-- The character of a short escape. -/
def shortEscape? (c : Char) : Option Char :=
  match c with
  | '"' => some '"'
  | '\\' => some '\\'
  | '/' => some '/'
  | 'b' => some '\x08'
  | 'f' => some '\x0c'
  | 'n' => some '\n'
  | 'r' => some '\r'
  | 't' => some '\t'
  | _ => none

/-- Whether a code unit is the first half of a surrogate pair. -/
def isHighHalf (unit : Nat) : Bool :=
  decide (0xd800 ≤ unit) && decide (unit ≤ 0xdbff)

/-- Whether a code unit is the second half of a surrogate pair. -/
def isLowHalf (unit : Nat) : Bool :=
  decide (0xdc00 ≤ unit) && decide (unit ≤ 0xdfff)

/-- The character that two halves of a surrogate pair stand for. -/
def joinSurrogates (high low : Nat) : Char :=
  Char.ofNat (0x10000 + (high - 0xd800) * 0x400 + (low - 0xdc00))

namespace Lexer

/-- Where in a text the machine is. -/
inductive TextPlace where
  /-- Between two characters. -/
  | plain
  /-- After a backslash. -/
  | escape
  /-- In the digits of an escape, of which these were read. -/
  | unit (digits : List Char)
deriving DecidableEq, Repr

/-- A text that was begun. -/
structure OpenText where
  /-- Where the machine is. -/
  place : TextPlace := .plain
  /-- The characters so far, last first. -/
  read : List Char := []
  /-- The first half of a surrogate pair, if it was just read. -/
  half : Option Nat := none
  /-- Whether half a surrogate pair stands alone. -/
  lone : Bool := false
deriving DecidableEq, Repr

/-- Where in a number the machine is. -/
inductive NumberPlace where
  /-- After the minus sign. -/
  | sign
  /-- After a leading zero. -/
  | zero
  /-- In the digits before the point. -/
  | whole
  /-- After the point. -/
  | point
  /-- In the digits after the point. -/
  | fraction
  /-- After the letter of the exponent. -/
  | mark
  /-- After the sign of the exponent. -/
  | markSign
  /-- In the digits of the exponent. -/
  | exponent
deriving DecidableEq, Repr

/-- What the machine has read of a token. -/
inductive State where
  /-- Nothing. -/
  | between
  /-- The beginning of a word, of which these characters are missing. -/
  | inWord (missing : List Char) (value : Json)
  /-- The beginning of a text. -/
  | inText (text : OpenText)
  /-- The beginning of a number, or all of it. -/
  | inNumber (place : NumberPlace) (numeral : Numeral)

/-- What a character leads to: tokens that are complete, and either what has been read of the next
one, or nothing if the machine stops. -/
structure Move where
  /-- The tokens that are complete. -/
  tokens : List Token := []
  /-- What has been read of the next token. -/
  next : Option State

/-- The machine goes on. -/
def goOn (state : State) : Move := { next := some state }

/-- The machine stops at a token that cannot be completed. -/
def stopAt (token : Token) : Move := { tokens := [token], next := none }

/-- A token is complete. -/
def complete (token : Token) : Move := { tokens := [token], next := some .between }

/-- The first character of a token. -/
def begin (c : Char) : Move :=
  if isGap c then goOn .between
  else if c = '"' then goOn (.inText {})
  else if c = '[' then complete .openList
  else if c = ']' then complete .closeList
  else if c = '\x7b' then complete .openObject
  else if c = '\x7d' then complete .closeObject
  else if c = ',' then complete .comma
  else if c = ':' then complete .colon
  else if c = 'n' then goOn (.inWord ['u', 'l', 'l'] .null)
  else if c = 't' then goOn (.inWord ['r', 'u', 'e'] (.bool true))
  else if c = 'f' then goOn (.inWord ['a', 'l', 's', 'e'] (.bool false))
  else if c = '-' then goOn (.inNumber .sign { negative := true, whole := [] })
  else if c = '0' then goOn (.inNumber .zero { negative := false, whole := [c] })
  else if c.isDigit then goOn (.inNumber .whole { negative := false, whole := [c] })
  else stopAt .stray

/-- One more character of a word. -/
def continueWord (missing : List Char) (value : Json) (c : Char) : Move :=
  match missing with
  | [] => stopAt .stray
  | w :: missing =>
    if c = w then
      if missing.isEmpty then complete (.word value) else goOn (.inWord missing value)
    else stopAt .stray

namespace OpenText

/-- The text with one more character. -/
def push (t : OpenText) (c : Char) : OpenText :=
  { t with place := .plain, read := c :: t.read, half := none }

/-- The text with one more code unit. -/
def pushUnit (t : OpenText) (unit : Nat) : OpenText :=
  match t.half with
  | some high =>
    if isLowHalf unit then t.push (joinSurrogates high unit)
    else if isHighHalf unit then { t with place := .plain, half := some unit, lone := true }
    else { t.push (Char.ofNat unit) with lone := true }
  | none =>
    if isHighHalf unit then { t with place := .plain, half := some unit }
    else if isLowHalf unit then { t with place := .plain, lone := true }
    else t.push (Char.ofNat unit)

/-- The text if the first half of a surrogate pair that was just read stands alone. -/
def dropHalf (t : OpenText) : OpenText :=
  { t with half := none, lone := t.lone || t.half.isSome }

/-- The text once it is complete. -/
def token (t : OpenText) : Token :=
  .text (if t.dropHalf.lone then none else some (String.ofList t.read.reverse))

/-- The text if the input ends here. -/
def brokenOff (t : OpenText) : Token :=
  .broken true (if t.lone then .malformed else .incomplete) .incomplete

end OpenText

/-- How many bytes characters take. -/
def byteCount (cs : List Char) : Nat :=
  cs.foldl (fun n c => n + c.utf8Size) 0

/-- One more character of a text. The digits of an escape take four bytes. -/
def continueText (t : OpenText) (c : Char) : Move :=
  match t.place with
  | .plain =>
    if c = '\\' then goOn (.inText { t with place := .escape })
    else if c = '"' then complete t.token
    else if c.toNat < 0x20 then stopAt .badText
    else goOn (.inText (t.dropHalf.push c))
  | .escape =>
    if c = 'u' then goOn (.inText { t with place := .unit [] })
    else
      match shortEscape? c with
      | some c => goOn (.inText (t.dropHalf.push c))
      | none => stopAt .badText
  | .unit digits =>
    let digits := digits ++ [c]
    if byteCount digits < 4 then goOn (.inText { t with place := .unit digits })
    else
      match digits with
      | [a, b, c, d] =>
        match hexQuad? a b c d with
        | some unit => goOn (.inText (t.pushUnit unit))
        | none => stopAt .badText
      | _ => stopAt .badText

/-- Puts a digit at the end of the part of a number that the machine is in. -/
def pushDigit (numeral : Numeral) (place : NumberPlace) (d : Char) : Numeral :=
  match place with
  | .fraction => { numeral with fraction := some (numeral.fraction.getD [] ++ [d]) }
  | .exponent =>
    let (negative, digits) := numeral.exponent.getD (false, [])
    { numeral with exponent := some (negative, digits ++ [d]) }
  | _ => { numeral with whole := numeral.whole ++ [d] }

/-- A number is complete before a character. -/
def endNumber (numeral : Numeral) (c : Char) : Move :=
  let move := begin c
  { move with tokens := .number numeral.value? :: move.tokens }

/-- A character that begins the exponent of a number, or stands after the number. -/
def markOrEnd (numeral : Numeral) (c : Char) : Move :=
  if c = 'e' ∨ c = 'E' then goOn (.inNumber .mark { numeral with exponent := some (false, []) })
  else endNumber numeral c

/-- A character that begins the fraction or the exponent of a number, or stands after it. -/
def pointOrEnd (numeral : Numeral) (c : Char) : Move :=
  if c = '.' then goOn (.inNumber .point numeral) else markOrEnd numeral c

/-- One more character of a number. -/
def continueNumber (place : NumberPlace) (numeral : Numeral) (c : Char) : Move :=
  let digit (place : NumberPlace) : Move := goOn (.inNumber place (pushDigit numeral place c))
  match place with
  | .sign =>
    if c = '0' then digit .zero else if c.isDigit then digit .whole else stopAt .stray
  | .zero => if c.isDigit then stopAt .stray else pointOrEnd numeral c
  | .whole => if c.isDigit then digit .whole else pointOrEnd numeral c
  | .point => if c.isDigit then digit .fraction else stopAt .stray
  | .fraction => if c.isDigit then digit .fraction else markOrEnd numeral c
  | .mark =>
    if c = '+' then goOn (.inNumber .markSign numeral)
    else if c = '-' then
      goOn (.inNumber .markSign { numeral with exponent := some (true, []) })
    else if c.isDigit then digit .exponent
    else stopAt .stray
  | .markSign => if c.isDigit then digit .exponent else stopAt .stray
  | .exponent => if c.isDigit then digit .exponent else endNumber numeral c

/-- One more character. -/
def step : State → Char → Move
  | .between, c => begin c
  | .inWord missing value, c => continueWord missing value c
  | .inText text, c => continueText text c
  | .inNumber place numeral, c => continueNumber place numeral c

/-- Whether a number may end at a place. -/
def canEnd : NumberPlace → Bool
  | .zero => true
  | .whole => true
  | .fraction => true
  | .exponent => true
  | _ => false

/-- The token that the end of the input completes or breaks off. -/
def finish : State → List Token
  | .between => []
  | .inWord .. => [.unfinished]
  | .inText text => [text.brokenOff]
  | .inNumber place numeral =>
    if canEnd place then [.number numeral.value?] else [.digitMissing]

/-- The tokens of the rest of a text, of which a token may have been begun. -/
def run (state : State) : List Char → List Token
  | [] => finish state
  | c :: rest =>
    let move := step state c
    match move.next with
    | some next => move.tokens ++ run next rest
    | none => move.tokens

end Lexer

/-- The tokens of a text. -/
def tokens (cs : List Char) : List Token :=
  Lexer.run .between cs

end BackupMonitor.Json
