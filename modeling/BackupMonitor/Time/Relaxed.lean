import BackupMonitor.Decimal.Nearest
import BackupMonitor.Text.Blank
import BackupMonitor.Time.Timestamp
/-!
# Timestamps written with some freedom

The timestamps in the metadata of objects follow RFC 3339, but less strictly than
`Timestamp.parse?` asks for:

* blanks may stand before every number, before every hyphen and colon, before the offset and at
  the end;
* a month, a day, an hour, a minute and a second may have a single digit;
* a year may have fewer than four digits, and any number of digits after a sign;
* UTC may also be written as that word, in any case;
* any number of colons and blanks, also none, may stand between the hours and the minutes of an
  offset.

A date lies between the years -262143 and 262142, here and in UTC.
-/

namespace BackupMonitor.Timestamp

/-- The characters from the first one that is no blank. -/
def skipBlanks (cs : List Char) : List Char :=
  cs.dropWhile Text.isBlank

/-- Reads the digits at the front, at least one and at most `most` of them. -/
def readDigits (most : Nat) (cs : List Char) : Option (Nat × List Char) :=
  match (cs.takeWhile Char.isDigit).take most with
  | [] => none
  | ds => some (Decimal.ofDigits ds, cs.drop ds.length)

/-- Reads one or two digits after blanks, as a number not above `greatest`. -/
def readShort (greatest : Nat) (cs : List Char) : Option (Nat × List Char) := do
  let (n, rest) ← readDigits 2 (skipBlanks cs)
  if n ≤ greatest then some (n, rest) else none

/-- Reads one of the given characters after blanks. -/
def readMark (mark : Char) (cs : List Char) : Option (List Char) :=
  readOneOf [mark] (skipBlanks cs)

/-- Reads a year after blanks. -/
def readYear (cs : List Char) : Option (Int × List Char) :=
  match skipBlanks cs with
  | '-' :: rest => (readDigits rest.length rest).map fun (n, rest) => (-(n : Int), rest)
  | '+' :: rest => (readDigits rest.length rest).map fun (n, rest) => ((n : Int), rest)
  | rest => (readDigits 4 rest).map fun (n, rest) => ((n : Int), rest)

/-- Whether dates of a year are counted. -/
def isYearInRange (year : Int) : Bool :=
  decide (-262143 ≤ year) && decide (year ≤ 262142)

/-- Reads a date. -/
def readRelaxedDate (cs : List Char) : Option (Date × List Char) := do
  let (year, rest) ← readYear cs
  let rest ← readMark '-' rest
  let (month, rest) ← readShort 12 rest
  let rest ← readMark '-' rest
  let (day, rest) ← readShort 31 rest
  let date : Date := ⟨year, month, day⟩
  if isYearInRange year && date.isValid then some (date, rest) else none

/-- Reads a time of day: the second of the day, and the nanoseconds in that second. -/
def readRelaxedTime (cs : List Char) : Option ((Nat × Nat) × List Char) := do
  let (hour, rest) ← readShort 23 cs
  let rest ← readMark ':' rest
  let (minute, rest) ← readShort 59 rest
  let rest ← readMark ':' rest
  let (second, rest) ← readShort 60 rest
  let (fraction, rest) ← readFraction rest
  let start := hour * 3600 + minute * 60
  if second = 60 then some ((start + 59, nanosPerSecond + fraction), rest)
  else some ((start + second, fraction), rest)

/-- Whether a character may stand between the hours and the minutes of an offset. -/
def isOffsetGap (c : Char) : Bool :=
  c == ':' || Text.isBlank c

/-- Reads an offset in seconds. -/
def readRelaxedOffset (cs : List Char) : Option (Int × List Char) :=
  if (cs.take 3).map Char.toUpper = ['U', 'T', 'C'] then some (0, cs.drop 3)
  else
    match cs with
    | [] => none
    | c :: rest =>
      if c = 'Z' ∨ c = 'z' then some (0, rest)
      else do
        let negative ← if c = '+' then some false
          else if c = '-' ∨ c = '\u2212' then some true else none
        let (hours, rest) ← readUpTo 2 23 rest
        let (minutes, rest) ← readUpTo 2 59 (rest.dropWhile isOffsetGap)
        let size : Int := hours * 3600 + minutes * 60
        some (if negative then -size else size, rest)

/-- Reads a timestamp that takes up the whole list of characters. -/
def parseRelaxedChars? (cs : List Char) : Option Timestamp := do
  let (date, rest) ← readRelaxedDate cs
  let rest ← readOneOf ['T', 't', ' '] rest
  let ((second, nanos), rest) ← readRelaxedTime rest
  let (offset, rest) ← readRelaxedOffset (skipBlanks rest)
  let seconds := date.dayNumber * secondsPerDay + second - offset
  if isYearInRange (Date.yearOfDay (seconds / secondsPerDay)) && (skipBlanks rest).isEmpty then
    some ⟨seconds, nanos, offset⟩
  else none

/-- Reads a timestamp that is written with some freedom. -/
def parseRelaxed? (text : String) : Option Timestamp :=
  parseRelaxedChars? text.toList

end BackupMonitor.Timestamp
