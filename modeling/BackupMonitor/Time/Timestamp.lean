import BackupMonitor.Time.Calendar
import BackupMonitor.Time.Duration
/-!
# Timestamps

`Timestamp.parse?` reads the timestamps of RFC 3339: a date, a separator, a time of day with an
optional fraction, and an offset from UTC. The instant is kept in UTC together with the offset it
was written in.

* The separator is `T`, `t` or a space, and UTC may be written `Z` or `z`.
* The sign of an offset may also be the minus sign of typography.
* A fraction has at least one digit; digits after the ninth are dropped.
* A second of 60 stands for the leap second after the fifty-ninth.

A difference of two instants counts the leap second that one of them lies in, and no other.
-/

namespace BackupMonitor

/-- An instant and the offset in which it is shown. -/
structure Timestamp where
  /-- Seconds in UTC since the start of the year 0, leap seconds not counted. -/
  seconds : Int
  /-- Nanoseconds within the second; a leap second continues the one before from `10 ^ 9` on. -/
  nanos : Nat
  /-- Seconds that local time is ahead of UTC. -/
  offset : Int
deriving DecidableEq, Repr

namespace Timestamp

/-- A day in seconds. -/
def secondsPerDay : Int := 86400

/-! ## Reading -/

/-- Reads `count` digits as a number. -/
def readNumber : Nat → Nat → List Char → Option (Nat × List Char)
  | 0, n, cs => some (n, cs)
  | count + 1, n, c :: cs =>
    if c.isDigit then readNumber count (n * 10 + (c.toNat - 48)) cs else none
  | _ + 1, _, [] => none

/-- Reads `count` digits as a number not above `greatest`. -/
def readUpTo (count greatest : Nat) (cs : List Char) : Option (Nat × List Char) :=
  match readNumber count 0 cs with
  | some (n, rest) => if n ≤ greatest then some (n, rest) else none
  | none => none

/-- Reads one of the given characters. -/
def readOneOf (allowed : List Char) : List Char → Option (List Char)
  | c :: rest => if allowed.contains c then some rest else none
  | [] => none

/-- The nanoseconds that the digits of a fraction stand for. -/
def nanosOfDigits (ds : List Char) : Nat :=
  ((ds ++ List.replicate 9 '0').take 9).foldl (fun n d => n * 10 + (d.toNat - 48)) 0

/-- Reads a fraction of a second, if there is a point. -/
def readFraction (cs : List Char) : Option (Nat × List Char) :=
  match cs with
  | '.' :: rest =>
    match rest.takeWhile Char.isDigit with
    | [] => none
    | ds => some (nanosOfDigits ds, rest.dropWhile Char.isDigit)
  | _ => some (0, cs)

/-- Reads an offset in seconds. -/
def readOffset : List Char → Option (Int × List Char)
  | [] => none
  | c :: rest =>
    if c = 'Z' ∨ c = 'z' then some (0, rest)
    else do
      let negative ← if c = '+' then some false
        else if c = '-' ∨ c = '\u2212' then some true else none
      let (hours, rest) ← readUpTo 2 23 rest
      let rest ← readOneOf [':'] rest
      let (minutes, rest) ← readUpTo 2 59 rest
      let size : Int := hours * 3600 + minutes * 60
      some (if negative then -size else size, rest)

/-- Reads a date. -/
def readDate (cs : List Char) : Option (Date × List Char) := do
  let (year, rest) ← readNumber 4 0 cs
  let rest ← readOneOf ['-'] rest
  let (month, rest) ← readNumber 2 0 rest
  let rest ← readOneOf ['-'] rest
  let (day, rest) ← readNumber 2 0 rest
  let date : Date := ⟨year, month, day⟩
  if date.isValid then some (date, rest) else none

/-- Reads a time of day: the second of the day, and the nanoseconds in that second. -/
def readTime (cs : List Char) : Option ((Nat × Nat) × List Char) := do
  let (hour, rest) ← readUpTo 2 23 cs
  let rest ← readOneOf [':'] rest
  let (minute, rest) ← readUpTo 2 59 rest
  let rest ← readOneOf [':'] rest
  let (second, rest) ← readUpTo 2 60 rest
  let (fraction, rest) ← readFraction rest
  let start := hour * 3600 + minute * 60
  if second = 60 then some ((start + 59, nanosPerSecond + fraction), rest)
  else some ((start + second, fraction), rest)

/-- Reads a timestamp that takes up the whole list of characters. -/
def parseChars? (cs : List Char) : Option Timestamp := do
  let (date, rest) ← readDate cs
  let rest ← readOneOf ['T', 't', ' '] rest
  let ((second, nanos), rest) ← readTime rest
  let (offset, rest) ← readOffset rest
  if rest.isEmpty then some ⟨date.dayNumber * secondsPerDay + second - offset, nanos, offset⟩
  else none

/-- Reads a timestamp. -/
def parse? (text : String) : Option Timestamp :=
  parseChars? text.toList

/-! ## Difference -/

/-- The second of the day in UTC. -/
def secondOfDay (t : Timestamp) : Int :=
  t.seconds % secondsPerDay

/-- Whether the instant lies in a leap second. -/
def inLeapSecond (t : Timestamp) : Bool :=
  decide (nanosPerSecond ≤ t.nanos)

/-- The leap second to add to the difference of the seconds: one that the earlier time of day lies
in counts towards the later one. -/
def leapAdjustment (later earlier : Timestamp) : Int :=
  if earlier.secondOfDay < later.secondOfDay then (if earlier.inLeapSecond then 1 else 0)
  else if later.secondOfDay < earlier.secondOfDay then (if later.inLeapSecond then -1 else 0)
  else 0

/-- The time from `earlier` to `later`. -/
def since (later earlier : Timestamp) : TimeDelta :=
  ⟨(later.seconds - earlier.seconds + leapAdjustment later earlier) * nanosPerSecond +
    ((later.nanos : Int) - earlier.nanos)⟩

/-! ## Text -/

/-- Seconds in local time. -/
def localSeconds (t : Timestamp) : Int :=
  t.seconds + t.offset

/-- The local date. -/
def localDate (t : Timestamp) : Date :=
  .ofDayNumber (t.localSeconds / secondsPerDay)

/-- The local date and time of day to the second; a leap second shows as 60. -/
def dateTimeText (t : Timestamp) : String :=
  let date := t.localDate
  let second := (t.localSeconds % secondsPerDay).toNat
  Decimal.padded 4 date.year.toNat ++ "-" ++ Decimal.padded 2 date.month ++ "-" ++
    Decimal.padded 2 date.day ++ " " ++ Decimal.padded 2 (second / 3600) ++ ":" ++
    Decimal.padded 2 (second / 60 % 60) ++ ":" ++
    Decimal.padded 2 (second % 60 + t.nanos / nanosPerSecond)

/-- The offset as sign, hours and minutes with `separator` between them. -/
def offsetText (t : Timestamp) (separator : String) : String :=
  let size := t.offset.natAbs
  (if t.offset < 0 then "-" else "+") ++ Decimal.padded 2 (size / 3600) ++ separator ++
    Decimal.padded 2 (size / 60 % 60)

/-- The nanoseconds within the second that is shown. -/
def shownNanos (t : Timestamp) : Nat :=
  t.nanos % nanosPerSecond

/-- The text of a timestamp in reports, as in `2024-01-01 00:05:00.5 +0100 +0100`: the fraction
without trailing zeros, the offset, and the name of the zone, which is the offset again for all
zones but UTC. -/
def text (t : Timestamp) : String :=
  let offset := t.offsetText ""
  t.dateTimeText ++
    String.ofList (Decimal.fractionChars (Decimal.padZeros 9 (Decimal.digits t.shownNanos))) ++
    " " ++ offset ++ " " ++ (if t.offset = 0 then "UTC" else offset)

/-- A fraction of nine digits, cut to six or three if the rest is zero, absent if all is zero. -/
def groupedFraction (nanos : Nat) : String :=
  if nanos = 0 then ""
  else if nanos % 1000000 = 0 then "." ++ Decimal.padded 3 (nanos / 1000000)
  else if nanos % 1000 = 0 then "." ++ Decimal.padded 6 (nanos / 1000)
  else "." ++ Decimal.padded 9 nanos

/-- The text of a timestamp in logs, as in `2024-01-01 00:05:00.500 +01:00`. -/
def logText (t : Timestamp) : String :=
  t.dateTimeText ++ groupedFraction t.shownNanos ++ " " ++ t.offsetText ":"

end Timestamp

end BackupMonitor
