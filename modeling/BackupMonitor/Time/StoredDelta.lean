import BackupMonitor.Time.Duration
/-!
# How a difference of two instants is stored

The seconds are rounded down and the nanoseconds beside them are never negative, so minus half a
second is minus one second and half a second more. The text of a difference is made from its
magnitude; a magnitude that is no duration would show as zero. As a number of seconds, a difference
is the sum of its whole seconds, cut toward zero, and of what is left beside them.
-/

namespace BackupMonitor

/-- Whole seconds, and the nanoseconds that come on top of them. -/
structure StoredDelta where
  /-- The seconds, rounded down. -/
  seconds : Int64
  /-- The further nanoseconds. -/
  nanos : Nat
deriving DecidableEq, Repr

namespace StoredDelta

/-- The difference that is stored, if it is one that can be represented. -/
def delta? (s : StoredDelta) : Option TimeDelta :=
  TimeDelta.ofParts? s.seconds.toInt s.nanos

/-- Whether the difference is below zero. -/
def isNegative (s : StoredDelta) : Bool :=
  s.seconds < 0

/-- The magnitude. -/
def abs (s : StoredDelta) : StoredDelta :=
  if s.isNegative ∧ s.nanos ≠ 0 then ⟨(s.seconds + 1).abs, nanosPerSecond - s.nanos⟩
  else ⟨s.seconds.abs, s.nanos⟩

/-- The duration, unless the difference is below zero. -/
def toDuration? (s : StoredDelta) : Option Duration :=
  if s.isNegative then none else some ⟨s.seconds.toInt.toNat * nanosPerSecond + s.nanos⟩

/-- The text: that of the magnitude, after a minus sign if the difference is below zero. -/
def text (s : StoredDelta) : String :=
  let magnitude := s.abs.toDuration?.getD ⟨0⟩
  if s.isNegative then "-" ++ magnitude.text else magnitude.text

/-- The seconds, cut toward zero. -/
def wholeSeconds (s : StoredDelta) : Int64 :=
  if s.isNegative ∧ s.nanos ≠ 0 then s.seconds + 1 else s.seconds

/-- The nanoseconds beside the seconds that are cut toward zero. -/
def restNanos (s : StoredDelta) : Int :=
  if s.isNegative ∧ s.nanos ≠ 0 then s.nanos - nanosPerSecond else s.nanos

end StoredDelta

namespace TimeDelta

/-- How a difference is stored. -/
def stored (d : TimeDelta) : StoredDelta :=
  ⟨.ofInt (d.nanos / nanosPerSecond), (d.nanos % nanosPerSecond).toNat⟩

/-- The text of a difference. -/
def text (d : TimeDelta) : String :=
  d.stored.text

/-- A difference in seconds. -/
def seconds (d : TimeDelta) : Float :=
  Float.ofInt d.stored.wholeSeconds.toInt + Float.ofInt d.stored.restNanos / 1e9

end TimeDelta

end BackupMonitor
