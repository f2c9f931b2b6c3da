import BackupMonitor.Decimal.Positional
/-!
# Durations

A duration is a number of nanoseconds, a difference of two instants one with a sign. The text of a
duration uses hours, minutes and seconds from one second on, and below that the greatest of
milliseconds, microseconds and nanoseconds in which it is at least one.
-/

namespace BackupMonitor

/-- A second in nanoseconds. -/
def nanosPerSecond : Nat := 1000000000

/-- A number of nanoseconds. -/
structure Duration where
  /-- The nanoseconds. -/
  nanos : Nat
deriving DecidableEq, Repr

/-- The text of a duration, as in `1h2m3.5s` or `1.5µs`. -/
def Duration.text (d : Duration) : String :=
  if d.nanos = 0 then "0s"
  else if d.nanos < 1000 then Decimal.fixed d.nanos 0 ++ "ns"
  else if d.nanos < 1000000 then Decimal.fixed d.nanos 3 ++ "µs"
  else if d.nanos < nanosPerSecond then Decimal.fixed d.nanos 6 ++ "ms"
  else
    let seconds := d.nanos / nanosPerSecond
    let hours := seconds / 3600
    let minutes := seconds % 3600 / 60
    let rest := d.nanos % (60 * nanosPerSecond)
    (if 0 < hours then Decimal.fixed hours 0 ++ "h" else "") ++
      (if 0 < hours ∨ 0 < minutes then Decimal.fixed minutes 0 ++ "m" else "") ++
      Decimal.fixed rest 9 ++ "s"

/-- A difference of two instants in nanoseconds. -/
structure TimeDelta where
  /-- The nanoseconds, negative if the first instant is the earlier one. -/
  nanos : Int
deriving DecidableEq, Repr

namespace TimeDelta

/-- The greatest difference that is represented: `2 ^ 63 - 1` milliseconds either way. -/
def limit : Int := ((twoTo 63 : Int) - 1) * 1000000

/-- The difference of whole seconds and further nanoseconds, if it is represented. -/
def ofParts? (seconds : Int) (nanos : Nat) : Option TimeDelta :=
  let total := seconds * nanosPerSecond + nanos
  if nanos < nanosPerSecond ∧ -limit ≤ total ∧ total ≤ limit then some ⟨total⟩ else none

end TimeDelta

end BackupMonitor
