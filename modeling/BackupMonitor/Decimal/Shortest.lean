import BackupMonitor.Decimal.Positional
/-!
# The fewest digits that read back

A binary floating point number `m · 2 ^ q` stands for every real number that rounds to it: those
between the midpoints to its two neighbours, the midpoints included if `m` is even. `shortest`
finds a decimal with the fewest digits among them, and of two such decimals the one nearer to
`m · 2 ^ q`; the greater if both are equally near.

For one, two, … seventeen digits it looks at the two decimals of that many digits on either side of
the number. Seventeen digits always suffice.
-/

namespace BackupMonitor.Decimal

/-- A finite positive number `mantissa · 2 ^ exponent`. -/
structure Binary where
  /-- The whole factor. -/
  mantissa : Nat
  /-- The power of two. -/
  exponent : Int
  /-- Whether the neighbour below is only half as far away as the one above. -/
  narrowBelow : Bool
deriving DecidableEq, Repr

namespace Binary

/-- The least `k` with `b < 10 ^ k`, for numbers not below `10 ^ -400`. -/
def magnitude (b : Binary) : Int :=
  let scaled :=
    b.mantissa * twoTo b.exponent.toNat * tenTo 400 / twoTo (-b.exponent).toNat
  (digits scaled).length - 400

/-- The decimals `c · 10 ^ unit` next to the number that round to it, the nearest first. -/
def nearbyOnGrid (b : Binary) (unit : Int) : Option Decimal :=
  let up := twoTo (b.exponent - 2).toNat * tenTo (-unit).toNat
  let down := twoTo (2 - b.exponent).toNat * tenTo unit.toNat
  let value := 4 * b.mantissa * up
  let low := (4 * b.mantissa - (if b.narrowBelow then 1 else 2)) * up
  let high := (4 * b.mantissa + 2) * up
  let inside (c : Nat) : Bool :=
    if b.mantissa % 2 = 0 then decide (low ≤ c * down) && decide (c * down ≤ high)
    else decide (low < c * down) && decide (c * down < high)
  let below := value / down
  let above := below + 1
  let aboveNearer := decide (above * down - value ≤ value - below * down)
  if inside below && !(inside above && aboveNearer) then some ⟨below, unit⟩
  else if inside above then some ⟨above, unit⟩
  else none

/-- A decimal with at least `count` digits that rounds to the number, on the coarsest grid that
has one; `fuel` bounds the number of grids that are tried. -/
def shortestFrom (b : Binary) (fuel count : Nat) : Decimal :=
  match fuel with
  | 0 => ⟨0, 0⟩
  | fuel + 1 =>
    match b.nearbyOnGrid (b.magnitude - count) with
    | some d => d
    | none => b.shortestFrom fuel (count + 1)

/-- The decimal with the fewest digits that rounds to the number. -/
def shortest (b : Binary) : Decimal :=
  b.shortestFrom 17 1

end Binary

/-- The magnitude of a finite floating point number, from its bit pattern. -/
def ofBits (bits : Nat) : Binary :=
  let fraction := bits % twoTo 52
  let scale : Nat := bits / twoTo 52 % twoTo 11
  if scale = 0 then ⟨fraction, -1074, false⟩
  else ⟨twoTo 52 + fraction, (scale : Int) - 1075, fraction == 0 && decide (1 < scale)⟩

/-- The text of a floating point number: the fewest digits that read back, in positional form. -/
def floatText (x : Float) : String :=
  let bits := x.toBits.toNat
  let sign := if bits / twoTo 63 = 1 then "-" else ""
  if bits / twoTo 52 % twoTo 11 = 2047 then
    if bits % twoTo 52 = 0 then sign ++ "inf" else "NaN"
  else if bits % twoTo 63 = 0 then sign ++ "0"
  else sign ++ (ofBits bits).shortest.positional

end BackupMonitor.Decimal
