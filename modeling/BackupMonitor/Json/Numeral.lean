import BackupMonitor.Decimal.Nearest
import BackupMonitor.Decimal.Powers
import BackupMonitor.Json.Basic
/-!
# The values of JSON numbers

A number written without point and exponent is a whole number if it fits 64 bits, unsigned or
signed; `-0` is not whole. Every other number is a floating point number, which is computed from
at most 64 bits of its digits:

* the digits make up a whole number, the significand, as long as it fits 64 bits; digits after
  that count by their place alone, or not at all if they stand in the fraction;
* the significand becomes a floating point number, which is multiplied or divided by a power of
  ten, itself a floating point number.

So a number of up to 15 digits with a small exponent is read as the nearest floating point number,
and a longer one as a number near it. A number too great to be finite has no value.
-/

namespace BackupMonitor.Json

/-- A number as it is written. -/
structure Numeral where
  /-- Whether it has a minus sign. -/
  negative : Bool
  /-- The digits before the point. -/
  whole : List Char
  /-- The digits after the point, if there is a point. -/
  fraction : Option (List Char) := none
  /-- The exponent, if there is one: whether it has a minus sign, and its digits. -/
  exponent : Option (Bool × List Char) := none
deriving DecidableEq, Repr

namespace Numeral

/-- The value of a digit. -/
def digitValue (d : Char) : Nat :=
  d.toNat - 48

/-- Puts digits at the end of a significand as long as it fits 64 bits, and counts the digits that
are left over from the first that does not fit. -/
def absorb (significand : Nat) : List Char → Nat × Nat
  | [] => (significand, 0)
  | d :: ds =>
    let next := significand * 10 + digitValue d
    if next < twoTo 64 then absorb next ds else (significand, ds.length + 1)

/-- The greatest power of ten that is a finite floating point number. -/
def maxTen : Nat := 308

/-- The floating point number nearest to a power of ten. -/
def floatTen (exponent : Nat) : Float :=
  Float.ofScientific 1 false exponent

/-- Divides `x` by a power of ten, by at most the greatest one at a time. Two divisions by that one
leave nothing of a significand, so a `fuel` of three is enough for every exponent. -/
def shrink : Nat → Float → Nat → Float
  | 0, x, _ => x
  | fuel + 1, x, exponent =>
    if exponent ≤ maxTen then x / floatTen exponent
    else if x == 0 then x
    else shrink fuel (x / floatTen maxTen) (exponent - maxTen)

/-- The floating point number that stands for `significand · 10 ^ exponent`, if it is finite. -/
def scaled? (significand : Nat) (exponent : Int) : Option Float :=
  let x := Float.ofNat significand
  if exponent < 0 then some (shrink 3 x (-exponent).toNat)
  else if exponent ≤ maxTen then
    let y := x * floatTen exponent.toNat
    if y.isInf then none else some y
  else if significand = 0 then some x
  else none

/-- The greatest exponent that is taken for what it is; a greater one stands for infinity. -/
def maxExponent : Nat := twoTo 31 - 1

/-- The size of a number that is read as floating point, if it is finite. -/
def magnitude? (n : Numeral) : Option Float :=
  let (start, skipped) := absorb 0 n.whole
  let places := n.fraction.getD []
  let (significand, ignored) := absorb start places
  let exponent : Int := (skipped : Int) - (places.length - ignored : Nat)
  match n.exponent with
  | none => scaled? significand exponent
  | some (negative, ds) =>
    let e := Decimal.ofDigits ds
    if e ≤ maxExponent then
      scaled? significand (if negative then exponent - e else exponent + e)
    else if negative || significand == 0 then some 0
    else none

/-- The value of a number that is read as floating point, if it is finite. -/
def float? (n : Numeral) : Option Json :=
  n.magnitude?.map fun x => .float (if n.negative then -x else x)

/-- The value of a number; a number too great to be finite has none. -/
def value? (n : Numeral) : Option Json :=
  match n.fraction, n.exponent with
  | none, none =>
    let size := Decimal.ofDigits n.whole
    if n.negative then
      if 0 < size ∧ size ≤ twoTo 63 then some (.int (-(size : Int))) else n.float?
    else if size < twoTo 64 then some (.int size)
    else n.float?
  | _, _ => n.float?

end Numeral

end BackupMonitor.Json
