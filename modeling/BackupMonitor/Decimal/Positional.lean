import BackupMonitor.Decimal.Powers
/-!
# Positional decimal notation

A decimal is a whole number of units of a power of ten. Its positional form has no exponent, no
leading zero before another digit of the whole part, and no trailing zero in the fraction.
-/

namespace BackupMonitor

/-- The number `coefficient · 10 ^ exponent`. -/
structure Decimal where
  /-- How many units there are. -/
  coefficient : Nat
  /-- The power of ten that is the unit. -/
  exponent : Int
deriving DecidableEq, Repr

namespace Decimal

/-- The decimal digits of a number, most significant first. -/
def digits (n : Nat) : List Char :=
  Nat.toDigits 10 n

/-- A list of digits without its trailing zeros. -/
def dropEndZeros (ds : List Char) : List Char :=
  (ds.reverse.dropWhile (· == '0')).reverse

/-- A list of digits with zeros in front, so that there are at least `width`. -/
def padZeros (width : Nat) (ds : List Char) : List Char :=
  List.replicate (width - ds.length) '0' ++ ds

/-- The digits of `n`, at least `width` of them. -/
def padded (width n : Nat) : String :=
  String.ofList (padZeros width (digits n))

/-- A point and the digits of a fraction without trailing zeros, or nothing if they are all zero. -/
def fractionChars (ds : List Char) : List Char :=
  match dropEndZeros ds with
  | [] => []
  | kept => '.' :: kept

/-- The positional form of `value / 10 ^ places`. -/
def fixedChars (value places : Nat) : List Char :=
  digits (value / tenTo places) ++ fractionChars (padZeros places (digits (value % tenTo places)))

/-- The positional form of `value / 10 ^ places`, without trailing zeros in the fraction. -/
def fixed (value places : Nat) : String :=
  String.ofList (fixedChars value places)

/-- The positional form of a decimal. -/
def positional (d : Decimal) : String :=
  if 0 ≤ d.exponent then fixed (d.coefficient * tenTo d.exponent.toNat) 0
  else fixed d.coefficient (-d.exponent).toNat

end Decimal

end BackupMonitor
