/-!
# Floating point numbers from decimal digits

A decimal is read as the floating point number nearest to it, and of two equally near ones as the
one whose last bit is zero. A decimal too great for any finite number is read as infinity.
-/

namespace BackupMonitor.Decimal

/-- The number that decimal digits write. -/
def ofDigits (ds : List Char) : Nat :=
  ds.foldl (fun n d => n * 10 + (d.toNat - 48)) 0

/-- The floating point number nearest to `coefficient · 10 ^ exponent`. A decimal with its first
digit far outside the range of floating point numbers is not computed exactly. -/
def nearest (coefficient : Nat) (exponent : Int) : Float :=
  let size : Int := (Nat.toDigits 10 coefficient).length + exponent
  if coefficient = 0 ∨ size < -400 then 0
  else if 400 < size then 1 / 0
  else if 0 ≤ exponent then Float.ofScientific coefficient false exponent.toNat
  else Float.ofScientific coefficient true (-exponent).toNat

/-- The digits at the front of a list, and what follows them. -/
def spanDigits (cs : List Char) : List Char × List Char :=
  (cs.takeWhile Char.isDigit, cs.dropWhile Char.isDigit)

/-- The whole number that a list of digits writes after an optional sign. -/
def signedDigits? (cs : List Char) : Option Int :=
  let (negative, ds) :=
    match cs with
    | '-' :: ds => (true, ds)
    | '+' :: ds => (false, ds)
    | ds => (false, ds)
  if ds.isEmpty || !ds.all Char.isDigit then none
  else some (if negative then -(ofDigits ds : Int) else ofDigits ds)

/-- The number that a text writes: digits with an optional fraction and an optional exponent, or a
word for a number that is not finite; all with an optional minus sign. -/
def float? (text : String) : Option Float :=
  let (negative, cs) :=
    match text.toList with
    | '-' :: cs => (true, cs)
    | cs => (false, cs)
  let magnitude : Option Float :=
    match String.ofList cs with
    | "NaN" => some (0 / 0)
    | "inf" => some (1 / 0)
    | _ =>
      let (whole, rest) := spanDigits cs
      let (fraction, rest) :=
        match rest with
        | '.' :: rest => spanDigits rest
        | rest => ([], rest)
      let exponent : Option Int :=
        match rest with
        | [] => some 0
        | e :: ds => if e = 'e' ∨ e = 'E' then signedDigits? ds else none
      if whole.isEmpty && fraction.isEmpty then none
      else exponent.map fun e => nearest (ofDigits (whole ++ fraction)) (e - fraction.length)
  magnitude.map fun x => if negative then -x else x

end BackupMonitor.Decimal
