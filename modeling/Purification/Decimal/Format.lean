import Purification.Decimal.Basic

/-! # Writing numbers

A number is written with the digits of its shortest decimal. A format says where the
point may stand, what follows a whole number, and how values that are not finite are
spelt.
-/

namespace Purification

structure NumberFormat where
  /-- Which of two equally near decimals is written. -/
  tie : Tie
  /-- The exponents of the leading digit, least and greatest, within which the point is
      written at its place; everywhere, if none are given. -/
  positional : Option (Int × Int)
  /-- Whole numbers end in a point and a zero. -/
  keepsPoint : Bool
  nan : String
  infinity : String
  negativeInfinity : String

namespace NumberFormat

/-- The format of messages: all digits written out. -/
def plain : NumberFormat :=
  { tie := .up
    positional := none
    keepsPoint := false
    nan := "NaN"
    infinity := "inf"
    negativeInfinity := "-inf" }

def writePositional (keepsPoint : Bool) (d : Decimal) : List Char :=
  let digits := Nat.toDigits 10 d.digits
  let places := (-d.exponent).toNat
  if places = 0 then
    digits ++ List.replicate d.exponent.toNat '0' ++ (if keepsPoint then ['.', '0'] else [])
  else if places < digits.length then
    digits.take (digits.length - places) ++ '.' :: digits.drop (digits.length - places)
  else '0' :: '.' :: List.replicate (places - digits.length) '0' ++ digits

/-- A decimal with a point after its first digit and an exponent, which always has a
    sign. -/
def writeExponent (d : Decimal) : List Char :=
  let exponent := d.leadingExponent
  let sign := if exponent < 0 then '-' else '+'
  let fraction := match Nat.toDigits 10 d.digits with
    | first :: second :: rest => first :: '.' :: second :: rest
    | digits => digits
  fraction ++ 'e' :: sign :: Nat.toDigits 10 exponent.natAbs

/-- The magnitude of a number that is finite. -/
def writeMagnitude (f : NumberFormat) (d : Decimal) : List Char :=
  match f.positional with
  | none => writePositional f.keepsPoint d
  | some (least, greatest) =>
      if least ≤ d.leadingExponent ∧ d.leadingExponent ≤ greatest then
        writePositional f.keepsPoint d
      else writeExponent d

/-- The text of a number. The sign of a zero is written too. -/
def write (f : NumberFormat) (x : Float) : String :=
  if x.isNaN then f.nan
  else if x.isInf then (if Binary.isSigned x then f.negativeInfinity else f.infinity)
  else
    let magnitude := f.writeMagnitude ((Binary.ofBits x.toBits).shortest f.tie)
    String.ofList (if Binary.isSigned x then '-' :: magnitude else magnitude)

end NumberFormat

end Purification
