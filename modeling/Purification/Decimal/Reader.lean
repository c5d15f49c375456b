import Purification.Decimal.Basic
import Purification.Number

/-! # Reading numbers

Numbers as a user writes them in a setting: digits with an optional point, sign and
exponent, or the name of a value that is not finite. Reading rounds to the nearest
double.
-/

namespace Purification

namespace Decimal

/-- The number with the given decimal digits, continuing from `n`. -/
def appendDigits (n : Nat) (digits : List Char) : Nat :=
  digits.foldl (fun n c => 10 * n + (c.toNat - '0'.toNat)) n

def splitDigits (cs : List Char) : List Char × List Char := cs.span Char.isDigit

/-- Splits off a sign, which is true for a minus. -/
def splitSign : List Char → Bool × List Char
  | '-' :: cs => (true, cs)
  | '+' :: cs => (false, cs)
  | cs => (false, cs)

/-- A whole number, if there are digits and nothing else. -/
def natural? (cs : List Char) : Option Nat :=
  match splitDigits cs with
  | (digits@(_ :: _), []) => some (appendDigits 0 digits)
  | _ => none

/-- The exponent at the end of a number; 0 if nothing is left. -/
def exponent? : List Char → Option Int
  | [] => some 0
  | c :: cs =>
      if c = 'e' ∨ c = 'E' then
        let (negative, cs) := splitSign cs
        (natural? cs).map fun n => if negative then -(n : Int) else n
      else none

/-- A number without sign. A digit has to stand on one side of the point at least. -/
def unsigned? (cs : List Char) : Option Decimal :=
  let (whole, rest) := splitDigits cs
  let (fraction, rest) := match rest with
    | '.' :: rest => splitDigits rest
    | rest => ([], rest)
  if whole.isEmpty ∧ fraction.isEmpty then none
  else (exponent? rest).map fun exponent =>
    ⟨appendDigits (appendDigits 0 whole) fraction, exponent - fraction.length⟩

/-- The double nearest to a decimal. Far beyond the range of doubles there is nothing to
    compute. -/
def toFloat (d : Decimal) : Float :=
  if d.digits = 0 ∨ d.leadingExponent < -400 then 0.0
  else if 400 < d.leadingExponent then 1.0 / 0.0
  else .ofScientific d.digits (d.exponent < 0) d.exponent.natAbs

/-- The values that are written as words, in any case of letters. -/
def word? (cs : List Char) : Option Float :=
  let word := String.ofList (cs.map Char.toLower)
  if word = "inf" ∨ word = "infinity" then some (1.0 / 0.0)
  else if word = "nan" then some (0.0 / 0.0)
  else none

end Decimal

def readFloat? (text : String) : Option Float :=
  let (negative, cs) := Decimal.splitSign text.toList
  let magnitude := (Decimal.word? cs).or ((Decimal.unsigned? cs).map (·.toFloat))
  magnitude.map fun x => if negative then -x else x

/-- The whole number of 64 bits written in a text; it may have a plus sign. -/
def readCount? (text : String) : Option Nat := do
  let n ← Decimal.natural? (match text.toList with | '+' :: cs => cs | cs => cs)
  if n < wordBound then some n else none

end Purification
