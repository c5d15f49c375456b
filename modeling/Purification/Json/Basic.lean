import Purification.Decimal.Reader

/-! # JSON values

A tree of values, and how parts of it are taken as values of other kinds. Reading is
strict about kinds: no text is taken for a number, and nothing missing for null.
-/

namespace Purification

/-! ## Numerals

A number keeps the digits it is written with. What it means depends on who reads it: as
a count it has to be a bare run of digits, as a double it is rounded.
-/

namespace Json

/-- A number as it is written: digits before the point, digits after it if there is a
    point, and the exponent with its sign if there is an exponent. -/
structure Numeral where
  negative : Bool := false
  whole : List Char
  fraction : List Char := []
  exponent : List Char := []
  deriving Repr, DecidableEq

namespace Numeral

/-- The digits before the point: a zero alone, or digits that do not start with one. -/
def scanWhole? (cs : List Char) : Option (List Char × List Char) :=
  match cs with
  | '0' :: cs => some (['0'], cs)
  | cs =>
      match Decimal.splitDigits cs with
      | ([], _) => none
      | (digits, cs) => some (digits, cs)

/-- The digits after a point, if there is one. -/
def scanFraction? : List Char → Option (List Char × List Char)
  | '.' :: cs =>
      match Decimal.splitDigits cs with
      | ([], _) => none
      | (digits, cs) => some (digits, cs)
  | cs => some ([], cs)

/-- The exponent with its sign, if there is one. -/
def scanExponent? : List Char → Option (List Char × List Char)
  | [] => some ([], [])
  | c :: cs =>
      if c = 'e' ∨ c = 'E' then
        let (sign, cs) := match cs with
          | '+' :: cs => (['+'], cs)
          | '-' :: cs => (['-'], cs)
          | cs => ([], cs)
        match Decimal.splitDigits cs with
        | ([], _) => none
        | (digits, cs) => some (sign ++ digits, cs)
      else some ([], c :: cs)

/-- The number at the start of a text, and what follows it. -/
def scan? (cs : List Char) : Option (Numeral × List Char) := do
  let (negative, cs) := match cs with
    | '-' :: cs => (true, cs)
    | cs => (false, cs)
  let (whole, cs) ← scanWhole? cs
  let (fraction, cs) ← scanFraction? cs
  let (exponent, cs) ← scanExponent? cs
  return ({ negative, whole, fraction, exponent }, cs)

def text (n : Numeral) : List Char :=
  (if n.negative then ['-'] else []) ++ n.whole ++
    (if n.fraction.isEmpty then [] else '.' :: n.fraction) ++
    (if n.exponent.isEmpty then [] else 'e' :: n.exponent)

def ofNat (n : Nat) : Numeral := { whole := Nat.toDigits 10 n }

/-- The number as a count of 64 bits. A sign, a point or an exponent makes it no count. -/
def count? (n : Numeral) : Option Nat :=
  if n.negative ∨ n.fraction ≠ [] ∨ n.exponent ≠ [] then none
  else
    let value := Decimal.appendDigits 0 n.whole
    if value < wordBound then some value else none

/-- Appends digits to a significand for as long as it has 64 bits, and gives back the
    digits for which there is no room. -/
def fill (significand : Nat) : List Char → Nat × List Char
  | [] => (significand, [])
  | c :: cs =>
      let next := Decimal.appendDigits significand [c]
      if next < wordBound then fill next cs else (significand, c :: cs)

def power (exponent : Nat) : Float := .ofScientific 1 false exponent

/-- The greatest power of ten that is a double. -/
def maxPower : Nat := 308

/-- A double divided by a power of ten, which may take several divisions. -/
def divide (x : Float) (exponent : Nat) : Float :=
  if exponent ≤ maxPower then x / power exponent
  else if x == 0.0 then x
  else divide (x / power maxPower) (exponent - maxPower)
termination_by exponent
decreasing_by
  have : 0 < maxPower := by decide
  omega

/-- A double multiplied by a power of ten, if the product is finite. -/
def multiply? (x : Float) (exponent : Nat) : Option Float :=
  if exponent ≤ maxPower then
    let product := x * power exponent
    if product.isInf then none else some product
  else if x == 0.0 then some x
  else none

/-- The greatest exponent that is worth adding up. -/
def maxExponent : Nat := (1 <<< 31) - 1

/-- The significand of 64 bits, and how many places its point has to move to the right.
    Digits before the point for which there is no room count as zeros, and those after it
    as nothing. -/
def parts (n : Numeral) : Nat × Int :=
  let (significand, dropped) := fill 0 n.whole
  let (significand, unread) := fill significand n.fraction
  (significand, (dropped.length : Int) - (n.fraction.length - unread.length : Nat))

/-- The magnitude of the number as a double, if it is finite. -/
def magnitude? (n : Numeral) : Option Float :=
  let (significand, shift) := n.parts
  let (down, digits) := Decimal.splitSign n.exponent
  let exponent := Decimal.appendDigits 0 digits
  let x := Float.ofNat significand
  if maxExponent < exponent then
    if significand = 0 ∨ down then some 0.0 else none
  else
    let shift := if down then shift - exponent else shift + exponent
    if shift < 0 then some (divide x shift.natAbs) else multiply? x shift.natAbs

/-- The number as a double, if it is finite. A minus sign makes a zero negative. -/
def float? (n : Numeral) : Option Float :=
  n.magnitude?.map fun x => if n.negative then -x else x

end Numeral

end Json

/-! ## Values -/

/-- A JSON value. A string with half of a surrogate pair in it stands for no text. -/
inductive Json where
  | null
  | bool (value : Bool)
  | number (numeral : Json.Numeral)
  | string (text : Option String)
  | array (items : List Json)
  | object (fields : List (Option String × Json))

namespace Json

def bool? : Json → Option Bool
  | .bool value => some value
  | _ => none

/-- A count of 64 bits. -/
def count? : Json → Option Nat
  | .number n => n.count?
  | _ => none

def float? : Json → Option Float
  | .number n => n.float?
  | _ => none

def list? {β : Type} (take? : Json → Option β) : Json → Option (List β)
  | .array items => items.mapM take?
  | _ => none

def nullable? {β : Type} (take? : Json → Option β) : Json → Option (Option β)
  | .null => some none
  | j => (take? j).map some

/-- The values with the given names. They are the fields of an object, where each of them
    may stand once and others are passed over, or the items of an array in this order. -/
def record? (names : List String) : Json → Option (List (Option Json))
  | .object fields => do
      let fields ← fields.mapM fun (key, value) => key.map (·, value)
      let values := names.map fun name => (fields.filter (·.1 = name)).map (·.2)
      if values.any (1 < ·.length) then none else some (values.map (·.head?))
  | .array items => if items.length = names.length then some (items.map some) else none
  | _ => none

/-- A name out of a fixed set: a string, or an object with this one field, which is
    null. -/
def name? : Json → Option String
  | .string text => text
  | .object [(key, .null)] => key
  | _ => none

end Json

end Purification
