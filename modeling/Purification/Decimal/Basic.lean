/-! # Decimals of doubles

A decimal is a whole number of units of a power of ten, a binary the same with a power
of two. The magnitude of every finite double is a binary.
-/

namespace Purification

/-- The number `digits * 10 ^ exponent`. -/
structure Decimal where
  digits : Nat
  exponent : Int
  deriving Repr, DecidableEq

/-- The number `significand * 2 ^ exponent`. -/
structure Binary where
  significand : Nat
  exponent : Int
  deriving Repr, DecidableEq

/-- The leading bit of a significand, which the bits of a double leave out. -/
def Binary.hiddenBit : Nat := 1 <<< 52

/-- The magnitude of a finite double with these bits: 52 bits of fraction below 11 bits
    of exponent, and the leading bit unless the exponent is 0. -/
def Binary.ofBits (bits : UInt64) : Binary :=
  let fraction := bits.toNat % hiddenBit
  let biased : Nat := bits.toNat / hiddenBit % 2048
  if biased = 0 then ⟨fraction, -1074⟩ else ⟨fraction + hiddenBit, biased - 1075⟩

def Binary.isSigned (x : Float) : Bool := 1 <<< 63 ≤ x.toBits.toNat

namespace Decimal

def power (n : Nat) : Nat := Nat.pow 10 n

/-- The number of decimal digits, one for 0. -/
def digitCount (n : Nat) : Nat := (Nat.toDigits 10 n).length

/-- Takes zeros off the end, at most `fuel` of them. -/
def dropZeros : (fuel : Nat) → Decimal → Decimal
  | 0, d => d
  | fuel + 1, d =>
      if d.digits % 10 = 0 then dropZeros fuel ⟨d.digits / 10, d.exponent + 1⟩ else d

def trim (d : Decimal) : Decimal :=
  if d.digits = 0 then ⟨0, 0⟩ else d.dropZeros (digitCount d.digits)

def leadingExponent (d : Decimal) : Int := d.exponent + digitCount d.digits - 1

end Decimal

/-! ## The shortest decimal

The decimal with the fewest digits that reads back as a given double, and of these the
nearest. All is exact: value, bounds and candidates are brought to one denominator.
-/

/-- Which of two equally near candidates is taken. -/
inductive Tie where
  | toEven
  | up
  deriving Repr, DecidableEq

namespace Binary

/-- The value counted in units of `10 ^ grid`, as the fraction `value / scale`, with the
    gap to the next double above as `gap / scale`. -/
structure Scaled where
  value : Nat
  gap : Nat
  scale : Nat

/-- The value on a grid of powers of ten. -/
def onGrid (x : Binary) (grid : Int) : Scaled :=
  let gap := (1 <<< x.exponent.toNat) * Decimal.power (-grid).toNat
  { value := x.significand * gap
    gap
    scale := (1 <<< (-x.exponent).toNat) * Decimal.power grid.toNat }

/-- The gap to the next double below is only half of the gap above: the value is the
    least with its exponent, and not the least of all. -/
def isNarrow (x : Binary) : Bool := x.significand = hiddenBit ∧ -1074 < x.exponent

/-- The double nearest to `candidate` units of the grid is `x`. A point halfway between
    two doubles belongs to the one with the even significand. -/
def readsBack (x : Binary) (s : Scaled) (candidate : Nat) : Bool :=
  let point := 4 * candidate * s.scale
  let low := 4 * s.value - (if x.isNarrow then s.gap else 2 * s.gap)
  let high := 4 * s.value + 2 * s.gap
  if x.significand % 2 = 0 then low ≤ point ∧ point ≤ high else low < point ∧ point < high

/-- The point of the grid nearest to `x` that reads back, if one of the two points
    around `x` does. -/
def nearest? (tie : Tie) (x : Binary) (grid : Int) : Option Nat :=
  let s := x.onGrid grid
  let below := s.value / s.scale
  match x.readsBack s below, x.readsBack s (below + 1) with
  | false, false => none
  | true, false => some below
  | false, true => some (below + 1)
  | true, true =>
      match compare (2 * s.value) ((2 * below + 1) * s.scale) with
      | .lt => some below
      | .gt => some (below + 1)
      | .eq =>
          match tie with
          | .up => some (below + 1)
          | .toEven => some (if below % 2 = 0 then below else below + 1)

def leadingExponent (x : Binary) : Int :=
  let s := x.onGrid 0
  let places := Decimal.digitCount s.scale
  (Decimal.digitCount (s.value * Decimal.power places / s.scale) : Int) - places - 1

/-- The most digits that a double ever needs. -/
def maxDigits : Nat := 17

/-- The shortest decimal that reads back as `x`. -/
def shortest (tie : Tie) (x : Binary) : Decimal :=
  let leading := x.leadingExponent
  let found := (List.range maxDigits).findSome? fun (further : Nat) =>
    let grid := leading - further
    (x.nearest? tie grid).map (Decimal.mk · grid)
  (found.getD ⟨0, 0⟩).trim

end Binary

end Purification
