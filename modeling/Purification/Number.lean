/-! # Numbers

Cells, lines and passes are counted in words. A sweep needs the four operations, a magnitude and
a few tests of its numbers: doubles are what runs, and exact rationals give the same definitions
their ideal reading.
-/

namespace Purification

/-- Words of 64 bits hold the numbers below this bound. -/
def wordBound : Nat := 1 <<< 64

/-- Numbers with the operations and tests of a sweep. No law is assumed of them,
    so that what holds of every `Scalar` also holds of rounded arithmetic. -/
class Scalar (α : Type) extends Zero α, Add α, Sub α, Mul α, Div α where
  /-- The number without its sign. -/
  abs : α → α
  /-- Strictly below. -/
  lt : α → α → Bool
  /-- At most. -/
  le : α → α → Bool
  /-- Equal to zero, of either sign. -/
  isZero : α → Bool
  /-- At or above every number, which only a positive infinity is. -/
  isTop : α → Bool

instance : Scalar Float where
  zero := 0.0
  abs := Float.abs
  lt x y := decide (x < y)
  le x y := decide (x ≤ y)
  isZero x := x == 0.0
  isTop x := x.isInf && decide (0.0 < x)

end Purification
