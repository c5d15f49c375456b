import Purification.Call.Report
import Purification.Config

/-! # Decompositions

The parts of a table: its intercept, the means taken out of its lines, and the residual
that is left. Unlike a call, a decomposition leaves the caller's table as it is.
-/

namespace Purification

/-- The parts of a table. -/
structure Decomposition (α : Type) where
  lengths : List Nat
  /-- The weighted mean of the table, and 0 if it was not taken out. -/
  intercept : α
  /-- What was taken out of each line, in the order of the lines. -/
  marginals : List α
  residual : List α
  outcome : Outcome α
  deriving Repr

namespace Decomposition

variable {α : Type}

/-- What was taken out of the lines along dimension `d`. It is empty if there is no such
    dimension, or no value for each of these lines. -/
def marginal (x : Decomposition α) (d : Nat) : List α :=
  match Shape.ofLengths x.lengths with
  | .error _ => []
  | .ok shape =>
      let start := shape.offset d
      let count := shape.linesAlong d
      if d < shape.rank ∧ start + count ≤ x.marginals.length then
        (x.marginals.drop start).take count
      else []

/-- The greatest length that a call can declare. -/
def maxLength : Nat := (1 <<< 63) - 1

/-- The lengths as a call declares them, up to the largest rank. A length that is out of
    range is reported as the greatest one. -/
def declare (lengths : List Nat) : Except Fault (Array Int) :=
  let declared := lengths.take Shape.maxRank
  match declared.zipIdx.find? fun (length, _) => maxLength < length with
  | some (_, dimension) => .error (.dimensionLengthOverflow dimension maxLength)
  | none => .ok (declared.map Int.ofNat).toArray

/-- The number of slots made ready for the marginals: one for each line of a shape. -/
def slotCount (lengths : List Nat) : Nat :=
  match Shape.ofLengths lengths with
  | .error _ => 0
  | .ok shape => shape.lineCount

variable [Scalar α]

/-- The call that works on a copy of a table. -/
def callOf (config : Config α) (lengths : List Nat) (weights scores : Array α) :
    Except Fault (Call α) := do
  let declared ← declare lengths
  return { tolerance := config.tolerance
           dimensionCount := lengths.length
           lengths := some declared
           weights := some weights
           scores := some scores
           impurities := some (Array.replicate (slotCount lengths) 0)
           intercept := if config.extractIntercept then some 0 else none }

/-- The scores that remain of a table: those of its cells, if it has a shape. -/
def residualOf (lengths : List Nat) (outcome : Outcome α) (scores : List α) : List α :=
  match outcome, Shape.ofLengths lengths with
  | .emptyTensor, _ => []
  | _, .ok shape => scores.take shape.cellCount
  | _, .error _ => scores

def ofReport (lengths : List Nat) (report : Report α) : Except Fault (Decomposition α) := do
  let outcome ← report.result
  let held := fun (buffer : Option (Array α)) => (buffer.getD #[]).toList
  return { lengths
           intercept := report.intercept.getD 0
           marginals := if outcome.isNoOp then [] else held report.impurities
           residual := residualOf lengths outcome (held report.scores)
           outcome }

end Decomposition

end Purification
