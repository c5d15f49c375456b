import Purification.Number
import Purification.Shape.Line

/-! # Passes

Centring a line moves its weighted mean out of the scores of its cells into the slot
of the line. A pass centres every line once, in order, each on the scores that the
lines before it have left.
-/

namespace Purification

/-! ## Totals

One scan in cell order gives the total weight, the weighted sum of the scores and the
weighted sum of their magnitudes.
-/

variable {α : Type} [Scalar α]

/-- Sums over the cells of a table. -/
structure Totals (α : Type) where
  weight : α
  weightedScore : α
  absWeightedScore : α
  deriving Repr

namespace Totals

def zero : Totals α := ⟨0, 0, 0⟩

def add (t : Totals α) (weight score : α) : Totals α :=
  let product := score * weight
  { weight := t.weight + weight
    weightedScore := t.weightedScore + product
    absWeightedScore := t.absWeightedScore + Scalar.abs product }

/-- The totals of paired weights and scores; what one list has beyond the other does
    not count. -/
def scan (weights scores : List α) : Totals α :=
  (weights.zip scores).foldl (fun t cell => t.add cell.1 cell.2) zero

/-- The largest mean a line may keep: the tolerance times the mean weighted magnitude,
    and 0 for a table without weight. -/
def threshold (t : Totals α) (tolerance : α) : α :=
  if Scalar.isZero t.weight then 0 else t.absWeightedScore * tolerance / t.weight

def mean (t : Totals α) : α := t.weightedScore / t.weight

end Totals

/-! ## One pass -/

/-- The weighted mean of a line's scores, and 0 for a line without weight. -/
def Line.mean (line : Line) (weights scores : Array α) : α :=
  let (weighted, weight) := line.cells.foldl
    (fun (weighted, weight) cell =>
      let w := weights.getD cell 0
      (weighted + scores.getD cell 0 * w, weight + w))
    ((0, 0) : α × α)
  if Scalar.isZero weight then 0 else weighted / weight

/-- What a sweep works on: the scores, and one slot per line for what was removed. -/
structure Field (α : Type) where
  scores : Array α
  impurities : Array α
  deriving Repr

/-- What a pass has met so far. -/
structure Tally (α : Type) where
  /-- The magnitudes of the means, added up. -/
  impurity : α
  /-- Some mean was above the threshold. -/
  retry : Bool
  deriving Repr

def Tally.start : Tally α := ⟨0, false⟩

def Tally.note (t : Tally α) (threshold mean : α) : Tally α :=
  let magnitude := Scalar.abs mean
  { impurity := t.impurity + magnitude
    retry := t.retry || Scalar.lt threshold magnitude }

/-- The field after `mean` has moved from a line's scores to its slot. -/
def Field.remove : Field α → (slot : Nat) → (line : Line) → (mean : α) → Field α
  | { scores, impurities }, slot, line, mean =>
      { scores := line.cells.foldl (fun scores cell => scores.modify cell (· - mean)) scores
        impurities := impurities.modify slot (· + mean) }

/-- The step of a pass at one numbered line. -/
def centre (weights : Array α) (threshold : α) :
    Field α × Tally α → Nat × Line → Field α × Tally α
  | (field, tally), (slot, line) =>
      let mean := line.mean weights field.scores
      (field.remove slot line mean, tally.note threshold mean)

/-- The field after the given lines have been centred in turn, and the tally of their
    means. -/
def Field.pass (f : Field α) (weights : Array α) (threshold : α) (lines : List (Nat × Line)) :
    Field α × Tally α :=
  lines.foldl (centre weights threshold) (f, Tally.start)

end Purification
