import Purification.Sweep.Pass

/-! # Sweeping until it stops

Passes follow each other until no line had a mean above the threshold, or the summed
means of a pass are not below those of the pass before, or the cap on passes is
reached. Rounded arithmetic gives no bound on the number of passes beforehand, so
a run takes the number of passes it may make as its fuel and answers `none` if that is
used up.
-/

namespace Purification

variable {α : Type} [Scalar α]

/-- Why a run ended. -/
inductive StopReason where
  /-- Every line was within the threshold. -/
  | converged
  /-- The summed means no longer fell. -/
  | plateau
  /-- The cap on passes was reached. -/
  | passLimit
  /-- The table has no weight, so nothing was done. -/
  | zeroWeight
  deriving Repr, DecidableEq

def StopReason.label : StopReason → String
  | .converged => "converged"
  | .plateau => "plateau"
  | .passLimit => "pass_limit"
  | .zeroWeight => "zero_weight"

/-- The name of a stop reason in logs. -/
def StopReason.name : StopReason → String
  | .converged => "Converged"
  | .plateau => "Plateau"
  | .passLimit => "PassLimit"
  | .zeroWeight => "ZeroWeight"

def StopReason.ofLabel? (label : String) : Option StopReason :=
  [.converged, .plateau, .passLimit, .zeroWeight].find? (·.label = label)

/-- How a run ended. -/
structure Convergence (α : Type) where
  stop : StopReason
  passes : Nat
  threshold : α
  /-- The summed magnitudes of the last pass's means. -/
  finalImpurity : α
  deriving Repr

namespace Sweep

/-- The rule that ends a run, asked after each pass. `previous` is the summed impurity
    of the pass before; the first pass is compared with infinity. -/
def stop? (limit : Option Nat) (previous : Option α) (passes : Nat) (tally : Tally α) :
    Option StopReason :=
  let stalled := match previous with
    | some previous => Scalar.le previous tally.impurity
    | none => Scalar.isTop tally.impurity
  if stalled then some (if tally.retry then .plateau else .converged)
  else if !tally.retry then some .converged
  else if limit.any (· ≤ passes) then some .passLimit
  else none

/-- What a run keeps fixed. -/
structure Setting (α : Type) where
  weights : Array α
  lines : List (Nat × Line)
  threshold : α
  limit : Option Nat

/-- Passes from the state after `passes` of them on, at most `fuel` more. -/
def loop (g : Setting α) : (fuel passes : Nat) → Option α → Field α →
    Option (Convergence α × Field α)
  | 0, _, _, _ => none
  | fuel + 1, passes, previous, field =>
      let (field, tally) := field.pass g.weights g.threshold g.lines
      match stop? g.limit previous (passes + 1) tally with
      | some stop =>
          some ({ stop, passes := passes + 1, threshold := g.threshold,
                  finalImpurity := tally.impurity }, field)
      | none => loop g fuel (passes + 1) (some tally.impurity) field

/-- What a run leaves behind. -/
structure Result (α : Type) where
  convergence : Convergence α
  field : Field α
  /-- The value of the intercept output, if there is one. -/
  intercept : Option α

/-- The first `n` entries changed by `f`, the others as they are. -/
def mapFirst (n : Nat) (f : α → α) (values : Array α) : Array α :=
  values.mapIdx fun i x => if i < n then f x else x

@[simp] theorem size_mapFirst {β : Type} (n : Nat) (f : β → β) (values : Array β) :
    (mapFirst n f values).size = values.size := Array.size_mapIdx

/-- Sweeps a table. A table without weight is left as it is. Otherwise the weighted
    mean is taken out first if there is an intercept output for it, and the slots
    start from 0. Only the cells and slots of the shape are read and written. -/
def run (fuel : Nat) (shape : Shape) (tolerance : α) (limit : Option Nat) (weights : Array α)
    (field : Field α) (intercept : Option α) : Option (Result α) :=
  let cells := shape.cellCount
  let totals := Totals.scan (weights.toList.take cells) (field.scores.toList.take cells)
  if Scalar.isZero totals.weight then
    some { convergence := ⟨.zeroWeight, 0, 0, 0⟩, field, intercept }
  else
    let threshold := totals.threshold tolerance
    let scores := match intercept with
      | some _ => mapFirst cells (· - totals.mean) field.scores
      | none => field.scores
    let impurities := mapFirst shape.lineCount (fun _ => 0) field.impurities
    let setting := { weights, lines := shape.lines, threshold, limit }
    (loop setting fuel 0 none { scores, impurities }).map fun (convergence, field) =>
      { convergence, field, intercept := intercept.map fun _ => totals.mean }

end Sweep

end Purification
