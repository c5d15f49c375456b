import Purification.Guarded.Layout
import Purification.Sweep.Run

/-! # Guarded sweeps

A sweep on slices, the first entries of the buffers it is handed: as many weights and scores as
the shape has cells, and as many slots as it has lines. Reading or writing beyond a slice fails.
-/

namespace Purification

/-! ## Slices -/

/-- The first `length` entries of an array, beyond which nothing is reached. -/
structure Slice (α : Type) where
  values : Array α
  length : Nat
  within : length ≤ values.size

namespace Slice

variable {α : Type}

def of? (values : Array α) (n : Nat) : Option (Slice α) :=
  if within : n ≤ values.size then some ⟨values, n, within⟩ else none

def get? (x : Slice α) (i : Nat) : Option α := if i < x.length then x.values[i]? else none

def modify? (x : Slice α) (i : Nat) (change : α → α) : Option (Slice α) :=
  if i < x.length then
    some ⟨x.values.modify i change, x.length, by simpa using x.within⟩
  else none

def toList (x : Slice α) : List α := x.values.toList.take x.length

def map (x : Slice α) (change : α → α) : Slice α :=
  ⟨Sweep.mapFirst x.length change x.values, x.length, by
    rw [Sweep.size_mapFirst]
    exact x.within⟩

end Slice

/-! ## Passes -/

/-- The slices that a sweep writes to. -/
structure Held (α : Type) where
  scores : Slice α
  impurities : Slice α

/-- The buffers of which these are slices. -/
def Held.field {α : Type} (h : Held α) : Field α :=
  { scores := h.scores.values, impurities := h.impurities.values }

namespace Guarded

variable {α : Type} [Scalar α]

def mean (line : Line) (weights scores : Slice α) : Option α := do
  let sums ← (← Layout.cells line).foldlM (fun (sums : α × α) cell => do
    let weight ← weights.get? cell
    let score ← scores.get? cell
    return (sums.1 + score * weight, sums.2 + weight)) (0, 0)
  return if Scalar.isZero sums.2 then 0 else sums.1 / sums.2

def centre (weights : Slice α) (threshold : α) (state : Held α × Tally α)
    (numbered : Nat × Line) : Option (Held α × Tally α) := do
  let mean ← mean numbered.2 weights state.1.scores
  let impurities ← state.1.impurities.modify? numbered.1 (· + mean)
  let scores ← (← Layout.cells numbered.2).foldlM
    (fun (scores : Slice α) cell => scores.modify? cell (· - mean)) state.1.scores
  return ({ scores, impurities }, state.2.note threshold mean)

def pass (l : Layout) (weights : Slice α) (threshold : α) (held : Held α) :
    Option (Held α × Tally α) := do
  (← l.lines).foldlM (centre weights threshold) (held, Tally.start)

/-- Passes until the stop rule gives a reason, and no answer if the fuel ends before. -/
def loop (l : Layout) (weights : Slice α) (threshold : α) (limit : Option Nat) :
    (fuel passes : Nat) → Option α → Held α → Option (Option (Convergence α × Held α))
  | 0, _, _, _ => some none
  | fuel + 1, passes, previous, held => do
      let (held, tally) ← pass l weights threshold held
      match Sweep.stop? limit previous (passes + 1) tally with
      | some stop =>
          return some ({ stop, passes := passes + 1, threshold, finalImpurity := tally.impurity },
            held)
      | none => loop l weights threshold limit fuel (passes + 1) (some tally.impurity) held

/-- Sweeps a table, on slices of its buffers. -/
def run (fuel : Nat) (l : Layout) (tolerance : α) (limit : Option Nat) (weights : Array α)
    (field : Field α) (intercept : Option α) : Option (Option (Sweep.Result α)) := do
  let weights ← Slice.of? weights l.cellCount
  let scores ← Slice.of? field.scores l.cellCount
  let impurities ← Slice.of? field.impurities l.lineCount
  let totals := Totals.scan weights.toList scores.toList
  if Scalar.isZero totals.weight then
    return some { convergence := ⟨.zeroWeight, 0, 0, 0⟩, field, intercept }
  else
    let scores := match intercept with
      | some _ => scores.map (· - totals.mean)
      | none => scores
    let impurities := impurities.map fun _ => 0
    let ended ← loop l weights (totals.threshold tolerance) limit fuel 0 none
      { scores, impurities }
    return ended.map fun (convergence, held) =>
      { convergence, field := held.field, intercept := intercept.map fun _ => totals.mean }

end Guarded

end Purification
