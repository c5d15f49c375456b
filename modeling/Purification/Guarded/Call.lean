import Purification.Call.Report
import Purification.Guarded.Sweep

/-! # Guarded calls

The boundary takes slices of the buffers it has checked, copies the lengths into slots, and has
the shape measured before it sweeps. Each of its steps can find a fault, and could fail beside.
-/

namespace Purification

/-- What an accepted call asks for, with the layout of its shape. -/
inductive Admitted (α : Type) where
  | zeroDimensions
  | emptyTensor
  | table (l : Layout) (weights : Array α) (field : Field α)

def Admitted.ofAdmission {α : Type} : Admission α → Admitted α
  | .zeroDimensions => .zeroDimensions
  | .emptyTensor => .emptyTensor
  | .table shape weights field => .table (.ofShape shape) weights field

namespace Guarded

/-- A check that can find a fault, and that could fail beside. -/
abbrev Check : Type → Type := ExceptT Fault Option

def require {β : Type} (buffer : Buffer) (required : Nat) : Option (Array β) → Check (Slice β)
  | none => throw (.missingBuffer buffer)
  | some values =>
      if values.size < required then throw (.bufferTooSmall buffer required values.size)
      else liftM (Slice.of? values required)

def layout (rank : Nat) (lengths : List Int) : Check (Option Layout) :=
  match lengths.zipIdx.find? fun (length, _) => length < 0 with
  | some (length, dimension) => throw (.negativeDimensionLength dimension length)
  | none =>
      if 0 ∈ lengths then pure none
      else do
        let counts ← MonadExcept.ofExcept (Call.convert 0 lengths)
        let slots := slotsOf (counts.take Shape.maxRank)
        let l : Layout ← Layout.measure (← liftM (slice? slots rank))
        return some l

variable {α : Type}

def table (call : Call α) (l : Layout) : Check (Admitted α) := do
  let weights ← require .weights l.cellCount call.weights
  let scores ← require .scores l.cellCount call.scores
  let impurities ← require .impurities l.lineCount call.impurities
  return .table l weights.values { scores := scores.values, impurities := impurities.values }

def admission (call : Call α) : Check (Admitted α) :=
  if call.dimensionCount = 0 then pure .zeroDimensions
  else if call.dimensionCount < 0 then throw (.negativeDimensionCount call.dimensionCount)
  else if (Shape.maxRank : Int) < call.dimensionCount then
    throw (.tooManyDimensions call.dimensionCount Shape.maxRank)
  else do
    let rank := call.dimensionCount.toNat
    let lengths ← require .dimensionLengths rank call.lengths
    match ← layout rank lengths.toList with
    | none => return .emptyTensor
    | some l => table call l

def purify [Scalar α] (fuel : Nat) (limit : Option Nat) (call : Call α) :
    Option (Option (Report α)) := do
  match ← (admission call).run with
  | .error fault => return some (call.idle [.rejected fault] (.error fault))
  | .ok .zeroDimensions =>
      return some (call.idle [.zeroDimensions, .exited .zeroDimensions] (.ok .zeroDimensions))
  | .ok .emptyTensor =>
      return some (call.idle [.emptyTensor, .exited .emptyTensor] (.ok .emptyTensor))
  | .ok (.table l weights field) =>
      let swept ← run fuel l call.tolerance limit weights field (call.intercept.map fun _ => 0)
      return swept.map fun swept =>
        { events := [.entered call.summary, .exited (.purified swept.convergence)]
          result := .ok (.purified swept.convergence)
          scores := some swept.field.scores
          impurities := some swept.field.impurities
          intercept := swept.intercept }

end Guarded

end Purification
