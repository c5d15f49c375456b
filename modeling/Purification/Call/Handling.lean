import Purification.Call.Report
import Purification.Observer

/-! # Handling a call

A call as it is handled step by step, before an observer and on the outputs themselves. That it
came in is told before its intercept output is set, why there is nothing to do is told where it
is found, and the end is told whatever the end is. Any step could write to the outputs.
-/

namespace Purification

variable {α : Type}

/-- What a call writes to, as far as it is supplied. -/
structure Outputs (α : Type) where
  scores : Option (Array α)
  impurities : Option (Array α)
  intercept : Option α

def Call.outputs (call : Call α) : Outputs α :=
  { scores := call.scores, impurities := call.impurities, intercept := call.intercept }

/-- The outputs of a call while it is checked: only an intercept output has been set. -/
def Call.cleared [Zero α] (call : Call α) : Outputs α :=
  { call.outputs with intercept := call.intercept.map fun _ => 0 }

def Report.outputs (report : Report α) : Outputs α :=
  { scores := report.scores, impurities := report.impurities, intercept := report.intercept }

/-- The event that closes a call. -/
def Event.closing : Except Fault (Outcome α) → Event α
  | .ok outcome => .exited outcome
  | .error fault => .rejected fault

/-- How far a call has come: what its observer has heard, and what its outputs hold. -/
structure Handling.State (α : Type) where
  observer : Observer α
  outputs : Outputs α

/-- A step in handling a call: it may find a fault, tell the observer, write to the outputs, or
    never stop. -/
abbrev Handling (α : Type) : Type → Type := ExceptT Fault (StateT (Handling.State α) Option)

namespace Handling

def tell (event : Event α) : Handling α Unit :=
  modify fun s => { s with observer := s.observer.tell [event] }

def write (outputs : Outputs α) : Handling α Unit := modify fun s => { s with outputs }

def check {β : Type} (result : Except Fault β) : Handling α β := liftExcept result

variable [Scalar α]

/-- Sweeps a table whose buffers have been checked, and writes what the sweep leaves. -/
def sweep (fuel : Nat) (limit : Option Nat) (tolerance : α) (shape : Shape) (weights : Array α)
    (field : Field α) (intercept : Option α) : Handling α (Outcome α) := do
  let swept ← Sweep.run fuel shape tolerance limit weights field intercept
  write { scores := some swept.field.scores, impurities := some swept.field.impurities,
          intercept := swept.intercept }
  return .purified swept.convergence

/-- Checks a call and carries it out. -/
def validate (fuel : Nat) (limit : Option Nat) (call : Call α) : Handling α (Outcome α) := do
  let passed := (← get).outputs
  write { passed with intercept := passed.intercept.map fun _ => 0 }
  if call.dimensionCount = 0 then
    tell .zeroDimensions
    return .zeroDimensions
  else if call.dimensionCount < 0 then throw (.negativeDimensionCount call.dimensionCount)
  else if (Shape.maxRank : Int) < call.dimensionCount then
    throw (.tooManyDimensions call.dimensionCount Shape.maxRank)
  else
    let rank := call.dimensionCount.toNat
    let lengths ← check (Buffer.dimensionLengths.require rank call.lengths)
    match ← check (Call.shape? (lengths.toList.take rank)) with
    | none =>
        tell .emptyTensor
        return .emptyTensor
    | some shape =>
        let weights ← check (Buffer.weights.require shape.cellCount call.weights)
        let outputs := (← get).outputs
        let scores ← check (Buffer.scores.require shape.cellCount outputs.scores)
        let impurities ← check (Buffer.impurities.require shape.lineCount outputs.impurities)
        sweep fuel limit call.tolerance shape weights { scores, impurities } outputs.intercept

/-- Handles a call from its coming in to its end, before the given observer. -/
def answer (fuel : Nat) (limit : Option Nat) (call : Call α) (o : Observer α) :
    Option (Except Fault (Outcome α) × State α) := do
  let entered := o.tell [.entered call.summary]
  let (result, s) ← (validate fuel limit call).run.run ⟨entered, call.outputs⟩
  return (result, { s with observer := s.observer.tell [.closing result] })

end Handling

end Purification
