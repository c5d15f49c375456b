import Purification.Call.Basic

/-! # Carrying out a call

The report of a call: its result, what the buffers hold afterwards, and what was told
of it on the way. An intercept output is set to 0 first, whatever follows; the other
buffers change only if lines are swept.
-/

namespace Purification

/-! ## Admission

Whether a call can be carried out. Everything is checked before anything is written,
in a fixed order: the rank, the lengths, the shape, then weights, scores and
impurities.
-/

/-- What an accepted call asks for. -/
inductive Admission (α : Type) where
  /-- Nothing: the table has no dimensions. -/
  | zeroDimensions
  /-- Nothing: the table has no cells. -/
  | emptyTensor
  /-- A sweep, with a value for each cell and a slot for each line. -/
  | table (shape : Shape) (weights : Array α) (field : Field α)

/-- The values of a buffer that has to be there and hold `required` of them. -/
def Buffer.require {β : Type} (buffer : Buffer) (required : Nat) :
    Option (Array β) → Except Fault (Array β)
  | none => .error (.missingBuffer buffer)
  | some values =>
      if values.size < required then .error (.bufferTooSmall buffer required values.size)
      else .ok values

namespace Call

variable {α : Type}

/-- Lengths as counts, those from dimension `d` on. They are declared in words with a sign, so
    that only a negative one has no count. -/
def convert (d : Nat) : List Int → Except Fault (List Nat)
  | [] => .ok []
  | length :: rest =>
      match length.toNat? with
      | none => .error (.dimensionLengthOverflow d length)
      | some count => do return count :: (← convert (d + 1) rest)

/-- The shape with the declared lengths; none for a table without cells. A negative
    length is a fault even beside a zero. -/
def shape? (lengths : List Int) : Except Fault (Option Shape) :=
  match lengths.zipIdx.find? fun (length, _) => length < 0 with
  | some (length, dimension) => .error (.negativeDimensionLength dimension length)
  | none =>
      if 0 ∈ lengths then .ok none
      else do return some (← Shape.ofLengths (← convert 0 lengths))

/-- The table of a call whose shape is known. -/
def table (call : Call α) (shape : Shape) : Except Fault (Admission α) := do
  let weights ← Buffer.weights.require shape.cellCount call.weights
  let scores ← Buffer.scores.require shape.cellCount call.scores
  let impurities ← Buffer.impurities.require shape.lineCount call.impurities
  return .table shape weights { scores, impurities }

/-- What a call asks for, or the first fault found in it. -/
def admission (call : Call α) : Except Fault (Admission α) :=
  if call.dimensionCount = 0 then .ok .zeroDimensions
  else if call.dimensionCount < 0 then .error (.negativeDimensionCount call.dimensionCount)
  else if (Shape.maxRank : Int) < call.dimensionCount then
    .error (.tooManyDimensions call.dimensionCount Shape.maxRank)
  else do
    let rank := call.dimensionCount.toNat
    let lengths ← Buffer.dimensionLengths.require rank call.lengths
    match ← shape? (lengths.toList.take rank) with
    | none => return .emptyTensor
    | some shape => call.table shape

end Call

/-! ## Reports -/

/-- What a call leaves behind. -/
structure Report (α : Type) where
  /-- What was told of the call, in order. -/
  events : List (Event α)
  result : Except Fault (Outcome α)
  scores : Option (Array α)
  impurities : Option (Array α)
  /-- What the intercept output holds, if there is one. -/
  intercept : Option α

namespace Call

variable {α : Type} [Scalar α]

/-- The report of a call that leaves the buffers as they are. -/
def idle (call : Call α) (events : List (Event α)) (result : Except Fault (Outcome α)) :
    Report α :=
  { events := .entered call.summary :: events
    result
    scores := call.scores
    impurities := call.impurities
    intercept := call.intercept.map fun _ => 0 }

/-- Carries out a call with at most `limit` passes. There is no report if the sweep has
    not stopped after `fuel` passes. -/
def purify (fuel : Nat) (limit : Option Nat) (call : Call α) : Option (Report α) :=
  match call.admission with
  | .error fault => some (call.idle [.rejected fault] (.error fault))
  | .ok .zeroDimensions =>
      some (call.idle [.zeroDimensions, .exited .zeroDimensions] (.ok .zeroDimensions))
  | .ok .emptyTensor => some (call.idle [.emptyTensor, .exited .emptyTensor] (.ok .emptyTensor))
  | .ok (.table shape weights field) => do
      let swept ← Sweep.run fuel shape call.tolerance limit weights field
        (call.intercept.map fun _ => 0)
      let outcome := Outcome.purified swept.convergence
      return { events := [.entered call.summary, .exited outcome]
               result := .ok outcome
               scores := some swept.field.scores
               impurities := some swept.field.impurities
               intercept := swept.intercept }

end Call

end Purification
