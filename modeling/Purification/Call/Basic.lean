import Purification.Sweep.Run

/-! # Calls

A call hands over buffers to be worked on in place. Any of them may be missing, and
a buffer may be longer than its table. What a call declares is not trusted: the rank
and the lengths may be negative.
-/

namespace Purification

/-! ## Outcomes

How a request that was not refused ended. A table without dimensions and a table
without cells need no sweep; every other table was handed to one.
-/

/-- The outcome of an accepted request. -/
inductive Outcome (α : Type) where
  /-- The declared rank was zero. -/
  | zeroDimensions
  /-- Some length was zero. -/
  | emptyTensor
  /-- A sweep ran, or stopped at once for want of weight. -/
  | purified (convergence : Convergence α)
  deriving Repr

namespace Outcome

variable {α : Type}

def convergence? : Outcome α → Option (Convergence α)
  | .purified convergence => some convergence
  | _ => none

def stop? (outcome : Outcome α) : Option StopReason := outcome.convergence?.map (·.stop)

def passes (outcome : Outcome α) : Nat := (outcome.convergence?.map (·.passes)).getD 0

def swept (outcome : Outcome α) : Bool :=
  match outcome.stop? with
  | some stop => stop ≠ .zeroWeight
  | none => false

/-- Nothing but the intercept can have changed. -/
def isNoOp (outcome : Outcome α) : Bool := !outcome.swept

end Outcome

/-! ## Calls -/

/-- A request to purify a table, with what its buffers hold beforehand. -/
structure Call (α : Type) where
  /-- The largest mean a line may keep, as a fraction of the mean weighted magnitude. -/
  tolerance : α
  /-- The declared rank. -/
  dimensionCount : Int
  lengths : Option (Array Int)
  weights : Option (Array α)
  scores : Option (Array α)
  /-- One slot for each line. -/
  impurities : Option (Array α)
  /-- What the intercept output holds, if there is one. -/
  intercept : Option α
  deriving Repr

namespace Call

variable {α : Type}

/-- What is told of a call: buffers by their sizes only. -/
structure Summary (α : Type) where
  tolerance : α
  dimensionCount : Int
  lengths : Option Nat
  weights : Option Nat
  scores : Option Nat
  impurities : Option Nat
  interceptRequested : Bool
  deriving Repr

def summary (call : Call α) : Summary α :=
  { tolerance := call.tolerance
    dimensionCount := call.dimensionCount
    lengths := call.lengths.map (·.size)
    weights := call.weights.map (·.size)
    scores := call.scores.map (·.size)
    impurities := call.impurities.map (·.size)
    interceptRequested := call.intercept.isSome }

/-- The product of `lengths`, starting from `cells`; none if a length is negative or a
    product has no number of 64 bits. -/
def product? (cells : Nat) : List Int → Option Nat
  | [] => some cells
  | l :: ls =>
      if l < 0 then none
      else if wordBound ≤ cells * l.toNat then none
      else product? (cells * l.toNat) ls

/-- The number of cells that the declared lengths imply, before anything is checked,
    and 0 if they imply none. Only as many lengths count as are declared. -/
def declaredCells (call : Call α) : Nat :=
  match call.lengths with
  | none => 0
  | some lengths =>
      if call.dimensionCount ≤ 0 then 0
      else if (lengths.size : Int) < call.dimensionCount then 0
      else (product? 1 (lengths.toList.take call.dimensionCount.toNat)).getD 0

end Call

/-! ## Events

What an observer is told while a call is handled: that it came in, a word on why there
is nothing to do, and how it ended.
-/

/-- One thing told of a call. -/
inductive Event (α : Type) where
  /-- A call came in. -/
  | entered (call : Call.Summary α)
  /-- The call was refused. -/
  | rejected (fault : Fault)
  /-- The declared rank is zero. -/
  | zeroDimensions
  /-- The table has no cells. -/
  | emptyTensor
  /-- The call was accepted and is done. -/
  | exited (outcome : Outcome α)
  deriving Repr

end Purification
