import Purification.Call.Basic

/-! # Counters

Running counts of the calls a session has answered, in 64 bits. A count that reaches its
end starts again from 0.
-/

namespace Purification

/-- Counts of calls by result, and of the work done in them. -/
structure Counters where
  calls : UInt64 := 0
  successes : UInt64 := 0
  /-- Successes in which no line was swept. -/
  noOps : UInt64 := 0
  invalidArguments : UInt64 := 0
  resourcesExhausted : UInt64 := 0
  converged : UInt64 := 0
  plateaus : UInt64 := 0
  passLimits : UInt64 := 0
  zeroWeights : UInt64 := 0
  /-- All passes together. -/
  passes : UInt64 := 0
  /-- The cells of all tables whose lines were swept. -/
  cellsPurified : UInt64 := 0
  deriving Repr, DecidableEq

namespace Counters

def countStatus (c : Counters) : Status → Counters
  | .success => { c with successes := c.successes + 1 }
  | .invalidArgument => { c with invalidArguments := c.invalidArguments + 1 }
  | .resourceExhausted => { c with resourcesExhausted := c.resourcesExhausted + 1 }

def countStop (c : Counters) : StopReason → Counters
  | .converged => { c with converged := c.converged + 1 }
  | .plateau => { c with plateaus := c.plateaus + 1 }
  | .passLimit => { c with passLimits := c.passLimits + 1 }
  | .zeroWeight => { c with zeroWeights := c.zeroWeights + 1 }

/-- The counters after a sweep of this many cells. -/
def countSweep {α : Type} (c : Counters) (convergence : Convergence α) (cells : Nat) : Counters :=
  let c := c.countStop convergence.stop
  { c with
    passes := c.passes + .ofNat convergence.passes
    cellsPurified :=
      if convergence.stop = .zeroWeight then c.cellsPurified
      else c.cellsPurified + .ofNat cells }

/-- The counters after a call with this result, which declared `cells` cells. -/
def record {α : Type} (c : Counters) (result : Except Fault (Outcome α)) (cells : Nat) :
    Counters :=
  let c := { c with calls := c.calls + 1 }.countStatus (.ofResult result)
  match result with
  | .error _ => c
  | .ok outcome =>
      let c := if outcome.isNoOp then { c with noOps := c.noOps + 1 } else c
      match outcome.convergence? with
      | some convergence => c.countSweep convergence cells
      | none => c

def reset (_ : Counters) : Counters := {}

/-- The mean number of passes of the sweeps that made one. -/
def averagePasses (c : Counters) : Float :=
  let sweeps := c.converged + c.plateaus + c.passLimits
  if sweeps = 0 then 0.0 else c.passes.toFloat / sweeps.toFloat

end Counters

end Purification
