import Purification.Decomposition
import Purification.Metrics.Collectors
import Purification.Metrics.Counters
import Purification.Observer

/-! # Sessions

A session answers calls under one configuration. Each call is told to its observer and
counted, once, whatever its result.
-/

namespace Purification

/-- A configuration with those who follow the calls made under it. -/
structure Session (α : Type) where
  config : Config α
  observer : Observer α
  counters : Counters := {}
  collectors : Collectors .plain := {}

namespace Session

def start (config : Config Float) (sink : Sink) : Except Fault (Session Float) := do
  return { config := ← config.checked, observer := { sink } }

section

variable {α : Type}

def count (s : Session α) (result : Except Fault (Outcome α)) (cells : Nat) : Session α :=
  { s with
    counters := s.counters.record result cells
    collectors := s.collectors.record result cells }

def note (s : Session α) (call : Call α) (report : Report α) : Session α :=
  { s with observer := s.observer.tell report.events }.count report.result call.declaredCells

end

variable {α : Type} [Scalar α]

/-- Answers a call, with the configured cap on passes. -/
def purify (fuel : Nat) (s : Session α) (call : Call α) : Option (Report α × Session α) :=
  (call.purify fuel s.config.maxPasses).map fun report => (report, s.note call report)

/-- Answers a call in which nothing is missing, under the configured tolerance. The
    intercept output is handed on only if an intercept is to be taken out; otherwise it
    keeps what it holds. -/
def purifyBuffers (fuel : Nat) (s : Session α) (lengths : Array Int)
    (weights scores impurities : Array α) (intercept : α) : Option (Report α × Session α) :=
  let call : Call α :=
    { tolerance := s.config.tolerance
      dimensionCount := lengths.size
      lengths := some lengths
      weights := some weights
      scores := some scores
      impurities := some impurities
      intercept := if s.config.extractIntercept then some intercept else none }
  (s.purify fuel call).map fun (report, s) =>
    ({ report with intercept := some (report.intercept.getD intercept) }, s)

/-- Decomposes a table. A length that cannot be declared is reported without a call. -/
def decompose (fuel : Nat) (s : Session α) (lengths : List Nat) (weights scores : Array α) :
    Option (Except Fault (Decomposition α) × Session α) :=
  match Decomposition.callOf s.config lengths weights scores with
  | .error fault => some (.error fault, s)
  | .ok call =>
      (s.purify fuel call).map fun (report, s) => (Decomposition.ofReport lengths report, s)

end Session

end Purification
