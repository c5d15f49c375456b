import Purification.Fault
import Purification.Json.Reader
import Purification.Json.Writer
import Purification.Session

/-! # Documents

The texts that go in and out: a table to decompose, its parts, a configuration, and the
word for a stop reason.
-/

namespace Purification

/-- A table as it is handed in. -/
structure TableDocument where
  lengths : List Nat
  /-- One weight for each cell; all cells weigh 1 if they are left out. -/
  weights : Option (List Float)
  scores : List Float
  deriving Repr

namespace TableDocument

def ofJson? (j : Json) : Option TableDocument := do
  match ← j.record? ["lengths", "weights", "scores"] with
  | [lengths, weights, scores] =>
      return {
        lengths := ← (← lengths).list? Json.count?
        weights := ← (weights.getD .null).nullable? (Json.list? Json.float?)
        scores := ← (← scores).list? Json.float? }
  | _ => none

def read? (text : String) : Option TableDocument := (Json.read? text).bind ofJson?

/-- The table in a text that should hold one. -/
def load (text : String) : Except Failure TableDocument :=
  match read? text with
  | some table => .ok table
  | none => .error .document

/-- The number of weights made up for a table without: one for each cell of its shape. If
    it has no shape the weights are never looked at, and there are as many as scores. -/
def uniformCount (lengths : List Nat) (scores : Nat) : Nat :=
  match Shape.ofLengths lengths with
  | .ok shape => shape.cellCount
  | .error _ => scores

def usedWeights (x : TableDocument) : List Float :=
  x.weights.getD (List.replicate (uniformCount x.lengths x.scores.length) 1.0)

end TableDocument

/-- What a document says of a decomposition. -/
structure PartsDocument where
  intercept : Float
  /-- What was taken out along each dimension. -/
  marginals : List (List Float)
  residual : List Float
  /-- Why the sweep ended, if there was one. -/
  stop : Option StopReason
  passes : Nat
  deriving Repr

namespace PartsDocument

def ofDecomposition (x : Decomposition Float) : PartsDocument :=
  { intercept := x.intercept
    marginals := (List.range x.lengths.length).map x.marginal
    residual := x.residual
    stop := x.outcome.stop?
    passes := x.outcome.passes }

def numbers (values : List Float) : Json := .array (values.map Json.ofFloat)

def toJson (x : PartsDocument) : Json :=
  .ofFields
    [("intercept", .ofFloat x.intercept),
      ("marginals", .array (x.marginals.map numbers)),
      ("residual", numbers x.residual),
      ("stop", match x.stop with | some stop => .ofString stop.label | none => .null),
      ("passes", .ofNat x.passes)]

end PartsDocument

def Session.run (fuel : Nat) (s : Session Float) (x : TableDocument) :
    Option (Except Failure PartsDocument × Session Float) :=
  (s.decompose fuel x.lengths x.usedWeights.toArray x.scores.toArray).map fun (answer, s) =>
    ((answer.mapError (.run x.lengths)).map PartsDocument.ofDecomposition, s)

def StopReason.read? (text : String) : Option StopReason := do
  StopReason.ofLabel? (← (← Json.read? text).name?)

def StopReason.write (stop : StopReason) : String := (Json.ofString stop.label).compact

namespace Config

/-- The configuration in a JSON value. Only the cap on passes may be missing. -/
def ofJson? (j : Json) : Option (Config Float) := do
  match ← j.record? ["tolerance", "max_passes", "extract_intercept"] with
  | [tolerance, maxPasses, extractIntercept] =>
      return {
        tolerance := ← (← tolerance).float?
        maxPasses := ← (maxPasses.getD .null).nullable? Json.count?
        extractIntercept := ← (← extractIntercept).bool? }
  | _ => none

def read? (text : String) : Option (Config Float) := (Json.read? text).bind ofJson?

def write (config : Config Float) : String :=
  Json.compact <| .ofFields
    [("tolerance", .ofFloat config.tolerance),
      ("max_passes", match config.maxPasses with | some n => .ofNat n | none => .null),
      ("extract_intercept", .bool config.extractIntercept)]

end Config

end Purification
