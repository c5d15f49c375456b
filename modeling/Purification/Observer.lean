import Purification.Call.Basic
import Purification.Log.Record

/-! # Observers

Where the events of calls go: into a recording that keeps them, into a log that keeps
a record of each, or nowhere.
-/

namespace Purification

/-! ## What is logged of a call

Coming in and ending are logged for those who look closely, a call with nothing to do
for everyone, and a refusal as an error. A rank that is too large is only a warning.
-/

/-- The text of a size that may be absent. -/
def Log.sizeText : Option Nat → String
  | some size => s!"Some({size})"
  | none => "None"

def Log.Record.ofCall {α : Type} (level : Log.Level) (message : String)
    (fields : List (String × Log.Value α)) : Log.Record α :=
  { level, source := .calls, message, fields := ("component", .text "purify") :: fields }

namespace Event

variable {α : Type}

/-- The level at which a refusal is logged. -/
def rejectionLevel : Fault → Log.Level
  | .tooManyDimensions .. => .warn
  | _ => .error

def record : Event α → Log.Record α
  | .entered call =>
      .ofCall .debug "Entered purify"
        [("tolerance", .number call.tolerance),
          ("dimension_count", .integer call.dimensionCount),
          ("dimension_lengths", .text (Log.sizeText call.lengths)),
          ("weights", .text (Log.sizeText call.weights)),
          ("scores", .text (Log.sizeText call.scores)),
          ("impurities", .text (Log.sizeText call.impurities)),
          ("intercept_requested", .flag call.interceptRequested)]
  | .rejected fault =>
      .ofCall (rejectionLevel fault) s!"Purify rejected: {fault.message}"
        [("status", .text fault.status.label)]
  | .zeroDimensions => .ofCall .info "Purify zero dimensions" []
  | .emptyTensor => .ofCall .info "Purify empty tensor" []
  | .exited (.purified convergence) =>
      match convergence.stop with
      | .zeroWeight => .ofCall .info "Purify zero total weight" []
      | stop =>
          .ofCall .debug "Exited purify"
            [("stop", .text stop.label),
              ("passes", .integer convergence.passes),
              ("threshold", .number convergence.threshold),
              ("final_pass_impurity", .number convergence.finalImpurity)]
  | .exited _ => .ofCall .debug "Exited purify without work" []

end Event

/-! ## Who is told -/

inductive Sink where
  | recording
  | logging
  | silent
  deriving Repr, DecidableEq

/-- An observer with what it has kept. -/
structure Observer (α : Type) where
  sink : Sink
  /-- What a recording has kept, in order. -/
  events : List (Event α) := []
  /-- What a log has kept, in order. -/
  records : List (Log.Record α) := []

namespace Observer

variable {α : Type}

def tell (observer : Observer α) (events : List (Event α)) : Observer α :=
  match observer.sink with
  | .recording => { observer with events := observer.events ++ events }
  | .logging => { observer with records := observer.records ++ events.map Event.record }
  | .silent => observer

def clear (observer : Observer α) : Observer α := { observer with events := [] }

/-- The records of a log, and the observer without them. -/
def drain (observer : Observer α) : List (Log.Record α) × Observer α :=
  (observer.records, { observer with records := [] })

end Observer

end Purification
