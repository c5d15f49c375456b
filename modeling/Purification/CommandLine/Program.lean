import Purification.CommandLine.Options
import Purification.Document
import Purification.Fault
import Purification.Log.Record
import Purification.Metrics.Collectors
import Purification.Telemetry

/-! # The program

From options, environment and input to what is written. The steps follow each other and
the first failure ends the run: telemetry is set up, the configuration is checked, the
table is read and decomposed, and its parts are written.
-/

namespace Purification

/-! ## Sources

Where the table of a command line comes from.
-/

/-- A place to read a table from. -/
inductive Source where
  | standardInput
  | file (path : String)
  deriving Repr, DecidableEq

namespace Source

/-- The path names the same place as a dash does: steps that lead nowhere may follow. -/
def isDash (path : String) : Bool :=
  match path.splitOn "/" with
  | first :: rest => first = "-" ∧ rest.all fun step => step = "" ∨ step = "."
  | [] => false

/-- The source named by an option, standard input if none is. -/
def ofOption (path : Option String) : Source :=
  match path with
  | none => .standardInput
  | some path => if isDash path then .standardInput else .file path

def failure : Source → Failure
  | .standardInput => .standardInput
  | .file path => .file path

/-- The text in a source with these bytes. There are none if it cannot be read. -/
def text (source : Source) (bytes : Option ByteArray) : Except Failure String :=
  match bytes.bind String.fromUTF8? with
  | some text => .ok text
  | none => .error source.failure

end Source

/-! ## Runs -/

/-- How a run of the program ended. -/
inductive Ending where
  /-- With a document, and the page of figures if it was asked for. -/
  | document (text : String) (figures : Option String)
  | failed (failure : Failure)
  deriving Repr

namespace Ending

def exitCode : Ending → Nat
  | .document .. => 0
  | .failed _ => 1

/-- What is written of a decomposed table. -/
def ofParts (options : Options) (parts : PartsDocument) (s : Session Float) : Ending :=
  let document := parts.toJson
  .document (if options.pretty then document.pretty else document.compact)
    (if options.metrics then some s.collectors.page else none)

end Ending

/-- What a run of the program writes. -/
structure Run where
  ending : Ending
  /-- The records that reach the log, in order. -/
  log : List (Log.Record Float) := []
  form : Log.Form := .plain

namespace Program

def variableNames : List String := Config.variableNames ++ Telemetry.Settings.variableNames

def telemetry (options : Options) (env : Environment) : Except Failure Telemetry :=
  let settings := Telemetry.Settings.ofEnvironment env
  Telemetry.start { settings with jsonLogs := options.jsonLogs || settings.jsonLogs }

def session (options : Options) (env : Environment) : Except Failure (Session Float) :=
  let changes := Config.Changes.ofOptions options.tolerance options.maxPasses options.noIntercept
  (Session.start ((Config.ofEnvironment env).change changes) .logging).mapError .settings

def prepare (options : Options) (env : Environment) (input : Option ByteArray) :
    Except Failure (Session Float × TableDocument) := do
  let s ← session options env
  return (s, ← TableDocument.load (← (Source.ofOption options.input).text input))

def finished (parts : PartsDocument) : Log.Record Float :=
  let stop := match parts.stop with
    | some stop => s!"Some({stop.name})"
    | none => "None"
  { level := .info
    source := .commandLine
    message := "purification finished"
    fields :=
      [("component", .text "cli"), ("stop", .text stop), ("passes", .integer parts.passes)] }

/-- The run with the given options. `input` holds the bytes of their source, if it can be
    read. There is no run if the sweep has not stopped after `fuel` passes. -/
def run (fuel : Nat) (options : Options) (env : Environment) (input : Option ByteArray) :
    Option Run :=
  match telemetry options env with
  | .error failure => some { ending := .failed failure }
  | .ok t =>
      let finish := fun (ending : Ending) records =>
        ({ ending, log := t.written records, form := t.form } : Run)
      match prepare options env input with
      | .error failure => some (finish (.failed failure) [])
      | .ok (s, table) =>
          (s.run fuel table).map fun (answer, s) =>
            let records := s.observer.records
            match answer with
            | .error failure => finish (.failed failure) records
            | .ok parts => finish (.ofParts options parts s) (records ++ [finished parts])

end Program

end Purification
