import Purification.Config
import Purification.Fault
import Purification.Log.Filter
import Purification.Log.Record
import Purification.Metrics.Collectors

/-! # Telemetry

The log of a run: where it goes and what it looks like, as set in the environment; what is said
ahead of everything else and after it; and what of all that is said gets through.
-/

namespace Purification

/-! ## Settings -/

structure Telemetry.Settings where
  /-- The name under which the program speaks. -/
  serviceName : String := "purify"
  /-- What is let through to the log. -/
  logLevel : String := "info"
  /-- Logs are written at all. -/
  consoleOutput : Bool := true
  /-- Logs are written as JSON. -/
  jsonLogs : Bool := false
  deriving Repr, DecidableEq

namespace Telemetry.Settings

def standard : Settings := {}

def variableNames : List String :=
  ["OTEL_SERVICE_NAME", "PURIFY_LOG_LEVEL", "RUST_LOG", "PURIFY_CONSOLE_OUTPUT",
    "PURIFY_JSON_LOGS"]

/-- The settings of an environment. The general variable for log levels counts only if
    the program's own one is not set. -/
def ofEnvironment (env : Environment) : Settings :=
  { serviceName := (env "OTEL_SERVICE_NAME").getD standard.serviceName
    logLevel := ((env "PURIFY_LOG_LEVEL").or (env "RUST_LOG")).getD standard.logLevel
    consoleOutput :=
      ((env "PURIFY_CONSOLE_OUTPUT").map Environment.isOn).getD standard.consoleOutput
    jsonLogs := ((env "PURIFY_JSON_LOGS").map Environment.isTrue).getD standard.jsonLogs }

end Telemetry.Settings

/-! ## The log of a run -/

/-- A log that has been set up. -/
structure Telemetry where
  settings : Telemetry.Settings
  filter : Log.Filter
  deriving Repr

namespace Telemetry

def start (settings : Settings) : Except Failure Telemetry := do
  let _ ← (Registry.empty.register Collectors.families).mapError Failure.telemetry
  return { settings, filter := ← (Log.Filter.read settings.logLevel).mapError Failure.telemetry }

/-- A record of the set-up itself. -/
def record (t : Telemetry) (source : Log.Component) (level : Log.Level) (message : String)
    (fields : List (String × Log.Value Float)) : Log.Record Float :=
  { level, source, message
    fields := ("service", .text t.settings.serviceName) :: fields }

/-- The records before all others. -/
def opening (t : Telemetry) : List (Log.Record Float) :=
  [t.record .log .debug "logging initialized" [("json_logs", .flag t.settings.jsonLogs)],
    t.record .telemetry .info "telemetry initialized" []]

/-- The record after all others. -/
def closing (t : Telemetry) : Log.Record Float :=
  t.record .telemetry .debug "shutting down telemetry" []

/-- What reaches the log of a run in which these records were spoken. -/
def written (t : Telemetry) (records : List (Log.Record Float)) : List (Log.Record Float) :=
  if t.settings.consoleOutput then
    (t.opening ++ records ++ [t.closing]).filter t.filter.passes
  else []

def form (t : Telemetry) : Log.Form := if t.settings.jsonLogs then .json else .plain

end Telemetry

end Purification
