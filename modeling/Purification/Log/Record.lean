import Purification.Json.Writer

/-! # Records

A record is a level, the component that speaks, a message, and named values beside it. It is
written on a line of its own, for machines as JSON or for people as plain text.
-/

namespace Purification

namespace Log

inductive Level where
  | error
  | warn
  | info
  | debug
  | trace
  deriving Repr, DecidableEq

/-- All levels, the gravest first. -/
def Level.all : List Level := [.error, .warn, .info, .debug, .trace]

def Level.label : Level → String
  | .error => "error"
  | .warn => "warn"
  | .info => "info"
  | .debug => "debug"
  | .trace => "trace"

/-- The number of a level, from 1 for the gravest to 5. A threshold is such a number,
    and lets through the levels up to it. -/
def Level.rank : Level → Nat
  | .error => 1
  | .warn => 2
  | .info => 3
  | .debug => 4
  | .trace => 5

inductive Value (α : Type) where
  | text (value : String)
  | number (value : α)
  | integer (value : Int)
  | flag (value : Bool)
  deriving Repr

/-- The components of the program that speak. -/
inductive Component where
  /-- The handling of calls. -/
  | calls
  /-- The set-up of the log. -/
  | log
  /-- The beginning and the end of all telemetry. -/
  | telemetry
  /-- The command line. -/
  | commandLine
  deriving Repr, DecidableEq

/-- The name of a component, by which records are filtered. -/
def Component.target : Component → String
  | .calls => "purify_core::adapters::tracing_diagnostics"
  | .log => "purify_telemetry::logging"
  | .telemetry => "purify_telemetry"
  | .commandLine => "purify_cli"

/-- One line of a log. -/
structure Record (α : Type) where
  level : Level
  source : Component
  message : String
  fields : List (String × Value α)
  deriving Repr

/-- The names of all that a record holds. -/
def Record.names {α : Type} (record : Record α) : List String :=
  "message" :: record.fields.map (·.1)

/-! ## Lines

A record on a line of its own, for machines as JSON or for people as plain text.
-/

/-- The forms of a log. -/
inductive Form where
  | plain
  | json
  deriving Repr, DecidableEq

def Value.toJson : Value Float → Json
  | .text value => .ofString value
  | .number value => .ofFloat value
  | .integer value => .ofInt value
  | .flag value => .bool value

namespace Record

/-- The message and the values beside it. -/
def fieldsJson (record : Record Float) : Json :=
  .ofFields (("message", .ofString record.message) ::
    record.fields.map fun (name, value) => (name, value.toJson))

def toJson (record : Record Float) : Json :=
  .ofFields
    [("level", .ofString record.level.label.toUpper),
      ("fields", record.fieldsJson),
      ("target", .ofString record.source.target)]

def plainLine (record : Record Float) : String :=
  let fields := record.fields.map fun (name, value) => s!" {name}={value.toJson.compact}"
  record.level.label.toUpper ++ " " ++ record.source.target ++ ": " ++ record.message ++
    String.join fields

def line (form : Form) (record : Record Float) : String :=
  match form with
  | .plain => record.plainLine
  | .json => record.toJson.compact

end Record

end Log

end Purification
