import Purification.Decimal.Format
import Purification.Decimal.Reader
import Purification.Fault
import Purification.Number

/-! # Configuration

What a run is told to do, and where it is told: in code, in the environment, or on a
command line. Each of these is a set of changes to a configuration.
-/

namespace Purification

/-! ## Environments

Variables that are set outside of the program, and how a switch among them is read.
-/

/-- The values of variables; none for one that is not set. -/
abbrev Environment := String → Option String

namespace Environment

/-- The environment with these bytes as values. A value that is not a text counts as
    not set. -/
def ofBytes (values : String → Option ByteArray) : Environment :=
  fun name => (values name).bind String.fromUTF8?

/-- A switch that is on unless it is turned off. -/
def isOn (text : String) : Bool := text.toLower ≠ "false" ∧ text ≠ "0"

/-- A switch that is off unless it is turned on. -/
def isTrue (text : String) : Bool := text.toLower = "true" ∨ text = "1"

end Environment

/-! ## Settings of a sweep -/

/-- The settings of a run. -/
structure Config (α : Type) where
  /-- The largest mean a line may keep, as a fraction of the mean weighted magnitude. -/
  tolerance : α
  /-- The cap on passes, if there is one. -/
  maxPasses : Option Nat
  /-- The weighted mean is taken out of the table first. -/
  extractIntercept : Bool
  deriving Repr

structure Config.Changes (α : Type) where
  tolerance : Option α := none
  maxPasses : Option Nat := none
  extractIntercept : Option Bool := none
  deriving Repr

namespace Config

section

variable {α : Type}

/-- Exact means, as many passes as it takes, and an intercept. -/
def standard [Zero α] : Config α := ⟨0, none, true⟩

def change (config : Config α) (changes : Changes α) : Config α :=
  { tolerance := changes.tolerance.getD config.tolerance
    maxPasses := changes.maxPasses.or config.maxPasses
    extractIntercept := changes.extractIntercept.getD config.extractIntercept }

end

/-- What makes a configuration unusable, the tolerance first. -/
def fault? (config : Config Float) : Option Fault :=
  if !config.tolerance.isFinite || config.tolerance < 0.0 then
    let tolerance := NumberFormat.plain.write config.tolerance
    some (.invalidConfig s!"tolerance must be finite and non-negative, got {tolerance}")
  else if config.maxPasses = some 0 then some (.invalidConfig "max_passes cannot be 0")
  else none

def checked (config : Config Float) : Except Fault (Config Float) :=
  match config.fault? with
  | some fault => .error fault
  | none => .ok config

/-- The changes made on a command line, where the intercept can only be left out. -/
def Changes.ofOptions (tolerance : Option Float) (maxPasses : Option Nat) (noIntercept : Bool) :
    Changes Float :=
  { tolerance, maxPasses, extractIntercept := if noIntercept then some false else none }

def variableNames : List String :=
  ["PURIFY_TOLERANCE", "PURIFY_MAX_PASSES", "PURIFY_EXTRACT_INTERCEPT"]

/-- The changes made in an environment. A number that cannot be read changes nothing. -/
def Changes.ofEnvironment (env : Environment) : Changes Float :=
  { tolerance := (env "PURIFY_TOLERANCE").bind readFloat?
    maxPasses := (env "PURIFY_MAX_PASSES").bind readCount?
    extractIntercept := (env "PURIFY_EXTRACT_INTERCEPT").map Environment.isOn }

def ofEnvironment (env : Environment) : Config Float :=
  standard.change (.ofEnvironment env)

end Config

end Purification
