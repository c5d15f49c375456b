/-! # Faults and failures

What can be wrong with a request, a configuration or the telemetry, in the words shown to the
caller; and what ends a run of the program: the step that failed, and beneath it the cause,
where one is known.
-/

namespace Purification

inductive Buffer where
  | dimensionLengths
  | weights
  | scores
  | impurities
  deriving Repr, DecidableEq

def Buffer.name : Buffer → String
  | .dimensionLengths => "dimension_lengths"
  | .weights => "weights"
  | .scores => "scores"
  | .impurities => "impurities"

/-- The cause of a refusal. Dimensions are numbered from 0. -/
inductive Fault where
  /-- A rank below zero was declared. -/
  | negativeDimensionCount (count : Int)
  /-- More dimensions than the largest rank. -/
  | tooManyDimensions (count : Int) (max : Nat)
  /-- A required buffer was not supplied. -/
  | missingBuffer (buffer : Buffer)
  /-- A buffer holds fewer entries than the shape asks for. -/
  | bufferTooSmall (buffer : Buffer) (required actual : Nat)
  | negativeDimensionLength (dimension : Nat) (length : Int)
  | zeroDimensionLength (dimension : Nat)
  /-- A length is beyond what a caller can declare. -/
  | dimensionLengthOverflow (dimension : Nat) (length : Int)
  /-- Cells or lines can no longer be counted once this dimension is included. -/
  | cellCountOverflow (dimension : Nat)
  | emptyShape
  /-- A configuration that no run can use. -/
  | invalidConfig (reason : String)
  deriving Repr, DecidableEq

namespace Fault

def message : Fault → String
  | .negativeDimensionCount count => s!"Dimension count must not be negative: {count}"
  | .tooManyDimensions count max => s!"Too many dimensions: {count} > {max}"
  | .missingBuffer buffer => s!"Missing required buffer: {buffer.name}"
  | .bufferTooSmall buffer required actual =>
      s!"Buffer {buffer.name} too small: {actual} < {required}"
  | .negativeDimensionLength dimension length =>
      s!"Dimension {dimension} has negative length {length}"
  | .zeroDimensionLength dimension => s!"Dimension {dimension} has zero length"
  | .dimensionLengthOverflow dimension length =>
      s!"Dimension {dimension} length {length} does not fit the index type"
  | .cellCountOverflow dimension => s!"Tensor cell count overflows at dimension {dimension}"
  | .emptyShape => "Shape must have at least one dimension"
  | .invalidConfig reason => s!"Invalid configuration: {reason}"

end Fault

/-- How a request ended, as told to the caller in one word. -/
inductive Status where
  | success
  | invalidArgument
  | resourceExhausted
  deriving Repr, DecidableEq

def Status.label : Status → String
  | .success => "success"
  | .invalidArgument => "invalid_argument"
  | .resourceExhausted => "resource_exhausted"

/-- A fault of size exhausts resources; every other one is the caller's mistake. -/
def Fault.status : Fault → Status
  | .tooManyDimensions .. | .dimensionLengthOverflow .. | .cellCountOverflow .. =>
      .resourceExhausted
  | _ => .invalidArgument

def Status.ofResult {β : Type} : Except Fault β → Status
  | .ok _ => .success
  | .error fault => fault.status

/-! ## Faults of telemetry -/

/-- Why telemetry cannot be set up. -/
inductive Telemetry.Fault where
  /-- The figures cannot be published. -/
  | metrics (reason : String)
  /-- The log filter cannot be read. -/
  | logFilter (reason : String)
  deriving Repr, DecidableEq

def Telemetry.Fault.message : Telemetry.Fault → String
  | .metrics reason => s!"Failed to initialize Prometheus metrics: {reason}"
  | .logFilter reason => s!"Invalid configuration: {reason}"

/-! ## Failures of a run -/

/-- A step of the program that failed. -/
inductive Failure where
  | telemetry (cause : Telemetry.Fault)
  | settings (cause : Fault)
  /-- Standard input could not be read as text. -/
  | standardInput
  /-- A file could not be read as text. -/
  | file (path : String)
  /-- The text is no table. -/
  | document
  /-- The table was refused. -/
  | run (lengths : List Nat) (cause : Fault)
  deriving Repr, DecidableEq

namespace Failure

/-- The lengths in brackets. -/
def shapeText (lengths : List Nat) : String :=
  "[" ++ ", ".intercalate (lengths.map toString) ++ "]"

def message : Failure → String
  | .telemetry _ => "failed to initialize telemetry"
  | .settings _ => "invalid purification settings"
  | .standardInput => "failed to read tensor from stdin"
  | .file path => s!"failed to read tensor from {path}"
  | .document => "input is not a valid tensor document"
  | .run lengths _ => s!"purification of shape {shapeText lengths} failed"

/-- Why it failed, where that is known. -/
def cause? : Failure → Option String
  | .telemetry cause => some cause.message
  | .settings cause | .run _ cause => some cause.message
  | .standardInput | .file _ | .document => none

/-- The step and its cause on one line. -/
def chain (failure : Failure) : String :=
  match failure.cause? with
  | some cause => s!"{failure.message}: {cause}"
  | none => failure.message

def lines (failure : Failure) : List String :=
  s!"Error: {failure.message}" ::
    match failure.cause? with
    | some cause => ["", "Caused by:", s!"    {cause}"]
    | none => []

end Failure

end Purification
