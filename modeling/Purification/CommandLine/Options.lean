import Purification.Decimal.Reader

/-! # The words of a command line

An option takes its value from the same word or from the
next one, which then must not start with a dash, unless it is a dash alone. No option may
stand twice, and nothing else is taken.
-/

namespace Purification

/-- What is asked for on a command line. -/
structure Options where
  /-- Where the table is read from; a dash stands for standard input. -/
  input : Option String := none
  tolerance : Option Float := none
  maxPasses : Option Nat := none
  noIntercept : Bool := false
  jsonLogs : Bool := false
  /-- The document is laid out over lines. -/
  pretty : Bool := false
  /-- The figures are shown at the end. -/
  metrics : Bool := false
  deriving Repr

namespace Options

/-- The options that take a value. -/
inductive Setting where
  | input
  | tolerance
  | maxPasses
  deriving Repr, DecidableEq

/-- The options that do not. -/
inductive Switch where
  | noIntercept
  | jsonLogs
  | pretty
  | metrics
  deriving Repr, DecidableEq

inductive Key where
  | setting (setting : Setting)
  | switch (switch : Switch)
  | help
  deriving Repr, DecidableEq

def Key.ofName? : String → Option Key
  | "input" => some (.setting .input)
  | "tolerance" => some (.setting .tolerance)
  | "max-passes" => some (.setting .maxPasses)
  | "no-intercept" => some (.switch .noIntercept)
  | "json-logs" => some (.switch .jsonLogs)
  | "pretty" => some (.switch .pretty)
  | "metrics" => some (.switch .metrics)
  | "help" => some .help
  | _ => none

def Key.ofLetter? : Char → Option Key
  | 'i' => some (.setting .input)
  | 't' => some (.setting .tolerance)
  | 'h' => some .help
  | _ => none

/-- The options with a value given to one of them, if it has none yet and the value can be
    read. -/
def give (o : Options) (value : String) : Setting → Option Options
  | .input =>
      if o.input.isSome ∨ value = "" then none else some { o with input := some value }
  | .tolerance =>
      if o.tolerance.isSome then none
      else (readFloat? value).map fun x => { o with tolerance := some x }
  | .maxPasses =>
      if o.maxPasses.isSome then none
      else (readCount? value).map fun n => { o with maxPasses := some n }

/-- The options with one of them switched on, if it is not on yet. -/
def turnOn (o : Options) : Switch → Option Options
  | .noIntercept => if o.noIntercept then none else some { o with noIntercept := true }
  | .jsonLogs => if o.jsonLogs then none else some { o with jsonLogs := true }
  | .pretty => if o.pretty then none else some { o with pretty := true }
  | .metrics => if o.metrics then none else some { o with metrics := true }

/-- What a word of a command line is. -/
inductive Word where
  /-- An option, with its value if that is in the same word. -/
  | option (key : Key) (value : Option String)
  /-- The end of the options. -/
  | finish
  deriving Repr, DecidableEq

/-- An option after a single dash. Its value may follow an equals sign. Help is given
    whatever follows. -/
def Word.ofShort? (letter : Char) (rest : List Char) : Option Word := do
  let key ← Key.ofLetter? letter
  let value := match rest with
    | '=' :: rest => rest
    | rest => rest
  return .option key (if rest.isEmpty ∨ key = .help then none else some (String.ofList value))

/-- An option after two dashes. Its value may follow an equals sign. -/
def Word.ofLong? (body : List Char) : Option Word := do
  let name := body.takeWhile (· ≠ '=')
  let key ← Key.ofName? (String.ofList name)
  return .option key ((body.drop name.length).tail?.map String.ofList)

/-- What a word is, if it can stand on the command line on its own. -/
def Word.read? (text : String) : Option Word :=
  match text.toList with
  | ['-', '-'] => some .finish
  | '-' :: '-' :: body => ofLong? body
  | '-' :: letter :: rest => ofShort? letter rest
  | _ => none

/-- A word that can be the value of the option before it. -/
def isValue (text : String) : Bool := !text.startsWith "-" || text = "-"

/-- What a command line asks for. -/
inductive Request where
  | run (options : Options)
  | help
  deriving Repr

/-- What the words of a command line ask for, beyond `o`; none if they are not
    understood. The words are taken in order, so help comes before later mistakes. -/
def readFrom? (o : Options) : List String → Option Request
  | [] => some (.run o)
  | text :: rest =>
      match Word.read? text with
      | none => none
      | some .finish => if rest.isEmpty then some (.run o) else none
      | some (.option .help none) => some .help
      | some (.option .help (some _)) => none
      | some (.option (.switch switch) none) => do readFrom? (← o.turnOn switch) rest
      | some (.option (.switch _) (some _)) => none
      | some (.option (.setting setting) (some value)) => do
          readFrom? (← o.give value setting) rest
      | some (.option (.setting setting) none) =>
          match rest with
          | [] => none
          | value :: rest => do
              if isValue value then readFrom? (← o.give value setting) rest else none

def read? (words : List String) : Option Request := readFrom? {} words

end Options

/-! ## Usage

What the program says of itself, and of a command line it does not understand.
-/

def version : String := "0.1.0"

namespace Usage

def lines : List String :=
  ["Decompose a tensor into intercept, marginals and pure interaction residual",
    "",
    "Usage: purify-cli [OPTIONS]",
    "",
    "Options:",
    "  -i, --input <INPUT>            Input document, or `-` for stdin [default: -]",
    "  -t, --tolerance <TOLERANCE>    Convergence tolerance (overrides PURIFY_TOLERANCE)",
    "      --max-passes <MAX_PASSES>  Cap on full sweeps (overrides PURIFY_MAX_PASSES)",
    "      --no-intercept             Leave the global mean inside the marginals",
    "      --json-logs                Emit logs as JSON",
    "      --pretty                   Pretty-print the output document",
    "      --metrics                  Print Prometheus metrics to stderr after the run",
    "  -h, --help                     Print help"]

def help : String := String.join (lines.map (· ++ "\n"))

/-- What is said of a command line that is not understood. -/
def refusal : String := "error: the command line is not understood, try '--help'"

def exitCode : Nat := 2

end Usage

end Purification
