import Purification.Decimal.Reader
import Purification.Fault
import Purification.Log.Record
import Purification.Pattern
import Purification.Text.Basic

/-! # Filters

What is let through to the log, as a text asks for it.
-/

namespace Purification

/-! ## Directives

A directive sets a threshold for some records. It can name a target, which is the start of
a component's name, and in brackets a span and a field:

    target[span{field=value}]=level

All parts may be missing. Where the level is missing, everything passes, and a word alone
is a level if there is one of this name.
-/

namespace Log

/-- A field that has to be there, with a value if one is given. -/
structure Condition where
  name : String
  value : Option String
  deriving Repr, DecidableEq

/-- A threshold for some records. -/
structure Directive where
  target : Option String := none
  span : Option String := none
  field : Option Condition := none
  threshold : Nat := Level.trace.rank
  deriving Repr, DecidableEq

namespace Condition

/-- A value can be asked for if it is a number or a pattern. -/
def isValue (value : List Char) : Bool :=
  (readFloat? (String.ofList value)).isSome || Pattern.isPattern value

/-- The condition in a text: a name, and a value after an equals sign. What follows a
    further equals sign says nothing. -/
def read? (cs : List Char) : Option Condition :=
  let name := cs.takeWhile (· ≠ '=')
  match cs.drop name.length with
  | [] => if name.isEmpty then none else some { name := String.ofList name, value := none }
  | _ :: rest =>
      let value := rest.takeWhile (· ≠ '=')
      if isValue value then
        some { name := String.ofList name, value := some (String.ofList value) }
      else none

end Condition

namespace Directive

/-- The threshold with this name or number. -/
def threshold? (text : String) : Option Nat :=
  match readCount? text with
  | some n => if n ≤ Level.trace.rank then some n else none
  | none =>
      if text.toLower = "off" then some 0
      else (Level.all.find? (·.label = text.toLower)).map (·.rank)

/-- The threshold at the end of a directive, where nothing lets everything through. -/
def finalThreshold? (cs : List Char) : Option Nat :=
  if cs.isEmpty then some Level.trace.rank else threshold? (String.ofList cs)

/-- A character with which a target or a level may start. -/
def isStart (c : Char) : Bool := c ∈ ['-', ':', '_'] || Text.isAlphanumeric c

/-- The directive in a word alone. -/
def ofWord (cs : List Char) : Directive :=
  match threshold? (String.ofList cs) with
  | some threshold => { threshold }
  | none => { target := some (String.ofList cs) }

/-- Completes a directive where nothing but a level can follow. What follows is `cs`, and
    `place` is where it starts. -/
def finish? (raw : List Char) (d : Directive) (place : Nat) : List Char → Option Directive
  | [] => some d
  | '=' :: _ => do
      return { d with threshold := ← finalThreshold? (← Text.from? (place + 1) raw) }
  | _ => none

/-- Completes a directive after an opening bracket. What follows is `cs`, and `place` is
    where it starts. An empty span before a field is no span. -/
def inBrackets? (raw : List Char) (d : Directive) (place : Nat) (cs : List Char) :
    Option Directive := do
  let name := cs.takeWhile fun c => c ≠ ']' ∧ c ≠ '\x7b'
  let stop := place + Text.byteLength name
  let span ← Text.slice? place stop raw
  match cs.drop name.length with
  | ']' :: cs =>
      finish? raw { d with span := some (String.ofList span) } (stop + 1) cs
  | _ :: cs => do
      let text := cs.takeWhile (· ≠ '\x7d')
      let start := stop + 1
      let stop := start + Text.byteLength text
      let field ← Condition.read? (← Text.slice? start stop raw)
      let span := if span.isEmpty then none else some (String.ofList span)
      match cs.drop text.length with
      | _ :: ']' :: cs => finish? raw { d with span, field := some field } (stop + 2) cs
      | _ => none
  | [] => none

/-- The directive in a text. Its marks are looked for in the text without the blanks at
    its ends, but the parts are taken from the places of these marks in the whole text, so
    blanks before a directive move its parts and blanks after it belong to the last one. -/
def read? (text : String) : Option Directive :=
  let raw := text.toList
  match Text.trim raw with
  | [] => none
  | '[' :: cs => inBrackets? raw {} 1 cs
  | c :: cs =>
      if !isStart c then none
      else
        let name := (c :: cs).takeWhile fun c => c ≠ '=' ∧ c ≠ '['
        let stop := Text.byteLength name
        match (c :: cs).drop name.length with
        | [] => some (ofWord raw)
        | mark :: rest => do
            let target := String.ofList (← Text.slice? 0 stop raw)
            if mark = '[' then inBrackets? raw { target } (stop + 1) rest
            else finish? raw { target } stop (mark :: rest)

/-- The directive speaks of records wherever they arise. There are no spans, so that one
    that asks for a span, or for a value that a span has, speaks of none. -/
def isGeneral (d : Directive) : Bool := d.span.isNone && d.field.all (·.value.isNone)

def fits {α : Type} (d : Directive) (record : Record α) : Bool :=
  d.isGeneral && d.target.all (record.source.target.startsWith ·) &&
    d.field.all (·.name ∈ record.names)

/-- How much of a component's name a directive gives: less than any target if it has
    none. -/
def reach (d : Directive) : Nat := (d.target.map (·.utf8ByteSize + 1)).getD 0

/-- Among directives that fit a record, one with a longer target is more exact, then one
    with a field, and of two fields the later one in the order of names. -/
def noMoreExactThan (d e : Directive) : Bool :=
  if d.reach = e.reach then
    match d.field, e.field with
    | none, _ => true
    | some _, none => false
    | some d, some e => d.name ≤ e.name
  else d.reach < e.reach

end Directive

/-! ## Filters

A filter is a row of directives between commas. Of the directives that speak of a record
the most exact one decides, and of several alike the last one. A record of which none
speaks is not let through.
-/

/-- The directives of a log. -/
structure Filter where
  directives : List Directive
  deriving Repr, DecidableEq

namespace Filter

/-- The filter in a text. Commas without anything between them are passed over. -/
def read (text : String) : Except Telemetry.Fault Filter :=
  match ((text.splitOn ",").filter (· ≠ "")).mapM Directive.read? with
  | none => .error (.logFilter "invalid filter directive")
  | some directives => .ok ⟨directives⟩

def deciding? {α : Type} (f : Filter) (record : Record α) : Option Directive :=
  (f.directives.filter (·.fits record)).foldl (fun best d =>
    if best.all (·.noMoreExactThan d) then some d else best) none

def threshold {α : Type} (f : Filter) (record : Record α) : Nat :=
  ((f.deciding? record).map (·.threshold)).getD 0

def passes {α : Type} (f : Filter) (record : Record α) : Bool :=
  record.level.rank ≤ f.threshold record

end Filter

end Log

end Purification
