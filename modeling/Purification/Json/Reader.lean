import Purification.Json.Basic
import Purification.Text.Basic

/-! # Reading JSON

The strict grammar: no comments, no commas before a closing bracket, four kinds of blanks
and nothing after the value. Values may be nested to any depth.
-/

namespace Purification.Json

/-- A character that may stand between tokens. -/
def isBlank (c : Char) : Bool := c = ' ' ∨ c = '\n' ∨ c = '\t' ∨ c = '\r'

def skipBlanks (cs : List Char) : List Char := cs.dropWhile isBlank

/-- The value of four hexadecimal digits. -/
def unit? (a b c d : Char) : Option Nat := do
  let a ← Text.hexDigit? a
  let b ← Text.hexDigit? b
  let c ← Text.hexDigit? c
  let d ← Text.hexDigit? d
  return ((a * 16 + b) * 16 + c) * 16 + d

/-- The first half of a surrogate pair. -/
def isHigh (unit : Nat) : Bool := 0xD800 ≤ unit ∧ unit < 0xDC00

/-- The second half of a surrogate pair. -/
def isLow (unit : Nat) : Bool := 0xDC00 ≤ unit ∧ unit < 0xE000

def pairChar (high low : Nat) : Char :=
  .ofNat (0x10000 + (high - 0xD800) * 0x400 + (low - 0xDC00))

/-- The character of an escape of one letter. -/
def escape? : Char → Option Char
  | '"' => some '"'
  | '\\' => some '\\'
  | '/' => some '/'
  | 'b' => some '\x08'
  | 'f' => some '\x0c'
  | 'n' => some '\n'
  | 'r' => some '\r'
  | 't' => some '\t'
  | _ => none

/-- A part of a string: a character, or the number of an escape, which may be half of a
    surrogate pair. -/
inductive Part where
  | char (c : Char)
  | escape (unit : Nat)
  deriving Repr, DecidableEq

/-- The parts of a string up to its closing quote, and what follows. -/
def parts? : List Char → Option (List Part × List Char)
  | [] => none
  | '"' :: cs => some ([], cs)
  | '\\' :: 'u' :: a :: b :: c :: d :: cs => do
      let unit ← unit? a b c d
      (parts? cs).map fun (parts, cs) => (.escape unit :: parts, cs)
  | '\\' :: c :: cs => do
      let c ← escape? c
      (parts? cs).map fun (parts, cs) => (.char c :: parts, cs)
  | c :: cs =>
      if c < ' ' ∨ c = '\\' then none
      else (parts? cs).map fun (parts, cs) => (.char c :: parts, cs)

/-- The text of the parts, where `high` is a first half that waits for its second one.
    There is no text if a half stands alone. -/
def joinParts? (high : Option Nat) : List Part → Option (List Char)
  | [] => if high.isSome then none else some []
  | .char c :: parts =>
      if high.isSome then none else (joinParts? none parts).map (c :: ·)
  | .escape unit :: parts =>
      match high with
      | some high =>
          if isLow unit then (joinParts? none parts).map (pairChar high unit :: ·) else none
      | none =>
          if isHigh unit then joinParts? (some unit) parts
          else if isLow unit then none
          else (joinParts? none parts).map (Char.ofNat unit :: ·)

/-- The string up to its closing quote, and what follows. The string is none if it stands
    for no text. -/
def string? (cs : List Char) : Option (Option String × List Char) :=
  (parts? cs).map fun (parts, cs) => ((joinParts? none parts).map String.ofList, cs)

mutual

/-- A value after any blanks, and what follows it. Every value, item and field takes one
    unit of fuel, so twice as many units as characters are enough. -/
def value? : (fuel : Nat) → List Char → Option (Json × List Char)
  | 0, _ => none
  | fuel + 1, cs =>
      match skipBlanks cs with
      | 'n' :: 'u' :: 'l' :: 'l' :: cs => some (.null, cs)
      | 't' :: 'r' :: 'u' :: 'e' :: cs => some (.bool true, cs)
      | 'f' :: 'a' :: 'l' :: 's' :: 'e' :: cs => some (.bool false, cs)
      | '"' :: cs => (string? cs).map fun (text, cs) => (.string text, cs)
      | '[' :: cs =>
          match skipBlanks cs with
          | ']' :: cs => some (.array [], cs)
          | cs => (items? fuel cs).map fun (items, cs) => (.array items, cs)
      | '{' :: cs =>
          match skipBlanks cs with
          | '}' :: cs => some (.object [], cs)
          | cs => (fields? fuel cs).map fun (fields, cs) => (.object fields, cs)
      | cs => (Numeral.scan? cs).map fun (n, cs) => (.number n, cs)

/-- The items of an array, one at least, and what follows its closing bracket. -/
def items? : (fuel : Nat) → List Char → Option (List Json × List Char)
  | 0, _ => none
  | fuel + 1, cs => do
      let (item, cs) ← value? fuel cs
      match skipBlanks cs with
      | ',' :: cs => (items? fuel cs).map fun (items, cs) => (item :: items, cs)
      | ']' :: cs => some ([item], cs)
      | _ => none

/-- The fields of an object, one at least, and what follows its closing brace. -/
def fields? : (fuel : Nat) → List Char → Option (List (Option String × Json) × List Char)
  | 0, _ => none
  | fuel + 1, cs =>
      match skipBlanks cs with
      | '"' :: cs => do
          let (key, cs) ← string? cs
          match skipBlanks cs with
          | ':' :: cs => do
              let (value, cs) ← value? fuel cs
              match skipBlanks cs with
              | ',' :: cs => (fields? fuel cs).map fun (fields, cs) => ((key, value) :: fields, cs)
              | '\x7d' :: cs => some ([(key, value)], cs)
              | _ => none
          | _ => none
      | _ => none

end

def read? (text : String) : Option Json :=
  let cs := text.toList
  match value? (2 * cs.length + 2) cs with
  | some (j, rest) => if skipBlanks rest = [] then some j else none
  | none => none

end Purification.Json
