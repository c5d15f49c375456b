import Purification.Decimal.Format
import Purification.Json.Basic

/-! # Writing JSON

A value on one line without blanks, or laid out with an item to a line. Numbers are
written with the fewest digits that read back, and null stands for a number that is not
finite.
-/

namespace Purification.Json

/-- The format of numbers: whole ones keep a point, and an exponent is used from 16 digits
    before the point and 5 zeros after it on. -/
def format : NumberFormat :=
  { tie := .toEven
    positional := some (-5, 15)
    keepsPoint := true
    nan := "null"
    infinity := "null"
    negativeInfinity := "null" }

/-- A number, and null for a double that has no digits. -/
def ofFloat (x : Float) : Json :=
  match Numeral.scan? (format.write x).toList with
  | some (n, []) => .number n
  | _ => .null

def ofNat (n : Nat) : Json := .number (.ofNat n)

def ofInt (n : Int) : Json :=
  .number { negative := decide (n < 0), whole := Nat.toDigits 10 n.natAbs }

def ofString (text : String) : Json := .string (some text)

def ofFields (fields : List (String × Json)) : Json :=
  .object (fields.map fun (name, value) => (some name, value))

def writeChar (c : Char) : List Char :=
  match c with
  | '"' => ['\\', '"']
  | '\\' => ['\\', '\\']
  | '\x08' => ['\\', 'b']
  | '\x0c' => ['\\', 'f']
  | '\n' => ['\\', 'n']
  | '\r' => ['\\', 'r']
  | '\t' => ['\\', 't']
  | c =>
      if c < ' ' then
        let digits := Nat.toDigits 16 c.toNat
        '\\' :: 'u' :: List.replicate (4 - digits.length) '0' ++ digits
      else [c]

/-- A string. Where there is no text, a mark stands for what is missing. -/
def writeString (text : Option String) : String :=
  let chars := (text.getD "\ufffd").toList.flatMap writeChar
  String.ofList ('"' :: chars ++ ['"'])

/-- How a value is laid out: on one line, or with items on lines of their own, further to
    the right by two blanks than the brackets around them. -/
inductive Layout where
  | compact
  | indented
  deriving Repr, DecidableEq

namespace Layout

/-- What stands before an item, or a closing bracket, at this depth. -/
def lineBreak (layout : Layout) (depth : Nat) : String :=
  match layout with
  | .compact => ""
  | .indented => String.ofList ('\n' :: List.replicate (2 * depth) ' ')

def colon : Layout → String
  | .compact => ":"
  | .indented => ": "

def enclose (layout : Layout) (depth : Nat) (left right : String) : List String → String
  | [] => left ++ right
  | items =>
      let items := items.map (layout.lineBreak (depth + 1) ++ ·)
      left ++ ",".intercalate items ++ layout.lineBreak depth ++ right

end Layout

mutual

/-- A value at the given depth. -/
def write (layout : Layout) (depth : Nat) : Json → String
  | .null => "null"
  | .bool true => "true"
  | .bool false => "false"
  | .number n => String.ofList n.text
  | .string text => writeString text
  | .array items => layout.enclose depth "[" "]" (writeItems layout (depth + 1) items)
  | .object fields => layout.enclose depth "\x7b" "\x7d" (writeFields layout (depth + 1) fields)

def writeItems (layout : Layout) (depth : Nat) : List Json → List String
  | [] => []
  | item :: items => write layout depth item :: writeItems layout depth items

def writeFields (layout : Layout) (depth : Nat) : List (Option String × Json) → List String
  | [] => []
  | (name, value) :: fields =>
      (writeString name ++ layout.colon ++ write layout depth value) ::
        writeFields layout depth fields

end

def compact (j : Json) : String := j.write .compact 0

def pretty (j : Json) : String := j.write .indented 0

end Purification.Json
