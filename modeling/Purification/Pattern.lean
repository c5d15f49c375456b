import Purification.Text.Basic
import Purification.Text.Letter

/-! # Patterns

Regular expressions, of which all that matters here is whether a text is one: groups and
sets are closed, every sign of repetition has something before it, and all escapes and
switches are known. A brace has no place in a pattern.
-/

namespace Purification.Pattern

/-! ## Modes

A pattern can say of its own parts how they are to be read. What it says holds up to the
end of the group in which it says so.
-/

/-- How a part of a pattern is read. -/
structure Mode where
  /-- Blanks and comments are passed over. -/
  spaced : Bool := false
  /-- A character is one of Unicode, and not a single byte. -/
  unicode : Bool := true
  deriving Repr, DecidableEq

/-- The text after blanks and comments, from within a comment or not. A comment lasts
    up to the end of its line. -/
def skipSpace (inComment : Bool) : List Char → List Char
  | [] => []
  | c :: cs =>
      if inComment then skipSpace (c ≠ '\n') cs
      else if Text.isBlank c then skipSpace false cs
      else if c = '#' then skipSpace true cs
      else c :: cs

namespace Mode

/-- The text after what is passed over. -/
def skip (m : Mode) (cs : List Char) : List Char := if m.spaced then skipSpace false cs else cs

/-- The mode accepts a character beside those of ASCII only if it knows Unicode. -/
def admits (m : Mode) (c : Char) : Bool := m.unicode || c.toNat < 128

/-- The letters of switches, and the sign before those that are turned off. -/
def switches : List Char := ['i', 'm', 's', 'U', 'u', 'R', 'x', '-']

def isSwitchRow (row : List Char) : Bool :=
  row.all (· ∈ switches) ∧ row.Nodup ∧ row.getLast? ≠ some '-'

def switch (m : Mode) (row : List Char) : Mode :=
  let on := row.takeWhile (· ≠ '-')
  let off := row.dropWhile (· ≠ '-')
  let after (letter : Char) (before : Bool) : Bool := (before ∨ letter ∈ on) ∧ letter ∉ off
  { spaced := after 'x' m.spaced, unicode := after 'u' m.unicode }

end Mode

/-! ## Escapes

What a backslash and the characters after it stand for.
-/

/-- What a piece of a pattern stands for. -/
inductive Piece where
  | char (c : Char)
  /-- Any character of a set. -/
  | set
  /-- A place between characters. -/
  | place
  deriving Repr, DecidableEq

/-- The number of so many hexadecimal digits, continuing from `n`, and what follows. -/
def hexNumber? (m : Mode) (n : Nat) : (digits : Nat) → List Char → Option (Nat × List Char)
  | 0, cs => some (n, cs)
  | digits + 1, cs =>
      match m.skip cs with
      | [] => none
      | c :: cs => do hexNumber? m (16 * n + (← Text.hexDigit? c)) digits cs

/-- The character with this number. Halves of surrogate pairs are no characters. -/
def scalar? (n : Nat) : Option Char := if n.isValidChar then some (.ofNat n) else none

/-- The character whose number has so many digits, and what follows. -/
def numbered? (m : Mode) (digits : Nat) (cs : List Char) : Option (Piece × List Char) := do
  let (n, cs) ← hexNumber? m 0 digits cs
  return (.char (← scalar? n), cs)

/-- The letters for the general categories of characters. -/
def categories : List Char := ['C', 'L', 'M', 'N', 'P', 'S', 'Z']

def control? : Char → Option Char
  | 'a' => some '\x07'
  | 't' => some '\t'
  | 'n' => some '\n'
  | 'v' => some '\x0b'
  | 'f' => some '\x0c'
  | 'r' => some '\r'
  | _ => none

/-- What an escape after its backslash stands for, and what follows it. Single bytes have
    no categories, and the rest of them is no set of characters. The edge of a word is
    known only where words are of ASCII. -/
def escape? (m : Mode) : List Char → Option (Piece × List Char)
  | [] => none
  | 'x' :: cs => do
      let (n, cs) ← hexNumber? m 0 2 cs
      if m.admits (.ofNat n) then some (.char (.ofNat n), cs) else none
  | 'u' :: cs => numbered? m 4 cs
  | 'U' :: cs => numbered? m 8 cs
  | c :: cs =>
      if c = 'p' ∨ c = 'P' then
        match m.skip cs with
        | category :: cs =>
            if m.unicode ∧ category.toUpper ∈ categories then some (.set, cs) else none
        | [] => none
      else if c ∈ ['d', 's', 'w'] then some (.set, cs)
      else if c ∈ ['D', 'S', 'W'] then if m.unicode then some (.set, cs) else none
      else if c ∈ ['A', 'z'] then some (.place, cs)
      else if c ∈ ['b', 'B', '<', '>'] then if m.unicode then none else some (.place, cs)
      else if c.isAlphanum ∨ 127 < c.toNat then (control? c).map fun c => (.char c, cs)
      else some (.char c, cs)

/-! ## Sets in brackets

A set of characters is a row of characters, ranges, escapes and further sets between
brackets. Two ampersands, dashes or tildes combine what stands on both sides of them.
-/

/-- A character or an escape within brackets, and what follows it. -/
def member? (m : Mode) : List Char → Option (Piece × List Char)
  | [] => none
  | '\\' :: cs => escape? m cs
  | c :: cs => if m.admits c then some (.char c, cs) else none

/-- The two ends of a range: characters in their order. -/
def isRange : Piece → Piece → Bool
  | .char first, .char last => first ≤ last
  | _, _ => false

/-- The text after a member or a range. A dash before a bracket or another dash makes no
    range. -/
def afterMember? (m : Mode) (cs : List Char) : Option (List Char) := do
  let (first, cs) ← member? m cs
  let alone (cs : List Char) : Option (List Char) := if first = .place then none else some cs
  match m.skip cs with
  | '-' :: cs =>
      match m.skip cs with
      | ']' :: _ | '-' :: _ => alone ('-' :: cs)
      | rest => do
          let (last, rest) ← member? m rest
          if isRange first last then some rest else none
  | cs => alone cs

/-- The text after leading dashes, of which there are no more than `count`. -/
def dropDashes (m : Mode) : (count : Nat) → List Char → List Char
  | count + 1, '-' :: cs => dropDashes m count (m.skip cs)
  | _, cs => cs

/-- The text after the opening of a set: the sign for all other characters, and the
    dashes or the bracket that are members because they come first. -/
def afterOpening? (m : Mode) (cs : List Char) : Option (List Char) := do
  let cs ← match m.skip cs with
    | '^' :: cs => if m.unicode then some (m.skip cs) else none
    | cs => some cs
  match cs with
  | ']' :: cs => some cs
  | cs => some (dropDashes m cs.length cs)

/-- The text after the bracket that closes a set within `depth` others. Each step takes
    one unit of fuel and a character at least. -/
def afterSet? (m : Mode) : (fuel : Nat) → (depth : Nat) → List Char → Option (List Char)
  | 0, _, _ => none
  | fuel + 1, depth, cs =>
      match m.skip cs with
      | [] => none
      | '[' :: cs => do afterSet? m fuel (depth + 1) (← afterOpening? m cs)
      | ']' :: cs =>
          match depth with
          | 0 => some cs
          | depth + 1 => afterSet? m fuel depth cs
      | '&' :: '&' :: cs | '-' :: '-' :: cs | '~' :: '~' :: cs => afterSet? m fuel depth cs
      | cs => do afterSet? m fuel depth (← afterMember? m cs)

/-- The text after a set, from behind its first bracket on. -/
def afterBracket? (m : Mode) (cs : List Char) : Option (List Char) := do
  let cs ← afterOpening? m cs
  afterSet? m (cs.length + 1) 0 cs

/-! ## Whole patterns -/

/-- Where the reading of a pattern has got to. -/
structure Progress where
  mode : Mode := {}
  /-- What stands right before can be repeated. -/
  repeatable : Bool := false
  /-- The modes around the groups that are open, the innermost one first. -/
  outer : List Mode := []
  /-- The names of groups. -/
  names : List (List Char) := []
  deriving Repr

def isGroupName : List Char → Bool
  | [] => false
  | c :: cs =>
      (c = '_' || Text.isLetter c) &&
        cs.all fun c => c ∈ ['_', '.', '[', ']'] || Text.isAlphanumeric c

namespace Progress

/-- Within a new group that is read in this mode. -/
def enter (p : Progress) (mode : Mode) : Progress :=
  { p with mode, repeatable := false, outer := p.mode :: p.outer }

/-- After something that can be repeated. -/
def item (p : Progress) : Progress := { p with repeatable := true }

/-- The group with the name at the start of the text. No two groups have one name. -/
def enterNamed? (p : Progress) (cs : List Char) : Option (Progress × List Char) :=
  let name := cs.takeWhile (· ≠ '>')
  match cs.drop name.length with
  | _ :: cs =>
      if isGroupName name ∧ name ∉ p.names then
        some ({ p.enter p.mode with names := name :: p.names }, cs)
      else none
  | [] => none

/-- The switches at the start of the text, for the rest of the group around them, or for
    the group that they open. -/
def switch? (p : Progress) (cs : List Char) : Option (Progress × List Char) :=
  let row := cs.takeWhile fun c => c ≠ ':' ∧ c ≠ ')'
  if Mode.isSwitchRow row then
    match cs.drop row.length with
    | ':' :: cs => some (p.enter (p.mode.switch row), cs)
    | _ :: cs =>
        if row.isEmpty then none
        else some ({ p with mode := p.mode.switch row, repeatable := false }, cs)
    | [] => none
  else none

def open? (p : Progress) (cs : List Char) : Option (Progress × List Char) :=
  match p.mode.skip cs with
  | '?' :: 'P' :: '<' :: cs => p.enterNamed? cs
  | '?' :: '<' :: cs => p.enterNamed? cs
  | '?' :: cs => p.switch? cs
  | cs => some (p.enter p.mode, cs)

def step? (p : Progress) : List Char → Option (Progress × List Char)
  | [] => none
  | '(' :: cs => p.open? cs
  | ')' :: cs =>
      match p.outer with
      | mode :: outer => some ({ p.item with mode, outer }, cs)
      | [] => none
  | '|' :: cs => some ({ p with repeatable := false }, cs)
  | '[' :: cs => (afterBracket? p.mode cs).map (p.item, ·)
  | '\\' :: cs => (escape? p.mode cs).map fun (_, cs) => (p.item, cs)
  | '.' :: cs => if p.mode.unicode then some (p.item, cs) else none
  | c :: cs =>
      if c = '*' ∨ c = '+' ∨ c = '?' then if p.repeatable then some (p, cs) else none
      else if c = '\x7b' then none
      else some (p.item, cs)

/-- The rest of a text makes the pattern complete. Each step takes one unit of fuel and a
    character at least. -/
def completes (p : Progress) : (fuel : Nat) → List Char → Bool
  | 0, _ => false
  | fuel + 1, cs =>
      match p.mode.skip cs with
      | [] => p.outer.isEmpty
      | cs =>
          match p.step? cs with
          | some (p, cs) => p.completes fuel cs
          | none => false

end Progress

def isPattern (cs : List Char) : Bool := ({} : Progress).completes (cs.length + 1) cs

end Purification.Pattern
