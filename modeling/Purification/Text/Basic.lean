/-! # Texts

A property of characters is given by the ranges of code points that have it, in ascending order.
The blanks are the characters with the Unicode property `White_Space`. A place in a text is the
number of bytes before it in the UTF-8 form of the text.
-/

namespace Purification.Text

/-! ## Ranges of characters -/

/-- The code points from a first to a last one. -/
structure Range where
  first : Nat
  last : Nat
  deriving Repr, DecidableEq

namespace Range

def contains (r : Range) (c : Char) : Bool := r.first ≤ c.toNat ∧ c.toNat ≤ r.last

end Range

def inRanges (ranges : List Range) (c : Char) : Bool := ranges.any (·.contains c)

/-! ## Blanks -/

def blankRanges : List Range :=
  [⟨0x9, 0xD⟩, ⟨0x20, 0x20⟩, ⟨0x85, 0x85⟩, ⟨0xA0, 0xA0⟩, ⟨0x1680, 0x1680⟩,
    ⟨0x2000, 0x200A⟩, ⟨0x2028, 0x2029⟩, ⟨0x202F, 0x202F⟩, ⟨0x205F, 0x205F⟩,
    ⟨0x3000, 0x3000⟩]

def isBlank (c : Char) : Bool := inRanges blankRanges c

def trim (cs : List Char) : List Char :=
  ((cs.dropWhile isBlank).reverse.dropWhile isBlank).reverse

/-! ## Hexadecimal digits -/

def hexDigit? (c : Char) : Option Nat :=
  if '0' ≤ c ∧ c ≤ '9' then some (c.toNat - '0'.toNat)
  else if 'a' ≤ c ∧ c ≤ 'f' then some (c.toNat - 'a'.toNat + 10)
  else if 'A' ≤ c ∧ c ≤ 'F' then some (c.toNat - 'A'.toNat + 10)
  else none

/-! ## Places -/

def byteLength : List Char → Nat
  | [] => 0
  | c :: cs => c.utf8Size + byteLength cs

/-- The text before a place and the text after it. There is no place within a character
    or past the end. -/
def splitAt? : Nat → List Char → Option (List Char × List Char)
  | 0, cs => some ([], cs)
  | _ + 1, [] => none
  | n + 1, c :: cs =>
      if c.utf8Size ≤ n + 1 then
        (splitAt? (n + 1 - c.utf8Size) cs).map fun (before, after) => (c :: before, after)
      else none

def from? (start : Nat) (cs : List Char) : Option (List Char) := (splitAt? start cs).map (·.2)

def slice? (start stop : Nat) (cs : List Char) : Option (List Char) := do
  let rest ← from? start cs
  return (← splitAt? (stop - start) rest).1

end Purification.Text
