import Purification.Shape.Line

/-! # Guarded arithmetic and the layout of a shape

The counts, strides and offsets of a shape as they are worked out in words of 64 bits and in a
fixed number of slots, and the loops over them that turn coordinates into cells, cells into
coordinates, and numbers into lines. Every operation here is guarded: `none` stands for a result
that has no word, a division by zero, or an index out of range.
-/

namespace Purification

namespace Word

def add? (a b : Nat) : Option Nat := if a + b < wordBound then some (a + b) else none

def mul? (a b : Nat) : Option Nat := if a * b < wordBound then some (a * b) else none

def sub? (a b : Nat) : Option Nat := if b ≤ a then some (a - b) else none

def div? (a b : Nat) : Option Nat := if b = 0 then none else some (a / b)

def mod? (a b : Nat) : Option Nat := if b = 0 then none else some (a % b)

theorem eq_of_add? {a b n : Nat} (h : add? a b = some n) : n = a + b := by
  unfold add? at h
  split at h
  · exact (Option.some.inj h).symm
  · cases h

end Word

/-! ## Slots -/

/-- As many slots as there can be dimensions, with these values in the first of them. -/
def slotsOf (values : List Nat) : List Nat :=
  values ++ List.replicate (Shape.maxRank - values.length) 0

/-- The slots with one of them written. -/
def put? (slots : List Nat) (place value : Nat) : Option (List Nat) :=
  if place < slots.length then some (slots.set place value) else none

/-- The first `n` entries, which have to be there. -/
def slice? {β : Type} (values : List β) (n : Nat) : Option (List β) :=
  if n ≤ values.length then some (values.take n) else none

/-! ## The layout of a shape -/

/-- What is kept of a shape. -/
structure Layout where
  rank : Nat
  lengths : List Nat
  strides : List Nat
  offsets : List Nat
  cellCount : Nat
  lineCount : Nat

namespace Layout

def blank (rank : Nat) : Layout :=
  { rank, lengths := slotsOf [], strides := slotsOf [], offsets := slotsOf [], cellCount := 1,
    lineCount := 0 }

/-- The lengths from dimension `d` on written, and multiplied onto the cells. Only here, and
    for the lines, is a product or a sum without a word a fault and not a failure. -/
def widen (l : Layout) (d : Nat) : List Nat → Option (Except Fault Layout)
  | [] => some (.ok l)
  | length :: rest =>
      if length = 0 then some (.error (.zeroDimensionLength d))
      else do
        let lengths ← put? l.lengths d length
        let strides ← put? l.strides d l.cellCount
        match Word.mul? l.cellCount length with
        | none => return .error (.cellCountOverflow d)
        | some cellCount => widen { l with lengths, strides, cellCount } (d + 1) rest

/-- The blocks of the given dimensions laid one after the other. -/
def block (l : Layout) : List Nat → Option (Except Fault Layout)
  | [] => some (.ok l)
  | d :: rest => do
      let offsets ← put? l.offsets d l.lineCount
      let length ← l.lengths[d]?
      let lines ← Word.div? l.cellCount length
      match Word.add? l.lineCount lines with
      | none => return .error (.cellCountOverflow d)
      | some lineCount => block { l with offsets, lineCount } rest

def measure (lengths : List Nat) : Option (Except Fault Layout) :=
  if lengths.length = 0 then some (.error .emptyShape)
  else if Shape.maxRank < lengths.length then
    some (.error (.tooManyDimensions lengths.length Shape.maxRank))
  else do
    match ← (blank lengths.length).widen 0 lengths with
    | .error fault => return .error fault
    | .ok l => l.block (List.range l.rank)

def stridesOf (lengths : List Nat) : List Nat :=
  (List.range lengths.length).map fun d => Shape.product (lengths.take d)

/-- The first slots of the blocks, if there are so many cells. -/
def offsetsOf (cells : Nat) (lengths : List Nat) : List Nat :=
  (List.range lengths.length).map fun d => Shape.total ((lengths.take d).map (cells / ·))

/-- What is kept of a shape that was accepted. -/
def ofShape (s : Shape) : Layout :=
  { rank := s.rank
    lengths := slotsOf s.lengths
    strides := slotsOf (stridesOf s.lengths)
    offsets := slotsOf (offsetsOf s.cellCount s.lengths)
    cellCount := s.cellCount
    lineCount := s.lineCount }

/-! ## Cells, coordinates and lines -/

def linesAlong (l : Layout) (d : Nat) : Option Nat :=
  if l.rank ≤ d then some 0 else do Word.div? l.cellCount (← l.lengths[d]?)

def offset (l : Layout) (d : Nat) : Option Nat :=
  if l.rank ≤ d then some l.lineCount else l.offsets[d]?

/-- The coordinates from dimension `d` on added to a cell. -/
def encodeFrom (l : Layout) (d cell : Nat) : List Nat → Option (Option Nat)
  | [] => some (some cell)
  | coord :: coords => do
      let length ← l.lengths[d]?
      if length ≤ coord then some none
      else do
        let step ← Word.mul? coord (← l.strides[d]?)
        encodeFrom l (d + 1) (← Word.add? cell step) coords

def encode (l : Layout) (coords : List Nat) : Option (Option Nat) :=
  if coords.length ≠ l.rank then some none else l.encodeFrom 0 0 coords

/-- The digits of a number written over the first entries of a buffer. -/
def digits (remaining : Nat) : (lengths buffer : List Nat) → Option (List Nat)
  | [], buffer => some buffer
  | _ :: _, [] => some []
  | length :: lengths, _ :: buffer => do
      let coord ← Word.mod? remaining length
      return coord :: (← digits (← Word.div? remaining length) lengths buffer)

def decodeInto (l : Layout) (cell : Nat) (buffer : List Nat) :
    Option (Option (List Nat) × List Nat) :=
  if l.cellCount ≤ cell ∨ buffer.length < l.rank then some (none, buffer)
  else do
    let buffer ← digits cell (← slice? l.lengths l.rank) buffer
    return (some (← slice? buffer l.rank), buffer)

/-- The start of a line: what is left of its number, told apart along these dimensions but
    one. -/
def startFrom (l : Layout) (along remaining start : Nat) : List Nat → Option Nat
  | [] => some start
  | other :: others =>
      if other = along then startFrom l along remaining start others
      else do
        let length ← l.lengths[other]?
        let step ← Word.mul? (← Word.mod? remaining length) (← l.strides[other]?)
        startFrom l along (← Word.div? remaining length) (← Word.add? start step) others

def lineAlong (l : Layout) (d surface : Nat) : Option (Option Line) := do
  if (← l.linesAlong d) ≤ surface then return none
  return some
    { dimension := d
      start := ← l.startFrom d surface 0 (List.range l.rank)
      stride := ← l.strides[d]?
      length := ← l.lengths[d]? }

/-- The block of a line, with so many dimensions left to look through. A line that is in none
    of them is a failure. -/
def locateFrom (l : Layout) (d surface : Nat) : (left : Nat) → Option (Nat × Nat)
  | 0 => none
  | left + 1 => do
      let lines ← l.linesAlong d
      if surface < lines then some (d, surface)
      else locateFrom l (← Word.add? d 1) (← Word.sub? surface lines) left

def line (l : Layout) (i : Nat) : Option (Option Line) :=
  if l.lineCount ≤ i then some none
  else do
    let (d, surface) ← l.locateFrom 0 i l.rank
    l.lineAlong d surface

/-- The coordinates along these dimensions but one added up in their own radix. -/
def surfaceFrom (l : Layout) (along : Nat) (coords : List Nat) (surface radix : Nat) :
    List Nat → Option (Option Nat)
  | [] => some (some surface)
  | other :: others => do
      let coord ← coords[other]?
      let length ← l.lengths[other]?
      if length ≤ coord then some none
      else if other = along then surfaceFrom l along coords surface radix others
      else do
        let step ← Word.mul? coord radix
        surfaceFrom l along coords (← Word.add? surface step) (← Word.mul? radix length) others

def surfaceIndex (l : Layout) (d : Nat) (coords : List Nat) : Option (Option Nat) :=
  if l.rank ≤ d ∨ coords.length ≠ l.rank then some none
  else do
    match ← l.surfaceFrom d coords 0 1 (List.range l.rank) with
    | none => return none
    | some surface => return some (← Word.add? (← l.offsets[d]?) surface)

/-! ## One line after the other -/

open Shape

/-- The next line with its slot, if there is one, and where the cursor stands then. -/
def next (l : Layout) (c : LineCursor) : Option (Option (Nat × Line) × LineCursor) :=
  if c.dimension < l.rank then do
    match ← l.lineAlong c.dimension c.surface with
    | some line =>
        let surface ← Word.add? c.surface 1
        return (some (c.slot, line), { c with surface, slot := ← Word.add? c.slot 1 })
    | none =>
        match _h : Word.add? c.dimension 1 with
        | none => none
        | some dimension => next l { c with dimension, surface := 0 }
  else some (none, c)
termination_by l.rank - c.dimension
decreasing_by
  have := Word.eq_of_add? _h
  omega

def remaining (l : Layout) (c : LineCursor) : Option Nat := Word.sub? l.lineCount c.slot

/-- The lines from a cursor on, in fewer than `fuel` steps. -/
def collect (l : Layout) : (fuel : Nat) → LineCursor → Option (List (Nat × Line))
  | 0, _ => none
  | fuel + 1, c => do
      match ← l.next c with
      | (none, _) => return []
      | (some item, c) => return item :: (← collect l fuel c)

def lines (l : Layout) : Option (List (Nat × Line)) := l.collect (l.lineCount + 1) {}

def cells (line : Line) : Option (List Nat) :=
  (List.range line.length).mapM fun i => do Word.add? line.start (← Word.mul? i line.stride)

end Layout

end Purification
