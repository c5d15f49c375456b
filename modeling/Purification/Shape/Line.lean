import Purification.Shape.Basic

/-! # Lines

The lines along a dimension are numbered by their other coordinates, the lowest of
these varying fastest. Counted over all dimensions, one block after the other, a
line has the number of its slot among the impurities.
-/

namespace Purification

/-- The cells `start`, `start + stride`, …, `length` of them. -/
structure Line where
  dimension : Nat
  start : Nat
  stride : Nat
  length : Nat
  deriving Repr, DecidableEq

namespace Line

/-- The first cells of a line, at most `n` of them. -/
def firstCells (line : Line) (n : Nat) : List Nat :=
  (List.range (min n line.length)).map fun i => line.start + i * line.stride

def cells (line : Line) : List Nat := line.firstCells line.length

end Line

namespace Shape

/-- The line with number `surface` among those along dimension `d`, in a shape that has
    them. The lower coordinates of a line run over `stride` values, then the higher
    ones advance by one step of `stride * length` cells. -/
def lineAt (s : Shape) (d surface : Nat) : Line :=
  let stride := s.stride d
  let length := s.lengths.getD d 1
  { dimension := d
    start := surface % stride + surface / stride * (stride * length)
    stride
    length }

/-- The line with number `surface` among those along dimension `d`. -/
def lineAlong? (s : Shape) (d surface : Nat) : Option Line :=
  if surface < s.linesAlong d then some (s.lineAt d surface) else none

/-- The dimension and the number within its block of line `i`, where each length in
    the list stands for a block of `cells / length` lines. -/
def locate? (cells : Nat) : List Nat → Nat → Option (Nat × Nat)
  | [], _ => none
  | l :: ls, i =>
      if i < cells / l then some (0, i)
      else (locate? cells ls (i - cells / l)).map fun (d, surface) => (d + 1, surface)

/-- The line with number `i` among all lines. -/
def line? (s : Shape) (i : Nat) : Option Line := do
  let (d, surface) ← locate? s.cellCount s.lengths i
  s.lineAlong? d surface

/-- The number of the line along dimension `d` through the cell at `coords`. -/
def surfaceIndex? (s : Shape) (d : Nat) (coords : List Nat) : Option Nat := do
  let cell ← s.encode coords
  let length ← s.lengths[d]?
  let stride := s.stride d
  some (s.offset d + (cell % stride + cell / (stride * length) * stride))

def linesOf (s : Shape) (d : Nat) : List (Nat × Line) :=
  let first := s.offset d
  (List.range (s.linesAlong d)).map fun surface => (first + surface, s.lineAt d surface)

/-- All lines with their numbers, in order. -/
def lines (s : Shape) : List (Nat × Line) :=
  (List.range s.rank).flatMap s.linesOf

/-- A place in the sequence of lines: the line to come next is number `slot`, namely
    number `surface` along `dimension`, or the first one after that block. -/
structure LineCursor where
  dimension : Nat := 0
  surface : Nat := 0
  slot : Nat := 0
  deriving Repr, DecidableEq

/-- The number of lines still to come. -/
def LineCursor.remaining (s : Shape) (c : LineCursor) : Nat := s.lineCount - c.slot

/-- The next line with its number, if there is one, and where the cursor stands then: after
    that line, or beyond the last block. Every block has a line, so at most one block end is
    passed on the way. -/
def LineCursor.next (s : Shape) (c : LineCursor) : Option (Nat × Line) × LineCursor :=
  if c.dimension < s.rank then
    match s.lineAlong? c.dimension c.surface with
    | some line => (some (c.slot, line), { c with surface := c.surface + 1, slot := c.slot + 1 })
    | none => LineCursor.next s { c with dimension := c.dimension + 1, surface := 0 }
  else (none, c)
termination_by s.rank - c.dimension

/-- What `n` steps yield, and where the cursor stands after them. -/
def LineCursor.take (s : Shape) (c : LineCursor) : Nat → List (Nat × Line) × LineCursor
  | 0 => ([], c)
  | n + 1 =>
      let (item, c) := c.next s
      let (items, last) := LineCursor.take s c n
      (item.toList ++ items, last)

end Shape

end Purification
