import Purification.Fault
import Purification.Number

/-! # Shapes

A shape is the list of axis lengths of a dense table. Cells are numbered with
dimension 0 varying fastest. A line is a set of cells that differ in one coordinate
only; the lines along one dimension form a block, and the blocks are numbered one
after the other.

`Shape.ofLengths` accepts exactly the lists in which every cell and every line has a
number of 64 bits; an accepted shape carries that fact.
-/

namespace Purification

namespace Shape

def maxRank : Nat := 30

def product (ns : List Nat) : Nat := ns.foldr (· * ·) 1

def total (ns : List Nat) : Nat := ns.foldr (· + ·) 0

/-- The number of lines of a table with these lengths: each dimension contributes
    one line for every setting of the other coordinates. -/
def lineTotal (lengths : List Nat) : Nat :=
  total (lengths.map (product lengths / ·))

/-- Lengths whose cells and lines can all be numbered. -/
structure Representable (lengths : List Nat) : Prop where
  rank_pos : 0 < lengths.length
  rank_le : lengths.length ≤ maxRank
  length_pos : ∀ l ∈ lengths, 0 < l
  cells_lt : product lengths < wordBound
  lines_lt : lineTotal lengths < wordBound

/-- The fault met first when the lengths from dimension `d` on are multiplied onto
    `cells`: a zero, or a product out of range. -/
def cellFault? (d cells : Nat) : List Nat → Option Fault
  | [] => none
  | l :: ls =>
      if l = 0 then some (.zeroDimensionLength d)
      else if wordBound ≤ cells * l then some (.cellCountOverflow d)
      else cellFault? (d + 1) (cells * l) ls

/-- The first dimension from `d` on whose block takes the number of lines, `lines`
    so far, out of range. -/
def lineFault? (cells d lines : Nat) : List Nat → Option Fault
  | [] => none
  | l :: ls =>
      if wordBound ≤ lines + cells / l then some (.cellCountOverflow d)
      else lineFault? cells (d + 1) (lines + cells / l) ls

/-- What is wrong with a list of lengths: its rank first, then its cells, then its
    lines. -/
def fault? (lengths : List Nat) : Option Fault :=
  if lengths.length = 0 then some .emptyShape
  else if maxRank < lengths.length then some (.tooManyDimensions lengths.length maxRank)
  else (cellFault? 0 1 lengths).or (lineFault? (product lengths) 0 0 lengths)

@[simp] theorem product_nil : product [] = 1 := rfl

@[simp] theorem product_cons (n : Nat) (ns : List Nat) : product (n :: ns) = n * product ns := rfl

@[simp] theorem total_nil : total [] = 0 := rfl

@[simp] theorem total_cons (n : Nat) (ns : List Nat) : total (n :: ns) = n + total ns := rfl

theorem of_cellFault?_eq_none {d cells : Nat} {lengths : List Nat} (hc : cells < wordBound)
    (h : cellFault? d cells lengths = none) :
    (∀ l ∈ lengths, 0 < l) ∧ cells * product lengths < wordBound := by
  induction lengths generalizing d cells with
  | nil => simpa using hc
  | cons l ls ih =>
      unfold cellFault? at h
      split at h
      · contradiction
      · split at h
        · contradiction
        · obtain ⟨hpos, hlt⟩ := ih (by omega) h
          refine ⟨fun x hx => ?_, by rwa [product_cons, ← Nat.mul_assoc]⟩
          rcases List.mem_cons.1 hx with rfl | hx
          · omega
          · exact hpos x hx

theorem of_lineFault?_eq_none {cells d lines : Nat} {lengths : List Nat}
    (hl : lines < wordBound) (h : lineFault? cells d lines lengths = none) :
    lines + total (lengths.map (cells / ·)) < wordBound := by
  induction lengths generalizing d lines with
  | nil => simpa using hl
  | cons l ls ih =>
      unfold lineFault? at h
      split at h
      · contradiction
      · have := ih (by omega) h
        simp only [List.map_cons, total_cons]
        omega

theorem representable_of_fault?_eq_none {lengths : List Nat} (h : fault? lengths = none) :
    Representable lengths := by
  unfold fault? at h
  split at h
  · contradiction
  · split at h
    · contradiction
    · obtain ⟨hcell, hline⟩ := Option.or_eq_none_iff.1 h
      obtain ⟨hpos, hcells⟩ := of_cellFault?_eq_none (by decide) hcell
      have hlines := of_lineFault?_eq_none (by decide) hline
      exact ⟨by omega, by omega, hpos, by simpa using hcells, by simpa [lineTotal] using hlines⟩

end Shape

/-- The lengths of a table's axes, small enough for every cell and line to have a
    number. -/
structure Shape where
  lengths : List Nat
  representable : Shape.Representable lengths
  deriving Repr, DecidableEq

namespace Shape

/-- The shape with these lengths, or what is wrong with them. -/
def ofLengths (lengths : List Nat) : Except Fault Shape :=
  match h : fault? lengths with
  | some fault => .error fault
  | none => .ok ⟨lengths, representable_of_fault?_eq_none h⟩

def rank (s : Shape) : Nat := s.lengths.length

def cellCount (s : Shape) : Nat := product s.lengths

/-- The number of lines along all dimensions. -/
def lineCount (s : Shape) : Nat := lineTotal s.lengths

/-- The distance between neighbours along dimension `d`: the number of cells that
    the dimensions before it span. -/
def stride (s : Shape) (d : Nat) : Nat := product (s.lengths.take d)

def strides (s : Shape) : List Nat := (List.range s.rank).map s.stride

/-- The number of lines along dimension `d`; none lie along a dimension the shape
    does not have. -/
def linesAlong (s : Shape) (d : Nat) : Nat :=
  match s.lengths[d]? with
  | some l => s.cellCount / l
  | none => 0

/-- The number of the first line along dimension `d`, and the number of all lines
    beyond the last dimension. -/
def offset (s : Shape) (d : Nat) : Nat :=
  total ((s.lengths.take d).map (s.cellCount / ·))

/-! ## Cells and coordinates

The number of a cell is its coordinates read in mixed radix, the lengths being the
radices and dimension 0 the lowest digit.
-/

/-- The number with these mixed-radix digits, if there is a digit below each radix
    and none left over. -/
def cellOfCoords : (lengths coords : List Nat) → Option Nat
  | [], [] => some 0
  | l :: ls, c :: cs => if c < l then (cellOfCoords ls cs).map (c + l * ·) else none
  | _, _ => none

/-- The mixed-radix digits of a number, lowest first. -/
def coordsOfCell : (lengths : List Nat) → (cell : Nat) → List Nat
  | [], _ => []
  | l :: ls, cell => cell % l :: coordsOfCell ls (cell / l)

/-- The cell at the given coordinates, if they are one per dimension and in range. -/
def encode (s : Shape) (coords : List Nat) : Option Nat := cellOfCoords s.lengths coords

/-- The coordinates of a cell, if there is such a cell. -/
def decode (s : Shape) (cell : Nat) : Option (List Nat) :=
  if cell < s.cellCount then some (coordsOfCell s.lengths cell) else none

/-- The coordinates of a cell, and the buffer with them in its first slots. A buffer
    without a slot for each coordinate gets none of them. -/
def decodeInto (s : Shape) (cell : Nat) (buffer : List Nat) : Option (List Nat) × List Nat :=
  match s.decode cell with
  | some coords =>
      if s.rank ≤ buffer.length then (some coords, coords ++ buffer.drop s.rank)
      else (none, buffer)
  | none => (none, buffer)

end Shape

end Purification
