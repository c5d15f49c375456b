import Mathlib.Data.List.Nodup
import Purification.Proofs.Shape.Radix

/-! # Which cells lie on which lines

Through every cell there is exactly one line along each dimension, and its number is
the slot that the cell's coordinates name. Two lines along one dimension share no cell,
and lines along different dimensions never share a slot.
-/

namespace Purification.Shape

/-- The number of the line along dimension `d` through a cell, among those along `d`. -/
def surface (s : Shape) (d cell : Nat) : Nat :=
  cell % s.stride d + cell / s.stride (d + 1) * s.stride d

/-- The number of the line along dimension `d` through a cell, among all lines. -/
def slot (s : Shape) (d cell : Nat) : Nat := s.offset d + s.surface d cell

variable {s : Shape} {d cell : Nat}

theorem slot_sub_offset : s.slot d cell - s.offset d = s.surface d cell :=
  Nat.add_sub_cancel_left _ _

theorem surfaceIndex?_coordsOfCell (hd : d < s.rank) (hc : cell < s.cellCount) :
    s.surfaceIndex? d (coordsOfCell s.lengths cell) = some (s.slot d cell) := by
  simp [surfaceIndex?, encode_coordsOfCell hc, getElem?_lengths hd, slot, surface, stride_succ]

theorem surface_lt (hd : d < s.rank) (hc : cell < s.cellCount) :
    s.surface d cell < s.linesAlong d := by
  rw [cellCount_eq s d] at hc
  have low : cell % s.stride d < s.stride d := Nat.mod_lt cell (s.stride_pos d)
  have high : cell / s.stride (d + 1) + 1 ≤ s.span d := Nat.div_lt_of_lt_mul hc
  have block := Nat.mul_le_mul_left (s.stride d) high
  rw [linesAlong_eq hd, surface, Nat.mul_comm (cell / s.stride (d + 1))]
  rw [Nat.mul_add, Nat.mul_one] at block
  omega

theorem slot_lt (hd : d < s.rank) (hc : cell < s.cellCount) : s.slot d cell < s.lineCount := by
  have inside := surface_lt hd hc
  have before : s.offset (d + 1) ≤ s.offset s.rank := offset_mono hd (Nat.le_refl _)
  rw [offset_succ hd, offset_rank] at before
  rw [slot]
  omega

/-! ## The cells of one line -/

theorem mem_cells_lineAt {i : Nat} :
    cell ∈ (s.lineAt d i).cells ↔
      ∃ k < s.axis d,
        i % s.stride d + i / s.stride d * s.stride (d + 1) + k * s.stride d = cell := by
  simp [Line.cells, Line.firstCells, lineAt, axis, stride_succ]

theorem start_mem {i : Nat} : (s.lineAt d i).start ∈ (s.lineAt d i).cells := by
  refine mem_cells_lineAt.2 ⟨0, s.axis_pos d, ?_⟩
  rw [Nat.zero_mul, Nat.add_zero, lineAt, stride_succ]
  rfl

theorem surface_of_mem {i : Nat} (h : cell ∈ (s.lineAt d i).cells) : s.surface d cell = i := by
  obtain ⟨k, hk, rfl⟩ := mem_cells_lineAt.1 h
  have low : i % s.stride d < s.stride d := Nat.mod_lt i (s.stride_pos d)
  have within : i % s.stride d + k * s.stride d < s.stride (d + 1) := by
    have := Nat.mul_le_mul_right (s.stride d) hk
    rw [Nat.succ_mul] at this
    rw [stride_succ, Nat.mul_comm (s.stride d)]
    omega
  have coordinate : (i % s.stride d + i / s.stride d * s.stride (d + 1) + k * s.stride d)
      % s.stride d = i % s.stride d := by
    rw [stride_succ, Nat.add_mul_mod_self_right, Nat.mul_left_comm, Nat.add_mul_mod_self_left,
      Nat.mod_mod]
  have above : (i % s.stride d + i / s.stride d * s.stride (d + 1) + k * s.stride d)
      / s.stride (d + 1) = i / s.stride d := by
    rw [Nat.add_right_comm, Nat.add_mul_div_right _ _ (s.stride_pos (d + 1)),
      Nat.div_eq_of_lt within, Nat.zero_add]
  rw [surface, coordinate, above, Nat.mod_add_div']

theorem mem_lineAt_surface : cell ∈ (s.lineAt d (s.surface d cell)).cells := by
  have low : cell % s.stride d < s.stride d := Nat.mod_lt cell (s.stride_pos d)
  have coordinate : s.surface d cell % s.stride d = cell % s.stride d := by
    rw [surface, Nat.add_mul_mod_self_right, Nat.mod_mod]
  have above : s.surface d cell / s.stride d = cell / s.stride (d + 1) := by
    rw [surface, Nat.add_mul_div_right _ _ (s.stride_pos d), Nat.div_eq_of_lt low, Nat.zero_add]
  refine mem_cells_lineAt.2 ⟨cell / s.stride d % s.axis d, Nat.mod_lt _ (s.axis_pos d), ?_⟩
  rw [coordinate, above, stride_succ, ← Nat.div_div_eq_div_mul]
  calc cell % s.stride d + cell / s.stride d / s.axis d * (s.stride d * s.axis d)
        + cell / s.stride d % s.axis d * s.stride d
      = cell % s.stride d + (cell / s.stride d % s.axis d
          + s.axis d * (cell / s.stride d / s.axis d)) * s.stride d := by
        rw [Nat.add_mul, Nat.mul_left_comm _ (s.stride d), Nat.mul_comm (s.axis d),
          Nat.mul_comm (s.stride d)]
        omega
    _ = cell := by rw [Nat.mod_add_div, Nat.mod_add_div']

theorem mem_lineAt_iff {i : Nat} : cell ∈ (s.lineAt d i).cells ↔ s.surface d cell = i :=
  ⟨surface_of_mem, fun h => h ▸ mem_lineAt_surface⟩

theorem cells_lineAt_nodup {i : Nat} : (s.lineAt d i).cells.Nodup := by
  unfold Line.cells Line.firstCells
  refine List.Nodup.map (fun a b h => ?_) List.nodup_range
  exact Nat.eq_of_mul_eq_mul_right (s.stride_pos d) (Nat.add_left_cancel h)

theorem surface_lt_iff (hd : d < s.rank) :
    s.surface d cell < s.linesAlong d ↔ cell < s.cellCount := by
  refine ⟨fun h => ?_, surface_lt hd⟩
  rw [linesAlong_eq hd, surface, Nat.mul_comm (s.stride d)] at h
  have : cell / s.stride (d + 1) < s.span d :=
    Nat.lt_of_mul_lt_mul_right (Nat.lt_of_le_of_lt (Nat.le_add_left _ _) h)
  rw [cellCount_eq s d, Nat.mul_comm]
  exact (Nat.div_lt_iff_lt_mul (s.stride_pos _)).1 this

theorem start_lt (hd : d < s.rank) {i : Nat} (inside : i < s.linesAlong d) :
    (s.lineAt d i).start < s.cellCount := by
  rw [← surface_lt_iff hd, surface_of_mem start_mem]
  exact inside

/-! ## Numbered lines -/

theorem slot_dimension {d' i i' : Nat} (hd : d < s.rank) (hd' : d' < s.rank)
    (hi : i < s.linesAlong d) (hi' : i' < s.linesAlong d')
    (same : s.offset d + i = s.offset d' + i') : d = d' ∧ i = i' := by
  rcases Nat.lt_trichotomy d d' with lower | rfl | higher
  · have := offset_mono lower (Nat.le_of_lt hd')
    rw [offset_succ hd] at this
    omega
  · exact ⟨rfl, by omega⟩
  · have := offset_mono higher (Nat.le_of_lt hd)
    rw [offset_succ hd'] at this
    omega

variable {slot : Nat} {line : Line}

theorem mem_linesOf_iff :
    (slot, line) ∈ s.linesOf d ↔
      ∃ i < s.linesAlong d, slot = s.offset d + i ∧ line = s.lineAt d i := by
  simp only [linesOf, List.mem_map, List.mem_range, Prod.mk.injEq]
  constructor
  · rintro ⟨i, inside, rfl, rfl⟩
    exact ⟨i, inside, rfl, rfl⟩
  · rintro ⟨i, inside, rfl, rfl⟩
    exact ⟨i, inside, rfl, rfl⟩

theorem nodup_linesOf : (s.linesOf d).Nodup := by
  refine List.Nodup.map (fun i i' same => ?_) List.nodup_range
  exact Nat.add_left_cancel (Prod.mk.inj same).1

theorem flatMap_linesOf_succ (n : Nat) :
    (List.range (n + 1)).flatMap s.linesOf = (List.range n).flatMap s.linesOf ++ s.linesOf n := by
  rw [List.range_succ, List.flatMap_append, List.flatMap_singleton]

theorem mem_lines_iff :
    (slot, line) ∈ s.lines ↔
      ∃ d < s.rank, ∃ i < s.linesAlong d, slot = s.offset d + i ∧ line = s.lineAt d i := by
  simp only [lines, List.mem_flatMap, List.mem_range, mem_linesOf_iff]

theorem slot_lt_of_mem_lines (h : (slot, line) ∈ s.lines) : slot < s.lineCount := by
  obtain ⟨d, hd, i, hi, rfl, rfl⟩ := mem_lines_iff.1 h
  have before : s.offset (d + 1) ≤ s.offset s.rank := offset_mono hd (Nat.le_refl _)
  rw [offset_succ hd, offset_rank] at before
  omega

theorem cell_lt_of_mem_lines (h : (slot, line) ∈ s.lines) (hc : cell ∈ line.cells) :
    cell < s.cellCount := by
  obtain ⟨d, hd, i, hi, rfl, rfl⟩ := mem_lines_iff.1 h
  rw [← surface_lt_iff hd, surface_of_mem hc]
  exact hi

theorem cells_nodup_of_mem_lines (h : (slot, line) ∈ s.lines) : line.cells.Nodup := by
  obtain ⟨d, hd, i, hi, rfl, rfl⟩ := mem_lines_iff.1 h
  exact cells_lineAt_nodup

theorem cells_ne_nil_of_mem_lines (h : (slot, line) ∈ s.lines) : line.cells ≠ [] := by
  obtain ⟨d, hd, i, hi, rfl, rfl⟩ := mem_lines_iff.1 h
  have first : _ ∈ (s.lineAt d i).cells := mem_cells_lineAt.2 ⟨0, s.axis_pos d, rfl⟩
  exact List.ne_nil_of_mem first

theorem slot_mem_lines (hd : d < s.rank) (hc : cell < s.cellCount) :
    (s.slot d cell, s.lineAt d (s.surface d cell)) ∈ s.lines :=
  mem_lines_iff.2 ⟨d, hd, s.surface d cell, surface_lt hd hc, rfl, rfl⟩

/-- A slot is that of the line through a cell exactly if its line runs along that
    dimension and has the cell on it. -/
theorem slot_eq_iff (h : (slot, line) ∈ s.lines) (hd : d < s.rank) (hc : cell < s.cellCount) :
    s.slot d cell = slot ↔ d = line.dimension ∧ cell ∈ line.cells := by
  obtain ⟨d', hd', i, hi, rfl, rfl⟩ := mem_lines_iff.1 h
  constructor
  · intro same
    obtain ⟨rfl, rfl⟩ := slot_dimension hd hd' (surface_lt hd hc) hi same
    exact ⟨rfl, mem_lineAt_surface⟩
  · rintro ⟨rfl, on⟩
    rw [Shape.slot, surface_of_mem on]

theorem dimension_lt_of_mem_lines (h : (slot, line) ∈ s.lines) : line.dimension < s.rank := by
  obtain ⟨d, hd, i, hi, rfl, rfl⟩ := mem_lines_iff.1 h
  exact hd

end Purification.Shape
