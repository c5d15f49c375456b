import Purification.Proofs.Shape.Coordinates
import Purification.Proofs.Shape.Incidence

/-! # Moving along a line

A cell is known by its coordinates. Moving it along one dimension keeps it on its line and changes
that coordinate only, so moves along two dimensions can be made in either order.
-/

namespace Purification.Shape

def coordinate (s : Shape) (d cell : Nat) : Nat := cell / s.stride d % s.axis d

/-- The cell with coordinate `k` on the line along dimension `d` through a cell. -/
def moved (s : Shape) (d k cell : Nat) : Nat :=
  s.surface d cell % s.stride d + s.surface d cell / s.stride d * s.stride (d + 1) + k * s.stride d

variable {s : Shape} {d e j k cell cell' : Nat}

/-! ## Coordinates -/

theorem coordinate_lt : s.coordinate d cell < s.axis d := Nat.mod_lt _ (s.axis_pos d)

theorem getElem?_coords (hd : d < s.rank) :
    (coordsOfCell s.lengths cell)[d]? = some (s.coordinate d cell) := by
  rw [getElem?_coordsOfCell, getElem?_lengths hd]
  rfl

theorem eq_of_coordinates (hc : cell < s.cellCount) (hc' : cell' < s.cellCount)
    (same : ∀ d < s.rank, s.coordinate d cell = s.coordinate d cell') : cell = cell' := by
  have coords : coordsOfCell s.lengths cell = coordsOfCell s.lengths cell' := by
    apply List.ext_getElem?
    intro d
    by_cases hd : d < s.rank
    · rw [getElem?_coords hd, getElem?_coords hd, same d hd]
    · have beyond : s.lengths.length ≤ d := Nat.le_of_not_lt hd
      simp [beyond]
  have decoded := encode_coordsOfCell hc
  rw [coords, encode_coordsOfCell hc'] at decoded
  exact (Option.some.inj decoded).symm

theorem coordinate_eq_of_surface (hc : cell < s.cellCount) (hc' : cell' < s.cellCount)
    (line : s.surface d cell = s.surface d cell') (he : e < s.rank) (other : e ≠ d) :
    s.coordinate e cell = s.coordinate e cell' := by
  have erased : ∀ {cell}, cell < s.cellCount →
      coordsOfCell (s.lengths.eraseIdx d) (s.surface d cell) =
        (coordsOfCell s.lengths cell).eraseIdx d := fun hc =>
    (of_cellOfCoords (cellOfCoords_eraseIdx d hc)).2
  have rest : (coordsOfCell s.lengths cell).eraseIdx d =
      (coordsOfCell s.lengths cell').eraseIdx d := by
    rw [← erased hc, ← erased hc', line]
  obtain ⟨place, entry⟩ : ∃ place, ∀ cell,
      ((coordsOfCell s.lengths cell).eraseIdx d)[place]? = some (s.coordinate e cell) := by
    refine ⟨if e < d then e else e - 1, fun cell => ?_⟩
    rw [← getElem?_coords he, List.getElem?_eraseIdx]
    grind
  have found := entry cell
  rw [rest, entry cell'] at found
  exact (Option.some.inj found).symm

theorem surface_eq_of_coordinates (hc : cell < s.cellCount) (hc' : cell' < s.cellCount)
    (same : ∀ e < s.rank, e ≠ d → s.coordinate e cell = s.coordinate e cell') :
    s.surface d cell = s.surface d cell' := by
  have entries : ∀ e ≠ d,
      (coordsOfCell s.lengths cell)[e]? = (coordsOfCell s.lengths cell')[e]? := by
    intro e other
    by_cases he : e < s.rank
    · rw [getElem?_coords he, getElem?_coords he, same e he other]
    · have beyond : s.lengths.length ≤ e := Nat.le_of_not_lt he
      simp [beyond]
  have erased : (coordsOfCell s.lengths cell).eraseIdx d =
      (coordsOfCell s.lengths cell').eraseIdx d := by
    apply List.ext_getElem?
    intro e
    rw [List.getElem?_eraseIdx, List.getElem?_eraseIdx]
    split
    · exact entries e (by omega)
    · exact entries (e + 1) (by omega)
  have number := cellOfCoords_eraseIdx d hc
  rw [erased, cellOfCoords_eraseIdx d hc'] at number
  exact (Option.some.inj number).symm

/-! ## Moves -/

theorem cells_lineAt_surface :
    (s.lineAt d (s.surface d cell)).cells = (List.range (s.axis d)).map (s.moved d · cell) := by
  simp [Line.cells, Line.firstCells, lineAt, axis, moved, stride_succ]

theorem moved_mem (hk : k < s.axis d) :
    s.moved d k cell ∈ (s.lineAt d (s.surface d cell)).cells := mem_cells_lineAt.2 ⟨k, hk, rfl⟩

theorem surface_moved (hk : k < s.axis d) : s.surface d (s.moved d k cell) = s.surface d cell :=
  surface_of_mem (moved_mem hk)

theorem moved_lt (hd : d < s.rank) (hk : k < s.axis d) (hc : cell < s.cellCount) :
    s.moved d k cell < s.cellCount := by
  rw [← surface_lt_iff hd, surface_moved hk]
  exact surface_lt hd hc

theorem coordinate_moved (hk : k < s.axis d) : s.coordinate d (s.moved d k cell) = k := by
  have low : s.surface d cell % s.stride d < s.stride d := Nat.mod_lt _ (s.stride_pos d)
  rw [coordinate, moved, Nat.add_mul_div_right _ _ (s.stride_pos d), stride_succ, Nat.mul_left_comm,
    Nat.add_mul_div_left _ _ (s.stride_pos d), Nat.div_eq_of_lt low, Nat.zero_add, Nat.add_comm,
    Nat.add_mul_mod_self_right, Nat.mod_eq_of_lt hk]

theorem coordinate_moved_of_ne (hd : d < s.rank) (hk : k < s.axis d) (hc : cell < s.cellCount)
    (he : e < s.rank) (other : e ≠ d) :
    s.coordinate e (s.moved d k cell) = s.coordinate e cell :=
  coordinate_eq_of_surface (moved_lt hd hk hc) hc (surface_moved hk) he other

theorem moved_coordinate : s.moved d (s.coordinate d cell) cell = cell := by
  have on : cell ∈ (s.lineAt d (s.surface d cell)).cells := mem_lineAt_surface
  obtain ⟨k, hk, same⟩ := mem_cells_lineAt.1 on
  have same : s.moved d k cell = cell := same
  have place : s.coordinate d cell = k := by
    rw [← same, coordinate_moved hk]
  rw [place, same]

theorem moved_comm (hd : d < s.rank) (he : e < s.rank) (other : d ≠ e) (hj : j < s.axis d)
    (hk : k < s.axis e) (hc : cell < s.cellCount) :
    s.moved d j (s.moved e k cell) = s.moved e k (s.moved d j cell) := by
  have first := moved_lt he hk hc
  have second := moved_lt hd hj hc
  apply eq_of_coordinates (moved_lt hd hj first) (moved_lt he hk second)
  intro a ha
  by_cases along : a = d
  · subst along
    rw [coordinate_moved hj, coordinate_moved_of_ne he hk second ha other, coordinate_moved hj]
  · rw [coordinate_moved_of_ne hd hj first ha along]
    by_cases across : a = e
    · subst across
      rw [coordinate_moved hk, coordinate_moved hk]
    · rw [coordinate_moved_of_ne he hk hc ha across, coordinate_moved_of_ne he hk second ha across,
        coordinate_moved_of_ne hd hj hc ha along]

end Purification.Shape
