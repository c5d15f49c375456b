import Mathlib.Data.List.Perm.Subperm
import Mathlib.Logic.Equiv.Defs
import Purification.Proofs.Shape.Moves

/-! # Relabelled bins

The bins of each axis can be numbered in another order. That moves each cell of a table to the cell
whose coordinates are the new numbers of its own ones. Cells on one line stay together, so each line
is moved to a line along the same dimension. The cells, and the lines along one dimension, are the
same ones as before in another order.
-/

namespace Purification

theorem map_range_perm {n : Nat} {move : Nat → Nat} (inside : ∀ i < n, move i < n)
    (injective : ∀ i < n, ∀ j < n, move i = move j → i = j) :
    ((List.range n).map move).Perm (List.range n) := by
  have distinct : ((List.range n).map move).Nodup := by
    refine List.Nodup.map_on ?_ List.nodup_range
    intro i hi j hj
    exact injective i (List.mem_range.1 hi) j (List.mem_range.1 hj)
  have within : (List.range n).map move ⊆ List.range n := by
    intro j hj
    obtain ⟨i, hi, rfl⟩ := List.mem_map.1 hj
    exact List.mem_range.2 (inside i (List.mem_range.1 hi))
  exact (List.subperm_of_subset distinct within).perm_of_length_le (by simp)

namespace Shape

variable {s : Shape} {d e cell cell' : Nat}

/-! ## Cells in another order -/

/-- The cells in another order, in which those on one line have stayed together. -/
structure Rearranges (s : Shape) (move : Nat → Nat) : Prop where
  cell_lt : ∀ cell < s.cellCount, move cell < s.cellCount
  injective : ∀ cell < s.cellCount, ∀ cell' < s.cellCount, move cell = move cell' → cell = cell'
  surface_iff : ∀ d < s.rank, ∀ cell < s.cellCount, ∀ cell' < s.cellCount,
    s.surface d (move cell) = s.surface d (move cell') ↔ s.surface d cell = s.surface d cell'

/-- Where a line along dimension `d` is moved to: to the line through its first cell's new place. -/
def movedSurface (s : Shape) (move : Nat → Nat) (d i : Nat) : Nat :=
  s.surface d (move (s.lineAt d i).start)

namespace Rearranges

variable {move : Nat → Nat} (h : s.Rearranges move)

include h

theorem cells_perm : ((List.range s.cellCount).map move).Perm (List.range s.cellCount) :=
  map_range_perm h.cell_lt h.injective

theorem exists_move_eq (hc : cell < s.cellCount) : ∃ cell' < s.cellCount, move cell' = cell := by
  have listed := h.cells_perm.mem_iff.2 (List.mem_range.2 hc)
  obtain ⟨cell', hc', same⟩ := List.mem_map.1 listed
  exact ⟨cell', List.mem_range.1 hc', same⟩

theorem lines_perm (hd : d < s.rank) :
    ((List.range (s.linesAlong d)).map (s.movedSurface move d)).Perm
      (List.range (s.linesAlong d)) := by
  apply map_range_perm
  · intro i inside
    exact surface_lt hd (h.cell_lt _ (start_lt hd inside))
  · intro i inside j inside' same
    have starts := (h.surface_iff d hd _ (start_lt hd inside) _ (start_lt hd inside')).1 same
    rwa [surface_of_mem start_mem, surface_of_mem start_mem] at starts

end Rearranges

/-! ## Relabelled coordinates -/

/-- Another order of the bins of each axis. -/
def Relabelling (s : Shape) : Type := ∀ d, Equiv.Perm (Fin (s.axis d))

namespace Relabelling

variable (p : s.Relabelling)

/-- The new number of bin `k` of axis `d`. -/
def bin (d k : Nat) : Nat := if inside : k < s.axis d then p d ⟨k, inside⟩ else k

def coords (coords : List Nat) : List Nat := coords.mapIdx p.bin

def place (cell : Nat) : Nat := (s.encode (p.coords (coordsOfCell s.lengths cell))).getD 0

theorem bin_lt {k : Nat} (hk : k < s.axis d) : p.bin d k < s.axis d := by
  rw [bin, dif_pos hk]
  exact (p d ⟨k, hk⟩).isLt

theorem bin_inj {j k : Nat} (hj : j < s.axis d) (hk : k < s.axis d) :
    p.bin d j = p.bin d k ↔ j = k := by
  rw [bin, bin, dif_pos hj, dif_pos hk, Fin.val_inj, (p d).injective.eq_iff, Fin.mk.injEq]

theorem encode_coords (cell : Nat) :
    s.encode (p.coords (coordsOfCell s.lengths cell)) = some (p.place cell) := by
  have within : List.Forall₂ (· < ·) (p.coords (coordsOfCell s.lengths cell)) s.lengths := by
    rw [List.forall₂_iff_get]
    refine ⟨by rw [coords, List.length_mapIdx, length_coordsOfCell], fun d _ hd => ?_⟩
    have entry : (coordsOfCell s.lengths cell)[d]? = some (s.coordinate d cell) :=
      getElem?_coords hd
    simp only [List.get_eq_getElem, coords, List.getElem_mapIdx,
      (List.getElem_eq_iff _).2 entry, (List.getElem_eq_iff _).2 (getElem?_lengths hd)]
    exact p.bin_lt coordinate_lt
  obtain ⟨place, encoded⟩ := exists_cellOfCoords within
  have encoded : s.encode (p.coords (coordsOfCell s.lengths cell)) = some place := encoded
  rw [Relabelling.place, encoded, Option.getD_some]

theorem place_lt : p.place cell < s.cellCount := (of_cellOfCoords (p.encode_coords cell)).1

theorem coords_place (cell : Nat) :
    coordsOfCell s.lengths (p.place cell) = p.coords (coordsOfCell s.lengths cell) :=
  (of_cellOfCoords (p.encode_coords cell)).2

theorem coordinate_place (hd : d < s.rank) :
    s.coordinate d (p.place cell) = p.bin d (s.coordinate d cell) := by
  have entry : (coordsOfCell s.lengths (p.place cell))[d]? = some (s.coordinate d (p.place cell)) :=
    getElem?_coords hd
  rw [p.coords_place, coords, List.getElem?_mapIdx, getElem?_coords hd, Option.map_some] at entry
  exact (Option.some.inj entry).symm

theorem coordinate_place_eq_iff (hd : d < s.rank) :
    s.coordinate d (p.place cell) = s.coordinate d (p.place cell') ↔
      s.coordinate d cell = s.coordinate d cell' := by
  rw [p.coordinate_place hd, p.coordinate_place hd, p.bin_inj coordinate_lt coordinate_lt]

/-- Relabelling the bins rearranges the cells. -/
theorem rearranges : s.Rearranges p.place where
  cell_lt _ _ := p.place_lt
  injective cell hc cell' hc' same := by
    refine eq_of_coordinates hc hc' fun d hd => ?_
    rw [← p.coordinate_place_eq_iff hd, same]
  surface_iff d hd cell hc cell' hc' := by
    constructor
    · intro line
      refine surface_eq_of_coordinates hc hc' fun e he other => ?_
      rw [← p.coordinate_place_eq_iff he]
      exact coordinate_eq_of_surface p.place_lt p.place_lt line he other
    · intro line
      refine surface_eq_of_coordinates p.place_lt p.place_lt fun e he other => ?_
      rw [p.coordinate_place_eq_iff he]
      exact coordinate_eq_of_surface hc hc' line he other

/-! ## Relabelled values -/

section

variable {α : Type}

/-- The second values are the first ones, each of them at its new coordinates. -/
def Moves (values values' : Array α) : Prop :=
  ∀ coords cell, s.encode coords = some cell →
    ∃ cell', s.encode (p.coords coords) = some cell' ∧ values'[cell']? = values[cell]?

/-- The second slots hold what the first ones do, where that of the line through some coordinates
    has become that of the line through the new coordinates. -/
def MovesSlots (held held' : Array α) : Prop :=
  ∀ d coords slot, s.surfaceIndex? d coords = some slot →
    ∃ slot', s.surfaceIndex? d (p.coords coords) = some slot' ∧ held'[slot']? = held[slot]?

variable {p}

theorem moves_iff {values values' : Array α} :
    p.Moves values values' ↔ ∀ cell < s.cellCount, values'[p.place cell]? = values[cell]? := by
  constructor
  · intro moved cell hc
    obtain ⟨cell', placed, held⟩ := moved _ cell (encode_coordsOfCell hc)
    cases (p.encode_coords cell).symm.trans placed
    exact held
  · intro held coords cell encoded
    obtain ⟨hc, rfl⟩ := of_cellOfCoords encoded
    exact ⟨_, p.encode_coords cell, held cell hc⟩

theorem movesSlots_iff {held held' : Array α} :
    p.MovesSlots held held' ↔ ∀ d < s.rank, ∀ cell < s.cellCount,
      held'[s.slot d (p.place cell)]? = held[s.slot d cell]? := by
  have named : ∀ d < s.rank, ∀ cell,
      s.surfaceIndex? d (p.coords (coordsOfCell s.lengths cell)) =
        some (s.slot d (p.place cell)) := by
    intro d hd cell
    rw [← p.coords_place]
    exact surfaceIndex?_coordsOfCell hd p.place_lt
  constructor
  · intro moved d hd cell hc
    obtain ⟨slot', placed, same⟩ := moved d _ _ (surfaceIndex?_coordsOfCell hd hc)
    cases (named d hd cell).symm.trans placed
    exact same
  · intro same d coords slot through
    obtain ⟨cell, encoded, along⟩ := Option.bind_eq_some_iff.1 through
    obtain ⟨length, there, -⟩ := Option.bind_eq_some_iff.1 along
    have hd : d < s.rank := (List.getElem?_eq_some_iff.1 there).1
    obtain ⟨hc, rfl⟩ := of_cellOfCoords encoded
    cases (surfaceIndex?_coordsOfCell hd hc).symm.trans through
    exact ⟨_, named d hd cell, same d hd cell hc⟩

end

theorem Moves.size_le {α : Type} {p : s.Relabelling} {values values' : Array α}
    (moved : p.Moves values values') (enough : s.cellCount ≤ values.size) :
    s.cellCount ≤ values'.size := by
  -- the last cell is the new place of some cell
  have last : s.cellCount - 1 < s.cellCount := Nat.sub_one_lt_of_lt s.cellCount_pos
  obtain ⟨cell, hc, same⟩ := p.rearranges.exists_move_eq last
  have held := moves_iff.1 moved cell hc
  rw [same, Array.getElem?_eq_getElem (Nat.lt_of_lt_of_le hc enough)] at held
  have inside := (Array.getElem?_eq_some_iff.1 held).1
  omega

end Relabelling

end Shape

end Purification
