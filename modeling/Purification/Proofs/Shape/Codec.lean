import Mathlib.Algebra.GroupWithZero.Nat
import Purification.Proofs.Shape.Numbering

/-! # Cells and coordinates, both ways

Coordinates stand for a cell if there is one for each dimension and each is below its length. The
cell is what the coordinates come to when each is taken as many times as its stride, and the
coordinates come back when lengths are divided off the cell. Every cell below the cell count has
coordinates, and a buffer gets them in its first slots; a buffer that is too short is left alone.
-/

namespace Purification.Shape

variable {lengths coords : List Nat} {cell : Nat}

/-! ## Coordinates in range -/

theorem within_coordsOfCell (positive : ∀ l ∈ lengths, 0 < l) (cell : Nat) :
    List.Forall₂ (· < ·) (coordsOfCell lengths cell) lengths := by
  induction lengths generalizing cell with
  | nil => exact .nil
  | cons l ls ih =>
      exact .cons (Nat.mod_lt cell (positive l List.mem_cons_self))
        (ih (fun m member => positive m (List.mem_cons_of_mem l member)) _)

theorem exists_cellOfCoords_iff :
    (∃ cell, cellOfCoords lengths coords = some cell) ↔
      List.Forall₂ (· < ·) coords lengths := by
  refine ⟨?_, exists_cellOfCoords⟩
  rintro ⟨cell, encoded⟩
  induction lengths generalizing coords cell with
  | nil =>
      cases coords with
      | nil => exact .nil
      | cons c cs => cases encoded
  | cons l ls ih =>
      cases coords with
      | nil => cases encoded
      | cons c cs =>
          rw [cellOfCoords] at encoded
          split at encoded
          · rename_i less
            obtain ⟨rest, encoded, -⟩ := Option.map_eq_some_iff.1 encoded
            exact .cons less (ih rest encoded)
          · cases encoded

/-! ## Strides -/

theorem sum_zipWith_mul_left (l : Nat) (xs ys : List Nat) :
    (List.zipWith (· * ·) xs (ys.map (l * ·))).sum = l * (List.zipWith (· * ·) xs ys).sum := by
  induction xs generalizing ys with
  | nil => rfl
  | cons x xs ih =>
      cases ys with
      | nil => rfl
      | cons y ys =>
          rw [List.map_cons, List.zipWith_cons_cons, List.sum_cons, ih, List.zipWith_cons_cons,
            List.sum_cons, Nat.mul_add, Nat.mul_left_comm]

/-- Coordinates add up to their cell, each taken as many times as the lengths before it allow. -/
theorem sum_of_cellOfCoords (h : cellOfCoords lengths coords = some cell) :
    (List.zipWith (· * ·) coords
      ((List.range lengths.length).map fun d => product (lengths.take d))).sum = cell := by
  induction lengths generalizing coords cell with
  | nil =>
      cases coords with
      | nil => exact Option.some.inj h
      | cons c cs => cases h
  | cons l ls ih =>
      cases coords with
      | nil => cases h
      | cons c cs =>
          rw [cellOfCoords] at h
          split at h
          · obtain ⟨rest, encoded, rfl⟩ := Option.map_eq_some_iff.1 h
            have strides : (List.range (ls.length + 1)).map
                  (fun d => product ((l :: ls).take d)) =
                1 :: ((List.range ls.length).map fun d => product (ls.take d)).map (l * ·) := by
              rw [List.range_succ_eq_map, List.map_cons, List.map_map, List.map_map]
              rfl
            rw [List.length_cons, strides, List.zipWith_cons_cons, List.sum_cons, Nat.mul_one,
              sum_zipWith_mul_left, ih encoded]
          · cases h

/-! ## Into a buffer -/

variable {s : Shape}

/-- Decoding the cell into the buffer shows these coordinates. They are in range and stand for the
    cell, and they are all that is written: the slots after the first ones stay as they were. -/
structure Decodes (s : Shape) (cell : Nat) (buffer coords : List Nat) : Prop where
  shown : (s.decodeInto cell buffer).1 = some coords
  written : (s.decodeInto cell buffer).2.take s.rank = coords
  untouched : (s.decodeInto cell buffer).2.drop s.rank = buffer.drop s.rank
  within : List.Forall₂ (· < ·) coords s.lengths
  encoded : s.encode coords = some cell

theorem decodes_coordsOfCell (bound : cell < s.cellCount) {buffer : List Nat}
    (room : s.rank ≤ buffer.length) : s.Decodes cell buffer (coordsOfCell s.lengths cell) := by
  have decoded : s.decodeInto cell buffer = (some (coordsOfCell s.lengths cell),
      coordsOfCell s.lengths cell ++ buffer.drop s.rank) := by
    rw [decodeInto, decode_eq bound]
    exact if_pos room
  have whole : (coordsOfCell s.lengths cell).length = s.rank := length_coordsOfCell _ _
  constructor
  · rw [decoded]
  · rw [decoded, ← whole, List.take_left]
  · rw [decoded, ← whole, List.drop_left]
  · exact within_coordsOfCell s.representable.length_pos cell
  · exact encode_coordsOfCell bound

theorem decodeInto_of_refused {buffer : List Nat}
    (refused : s.cellCount ≤ cell ∨ buffer.length < s.rank) :
    s.decodeInto cell buffer = (none, buffer) := by
  unfold decodeInto
  rcases refused with beyond | short
  · rw [show s.decode cell = none from if_neg (Nat.not_lt.2 beyond)]
  · split
    · exact if_neg (Nat.not_le.2 short)
    · rfl

/-- Encoding and decoding are inverse to each other, between the coordinates in range and the cells
    below the cell count. A buffer with a slot for each coordinate gets them in its first slots, and
    nothing else is ever written. -/
theorem cells_coded (s : Shape) :
    (∀ coords, (∃ cell, s.encode coords = some cell) ↔
      List.Forall₂ (· < ·) coords s.lengths) ∧
    (∀ coords cell, s.encode coords = some cell →
      cell < s.cellCount ∧ (List.zipWith (· * ·) coords s.strides).sum = cell ∧
      ∀ buffer, s.rank ≤ buffer.length → s.Decodes cell buffer coords) ∧
    (∀ cell < s.cellCount, ∀ buffer, s.rank ≤ buffer.length →
      ∃ coords, s.Decodes cell buffer coords) ∧
    ∀ cell buffer,
      ((s.decodeInto cell buffer).1 = none ↔ s.cellCount ≤ cell ∨ buffer.length < s.rank) ∧
      ((s.decodeInto cell buffer).1 = none → (s.decodeInto cell buffer).2 = buffer) := by
  refine ⟨fun coords => exists_cellOfCoords_iff, ?_, ?_, ?_⟩
  · intro coords cell encoded
    obtain ⟨bound, rfl⟩ := of_cellOfCoords encoded
    exact ⟨bound, sum_of_cellOfCoords encoded, fun buffer => decodes_coordsOfCell bound⟩
  · exact fun cell bound buffer room => ⟨_, decodes_coordsOfCell bound room⟩
  · intro cell buffer
    by_cases refused : s.cellCount ≤ cell ∨ buffer.length < s.rank
    · simp [decodeInto_of_refused refused, refused]
    · have accepted := refused
      rw [not_or, Nat.not_le, Nat.not_lt] at accepted
      have shown := (decodes_coordsOfCell accepted.1 accepted.2).shown
      simp [shown, refused]

/-- The last cell of a slab in a buffer with a slot to spare; a cell too many; and a buffer that
    is too short. -/
theorem cells_coded_slab :
    slab.Decodes 5 [9, 9, 9, 9] [1, 0, 2] ∧
    slab.decodeInto 5 [9, 9, 9, 9] = (some [1, 0, 2], [1, 0, 2, 9]) ∧
    (∃ coords, slab.Decodes 4 [9, 9, 9] coords ∧ coords = [0, 0, 2]) ∧
    (slab.decodeInto 6 [9, 9, 9, 9]).2 = [9, 9, 9, 9] ∧ (slab.decodeInto 5 [9, 9]).2 = [9, 9] := by
  obtain ⟨-, encoded, decoded, refused⟩ := cells_coded slab
  have last : slab.encode [1, 0, 2] = some 5 := by decide
  refine ⟨(encoded _ 5 last).2.2 [9, 9, 9, 9] (by decide), by decide, ?_, ?_, ?_⟩
  · obtain ⟨coords, decodes⟩ := decoded 4 (by decide) [9, 9, 9] (by decide)
    have shown : (slab.decodeInto 4 [9, 9, 9]).1 = some [0, 0, 2] := by decide
    exact ⟨coords, decodes, Option.some.inj (decodes.shown.symm.trans shown)⟩
  · exact (refused 6 _).2 ((refused 6 _).1.2 (.inl (by decide)))
  · exact (refused 5 _).2 ((refused 5 _).1.2 (.inr (by decide)))

end Purification.Shape
