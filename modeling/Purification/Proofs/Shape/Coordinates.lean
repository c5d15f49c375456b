import Mathlib.Data.List.Forall2
import Purification.Proofs.Shape.Radix

/-! # Coordinates

Coordinates in range and cells are the same thing in two forms. Leaving out the coordinate
along one dimension leaves the mixed-radix digits of the number that the line through the cell
has among those along that dimension; putting a 0 in its place gives the line's first cell.
-/

namespace Purification.Shape

/-! ## Coordinates in range -/

theorem exists_cellOfCoords {lengths coords : List Nat}
    (within : List.Forall₂ (· < ·) coords lengths) :
    ∃ cell, cellOfCoords lengths coords = some cell := by
  induction within with
  | nil => exact ⟨0, rfl⟩
  | cons less _ ih =>
      obtain ⟨rest, h⟩ := ih
      exact ⟨_, by rw [cellOfCoords, if_pos less, h, Option.map_some]⟩

theorem of_cellOfCoords {lengths coords : List Nat} {cell : Nat}
    (h : cellOfCoords lengths coords = some cell) :
    cell < product lengths ∧ coordsOfCell lengths cell = coords := by
  induction lengths generalizing coords cell with
  | nil =>
      cases coords with
      | nil =>
          cases h
          exact ⟨Nat.one_pos, rfl⟩
      | cons c cs => cases h
  | cons l ls ih =>
      cases coords with
      | nil => cases h
      | cons c cs =>
          rw [cellOfCoords] at h
          split at h
          · rename_i less
            obtain ⟨rest, hrest, rfl⟩ := Option.map_eq_some_iff.1 h
            obtain ⟨bound, digits⟩ := ih hrest
            have positive : 0 < l := Nat.zero_lt_of_lt less
            have low : (c + l * rest) % l = c := by
              rw [Nat.add_mul_mod_self_left, Nat.mod_eq_of_lt less]
            have high : (c + l * rest) / l = rest := by
              rw [Nat.add_mul_div_left _ _ positive, Nat.div_eq_of_lt less, Nat.zero_add]
            refine ⟨?_, by rw [coordsOfCell, low, high, digits]⟩
            calc c + l * rest < l + l * rest := Nat.add_lt_add_right less _
              _ = l * (rest + 1) := by rw [Nat.mul_succ, Nat.add_comm]
              _ ≤ l * product ls := Nat.mul_le_mul_left l bound
          · cases h

@[simp] theorem length_coordsOfCell (lengths : List Nat) (cell : Nat) :
    (coordsOfCell lengths cell).length = lengths.length := by
  induction lengths generalizing cell with
  | nil => rfl
  | cons l ls ih => rw [coordsOfCell, List.length_cons, ih, List.length_cons]

theorem getElem?_coordsOfCell (lengths : List Nat) (cell d : Nat) :
    (coordsOfCell lengths cell)[d]? =
      lengths[d]?.map fun l => cell / product (lengths.take d) % l := by
  induction lengths generalizing cell d with
  | nil => rfl
  | cons l ls ih =>
      cases d with
      | zero => simp [coordsOfCell]
      | succ d => simp [coordsOfCell, ih, Nat.div_div_eq_div_mul]

/-! ## One coordinate left out -/

/-- What the lower dimensions say of a cell, and above it what the higher ones say, is the
    number that the other coordinates stand for. -/
theorem cellOfCoords_eraseIdx {lengths : List Nat} {cell : Nat} (d : Nat)
    (bound : cell < product lengths) :
    cellOfCoords (lengths.eraseIdx d) ((coordsOfCell lengths cell).eraseIdx d) =
      some (cell % product (lengths.take d) +
        cell / product (lengths.take (d + 1)) * product (lengths.take d)) := by
  induction lengths generalizing cell d with
  | nil =>
      have : cell = 0 := by simpa using bound
      simp [this, coordsOfCell, cellOfCoords]
  | cons l ls ih =>
      rw [product_cons] at bound
      have rest := Nat.div_lt_of_lt_mul bound
      cases d with
      | zero => simp [coordsOfCell, cellOfCoords_coordsOfCell rest, Nat.mod_one]
      | succ d =>
          -- the lowest digit stays, and the digits above it are those of the quotient
          have positive : 0 < l := Nat.pos_of_mul_pos_right (Nat.zero_lt_of_lt bound)
          simp only [coordsOfCell, List.eraseIdx_cons_succ, cellOfCoords,
            if_pos (Nat.mod_lt cell positive), ih d rest, Option.map_some, List.take_succ_cons,
            product_cons, Option.some.injEq]
          rw [Nat.mod_mul, Nat.mul_add, ← Nat.div_div_eq_div_mul, Nat.mul_left_comm l,
            Nat.add_assoc]

theorem coordsOfCell_first {lengths : List Nat} (positive : ∀ l ∈ lengths, 0 < l) {d l : Nat}
    (there : lengths[d]? = some l) (i : Nat) :
    coordsOfCell lengths (i % product (lengths.take d) +
        i / product (lengths.take d) * (product (lengths.take d) * l)) =
      (coordsOfCell (lengths.eraseIdx d) i).insertIdx d 0 := by
  induction lengths generalizing d i with
  | nil => cases there
  | cons l' ls ih =>
      have first : 0 < l' := positive l' List.mem_cons_self
      cases d with
      | zero =>
          cases Option.some.inj there
          simp [coordsOfCell, Nat.mod_one, first]
      | succ d =>
          have rest := ih (fun m hm => positive m (List.mem_cons_of_mem _ hm)) there (i / l')
          have low : ∀ p, (i % (l' * p) + i / (l' * p) * (l' * p * l)) % l' = i % l' := by
            intro p
            rw [Nat.mul_assoc, Nat.mul_left_comm, Nat.add_mul_mod_self_left, Nat.mod_mul_right_mod]
          have high : ∀ p, (i % (l' * p) + i / (l' * p) * (l' * p * l)) / l' =
              i / l' % p + i / l' / p * (p * l) := by
            intro p
            rw [Nat.mul_assoc, Nat.mul_left_comm, Nat.add_mul_div_left _ _ first,
              Nat.mod_mul_right_div_self, Nat.div_div_eq_div_mul]
          rw [List.take_succ_cons, product_cons, coordsOfCell, low, high, rest]
          rfl

end Purification.Shape
