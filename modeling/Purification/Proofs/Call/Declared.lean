import Purification.Proofs.Call.Table
import Purification.Proofs.Guarded.Layout

/-! # Declared cells

How many cells a call declares is worked out before anything of the call has been checked, and
apart from the shape that it is checked with. If the call has a table, both are the same number;
and whatever the call, working it out does not fail.
-/

namespace Purification

variable {α : Type}

namespace Call

theorem product?_eq {cells : Nat} {lengths : List Int} (positive : ∀ l ∈ lengths, 0 < l)
    (fits : cells * Shape.product (lengths.map (·.toNat)) < wordBound) :
    product? cells lengths = some (cells * Shape.product (lengths.map (·.toNat))) := by
  induction lengths generalizing cells with
  | nil => simp [product?]
  | cons l ls ih =>
      have rest_positive : ∀ m ∈ ls, 0 < m := fun m member =>
        positive m (List.mem_cons_of_mem l member)
      have above : 0 < Shape.product (ls.map (·.toNat)) := by
        refine Shape.product_pos fun n image => ?_
        obtain ⟨m, member, rfl⟩ := List.mem_map.1 image
        have := rest_positive m member
        omega
      have l_pos := positive l List.mem_cons_self
      rw [List.map_cons, Shape.product_cons, ← Nat.mul_assoc] at fits ⊢
      -- a product that fits has only factors that fit
      have step : cells * l.toNat < wordBound :=
        Nat.lt_of_le_of_lt (Nat.le_mul_of_pos_right _ above) fits
      rw [product?, if_neg (by omega), if_neg (Nat.not_le.2 step)]
      exact ih rest_positive fits

theorem supplied_of_admission {call : Call α} {shape : Shape} {weights : Array α}
    {field : Field α} (h : call.admission = .ok (.table shape weights field)) :
    ∃ lengths, call.lengths = some lengths ∧ call.dimensionCount.toNat ≤ lengths.size := by
  unfold admission at h
  split at h
  · cases h
  split at h
  · cases h
  split at h
  · cases h
  obtain ⟨lengths, supplied, -⟩ := bind_eq_ok h
  exact ⟨lengths, Buffer.require_eq_ok supplied⟩

/-- A call with a table declares the cells of its shape, however many lengths it supplies. -/
theorem declaredCells_of_admission {call : Call α} {shape : Shape} {weights : Array α}
    {field : Field α} (h : call.admission = .ok (.table shape weights field)) :
    call.declaredCells = shape.cellCount := by
  obtain ⟨lengths, supplied, enough⟩ := supplied_of_admission h
  obtain ⟨lengths', supplied', made⟩ := (admits_of_admission h).lengths_eq
  cases supplied.symm.trans supplied'
  have counted := Shape.lengths_of_ofLengths made
  have fits := shape.representable
  rw [counted] at fits
  have positive : ∀ l ∈ lengths.toList.take call.dimensionCount.toNat, 0 < l := by
    intro l member
    have := fits.length_pos _ (List.mem_map_of_mem member)
    omega
  have rank_pos : 0 < call.dimensionCount.toNat := by
    have := fits.rank_pos
    rw [List.length_map, List.length_take] at this
    omega
  have product : product? 1 _ = _ := product?_eq positive (by simpa using fits.cells_lt)
  simp only [declaredCells, supplied]
  rw [if_neg (by omega), if_neg (by omega), product, Nat.one_mul, Option.getD_some, ← counted]
  rfl

theorem product?_lt {cells n : Nat} {lengths : List Int} (small : cells < wordBound)
    (h : product? cells lengths = some n) : n < wordBound := by
  induction lengths generalizing cells with
  | nil =>
      cases h
      exact small
  | cons l ls ih =>
      unfold product? at h
      split at h
      · cases h
      split at h
      · cases h
      · rename_i within
        exact ih (Nat.not_le.1 within) h

theorem declaredCells_lt (call : Call α) : call.declaredCells < wordBound := by
  unfold declaredCells
  split
  · decide
  split
  · decide
  split
  · decide
  cases product : product? 1 _ with
  | none => decide
  | some n => exact product?_lt (by decide) product

end Call

/-! ## Guarded -/

namespace Guarded

/-- The product of lengths. A negative length has none, nor have lengths whose product has no
    word; neither is a failure. -/
def product? (cells : Nat) (lengths : List Int) : Option Nat :=
  lengths.foldlM (fun cells length => if length < 0 then none else Word.mul? cells length.toNat)
    cells

/-- The number of cells that a call declares. Of the lengths that were supplied a slice is taken,
    which would fail if they were fewer than declared. -/
def declaredCells (call : Call α) : Option Nat :=
  match call.lengths with
  | none => some 0
  | some lengths =>
      if call.dimensionCount < 0 then some 0
      else if call.dimensionCount = 0 ∨ (lengths.size : Int) < call.dimensionCount then some 0
      else do
        let counted ← slice? lengths.toList call.dimensionCount.toNat
        return (product? 1 counted).getD 0

theorem product?_eq (cells : Nat) (lengths : List Int) :
    product? cells lengths = Call.product? cells lengths := by
  unfold product?
  induction lengths generalizing cells with
  | nil => rfl
  | cons l ls ih =>
      rw [List.foldlM_cons, Call.product?]
      by_cases negative : l < 0
      · simp [negative]
      by_cases beyond : wordBound ≤ cells * l.toNat
      · simp [negative, beyond, Word.mul?_eq_none]
      · simp [negative, beyond, Word.mul?_eq (Nat.not_le.1 beyond), ih]

/-- No call fails for the cells that it declares. -/
theorem declaredCells_eq (call : Call α) : declaredCells call = some call.declaredCells := by
  unfold declaredCells Call.declaredCells
  cases call.lengths with
  | none => rfl
  | some lengths =>
      dsimp only
      by_cases negative : call.dimensionCount < 0
      · rw [if_pos negative, if_pos (by omega)]
      rw [if_neg negative]
      by_cases zero : call.dimensionCount = 0
      · rw [if_pos (.inl zero), if_pos (by omega)]
      by_cases short : (lengths.size : Int) < call.dimensionCount
      · rw [if_pos (.inr short), if_neg (by omega), if_pos short]
      have inside : call.dimensionCount.toNat ≤ lengths.toList.length := by
        rw [Array.length_toList]
        omega
      rw [if_neg (by simp [zero, short]), if_neg (by omega), if_neg short, slice?,
        if_pos inside, ← product?_eq]
      rfl

end Guarded

end Purification
