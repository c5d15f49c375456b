import Mathlib.Algebra.BigOperators.Group.List.Basic
import Mathlib.Algebra.GroupWithZero.Nat
import Purification.Proofs.First
import Purification.Proofs.Shape.Radix

/-! # Where a shape is refused

Lengths without a zero are refused at the first dimension whose product with those before it is
out of range, and if there is none, at the first one whose block takes the number of lines out
of range.
-/

namespace Purification

theorem wordBound_eq : wordBound = 2 ^ 64 := rfl

namespace Shape

theorem product_eq_prod (ns : List Nat) : product ns = ns.prod := by
  induction ns with
  | nil => rfl
  | cons n ns ih => rw [product_cons, ih, List.prod_cons]

theorem total_eq_sum (ns : List Nat) : total ns = ns.sum := by
  induction ns with
  | nil => rfl
  | cons n ns ih => rw [total_cons, ih, List.sum_cons]

theorem product_take_le {lengths : List Nat} (positive : ∀ l ∈ lengths, 0 < l) (k : Nat) :
    product (lengths.take k) ≤ product lengths := by
  have above : 0 < product (lengths.drop k) :=
    product_pos fun l hl => positive l (List.mem_of_mem_drop hl)
  calc product (lengths.take k) ≤ product (lengths.take k) * product (lengths.drop k) :=
        Nat.le_mul_of_pos_right _ above
    _ = product lengths := by rw [← product_append, List.take_append_drop]

theorem total_take_le (ns : List Nat) (k : Nat) : total (ns.take k) ≤ total ns := by
  calc total (ns.take k) ≤ total (ns.take k) + total (ns.drop k) := Nat.le_add_right _ _
    _ = total ns := by rw [← total_append, List.take_append_drop]

/-- The product of the first lengths, up to dimension `k`, is out of range. -/
def CellsOverflow (lengths : List Nat) (k : Nat) : Prop :=
  k < lengths.length ∧ 2 ^ 64 ≤ (lengths.take (k + 1)).prod

/-- The lines along the first dimensions, up to dimension `k`, are too many. -/
def LinesOverflow (lengths : List Nat) (k : Nat) : Prop :=
  k < lengths.length ∧ 2 ^ 64 ≤ ((lengths.take (k + 1)).map (lengths.prod / ·)).sum

/-- Multiplying up the lengths stops at the first zero, or where the product gets out of range
    before that. -/
theorem isLeast_of_cellFault? {d cells : Nat} {lengths : List Nat} {fault : Fault}
    (h : cellFault? d cells lengths = some fault) :
    ∃ k, IsLeast {k | lengths[k]? = some 0 ∨
        k < lengths.length ∧ wordBound ≤ cells * product (lengths.take (k + 1))} k ∧
      fault = if lengths[k]? = some 0 then .zeroDimensionLength (d + k)
        else .cellCountOverflow (d + k) := by
  induction lengths generalizing d cells with
  | nil => cases h
  | cons l ls ih =>
      rw [cellFault?] at h
      split at h
      · rename_i zero
        cases h
        exact ⟨0, isLeast_zero (.inl (congrArg some zero)), (if_pos (congrArg some zero)).symm⟩
      · rename_i nonzero
        have nonzero : (l :: ls)[0]? ≠ some 0 := fun same => nonzero (Option.some.inj same)
        split at h
        · rename_i beyond
          cases h
          exact ⟨0, isLeast_zero (.inr ⟨Nat.succ_pos _, by simpa using beyond⟩),
            (if_neg nonzero).symm⟩
        · rename_i within
          -- the scan of the rest starts from a larger product, and counts from one place later
          obtain ⟨k, least, rfl⟩ := ih h
          refine ⟨k + 1, isLeast_succ ?_ ?_, ?_⟩
          · rintro (zero | overflow)
            · exact nonzero zero
            · exact within (by simpa using overflow.2)
          · simpa only [List.getElem?_cons_succ, List.length_cons, Nat.succ_lt_succ_iff,
              List.take_succ_cons, product_cons, Nat.mul_assoc] using least
          · rw [List.getElem?_cons_succ, Nat.add_assoc, Nat.add_comm 1]

theorem isLeast_of_lineFault? {cells d lines : Nat} {lengths : List Nat} {fault : Fault}
    (h : lineFault? cells d lines lengths = some fault) :
    ∃ k, IsLeast {k | k < lengths.length ∧
        wordBound ≤ lines + total ((lengths.take (k + 1)).map (cells / ·))} k ∧
      fault = .cellCountOverflow (d + k) := by
  induction lengths generalizing d lines with
  | nil => cases h
  | cons l ls ih =>
      rw [lineFault?] at h
      split at h
      · rename_i beyond
        cases h
        exact ⟨0, isLeast_zero ⟨Nat.succ_pos _, by simpa using beyond⟩, rfl⟩
      · rename_i within
        obtain ⟨k, least, rfl⟩ := ih h
        refine ⟨k + 1, isLeast_succ (fun at0 => within (by simpa using at0.2)) ?_, ?_⟩
        · simpa only [List.length_cons, Nat.succ_lt_succ_iff, List.take_succ_cons, List.map_cons,
            total_cons, Nat.add_assoc] using least
        · rw [Nat.add_assoc, Nat.add_comm 1]

section

variable {lengths : List Nat}

theorem not_cellsOverflow (positive : ∀ l ∈ lengths, 0 < l) (within : product lengths < wordBound)
    (k : Nat) : ¬ CellsOverflow lengths k := by
  rintro ⟨-, beyond⟩
  rw [← product_eq_prod, ← wordBound_eq] at beyond
  exact absurd (Nat.le_trans beyond (product_take_le positive _)) (Nat.not_le.2 within)

theorem not_linesOverflow (within : lineTotal lengths < wordBound) (k : Nat) :
    ¬ LinesOverflow lengths k := by
  rintro ⟨-, beyond⟩
  rw [← product_eq_prod, ← total_eq_sum, List.map_take, ← wordBound_eq] at beyond
  exact absurd (Nat.le_trans beyond (total_take_le _ _)) (Nat.not_le.2 within)

theorem lengths_of_ofLengths {shape : Shape} (h : ofLengths lengths = .ok shape) :
    shape.lengths = lengths := by
  unfold ofLengths at h
  split at h
  · cases h
  · cases h
    rfl

theorem fault?_eq_some_of_ofLengths {fault : Fault} (h : ofLengths lengths = .error fault) :
    fault? lengths = some fault := by
  unfold ofLengths at h
  split at h
  · rename_i found
    cases h
    exact found
  · cases h

theorem ofLengths_of_fault? {fault : Fault} (found : fault? lengths = some fault) :
    ofLengths lengths = .error fault := by
  unfold ofLengths
  split
  · rename_i found'
    cases found.symm.trans found'
    rfl
  · rename_i unfound
    cases found.symm.trans unfound

theorem exists_ofLengths_of_fault? (faultless : fault? lengths = none) :
    ∃ shape, ofLengths lengths = .ok shape ∧ shape.lengths = lengths := by
  cases made : ofLengths lengths with
  | ok shape => exact ⟨shape, rfl, lengths_of_ofLengths made⟩
  | error fault => cases faultless.symm.trans (fault?_eq_some_of_ofLengths made)

theorem overflow_of_ofLengths {fault : Fault} (rank_pos : 0 < lengths.length)
    (rank_le : lengths.length ≤ maxRank) (positive : ∀ l ∈ lengths, 0 < l)
    (h : ofLengths lengths = .error fault) :
    (∃ k, IsLeast {k | CellsOverflow lengths k} k ∧ fault = .cellCountOverflow k) ∨
      (∀ k, ¬ CellsOverflow lengths k) ∧
        ∃ k, IsLeast {k | LinesOverflow lengths k} k ∧ fault = .cellCountOverflow k := by
  have found := fault?_eq_some_of_ofLengths h
  rw [fault?, if_neg (Nat.ne_of_gt rank_pos), if_neg (Nat.not_lt.2 rank_le)] at found
  cases cells : cellFault? 0 1 lengths with
  | some fault' =>
      rw [cells] at found
      cases found
      obtain ⟨k, least, rfl⟩ := isLeast_of_cellFault? cells
      have nonzero : ∀ k, lengths[k]? ≠ some 0 := fun k zero =>
        absurd (positive 0 (List.mem_of_getElem? zero)) (Nat.lt_irrefl 0)
      simp only [nonzero, false_or, Nat.one_mul, if_false, Nat.zero_add] at least ⊢
      refine .inl ⟨k, ?_, rfl⟩
      simpa only [CellsOverflow, product_eq_prod, wordBound_eq] using least
  | none =>
      rw [cells] at found
      have within := (of_cellFault?_eq_none (by decide) cells).2
      obtain ⟨k, least, rfl⟩ := isLeast_of_lineFault? found
      refine .inr ⟨not_cellsOverflow positive (by rwa [Nat.one_mul] at within), k, ?_,
        by rw [Nat.zero_add]⟩
      simpa only [LinesOverflow, Nat.zero_add, product_eq_prod, total_eq_sum, wordBound_eq]
        using least

theorem exists_ofLengths (fits : Representable lengths) :
    ∃ shape, ofLengths lengths = .ok shape ∧ shape.lengths = lengths := by
  cases made : ofLengths lengths with
  | ok shape => exact ⟨shape, rfl, lengths_of_ofLengths made⟩
  | error fault =>
      rcases overflow_of_ofLengths fits.rank_pos fits.rank_le fits.length_pos made with
        ⟨k, least, -⟩ | ⟨-, k, least, -⟩
      · exact absurd least.1 (not_cellsOverflow fits.length_pos fits.cells_lt k)
      · exact absurd least.1 (not_linesOverflow fits.lines_lt k)

theorem ofLengths_eq_error (unfit : ¬ Representable lengths) :
    ∃ fault, ofLengths lengths = .error fault := by
  cases made : ofLengths lengths with
  | error fault => exact ⟨fault, rfl⟩
  | ok shape =>
      rw [← lengths_of_ofLengths made] at unfit
      exact absurd shape.representable unfit

end

end Shape

end Purification
