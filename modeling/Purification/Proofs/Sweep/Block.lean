import Purification.Proofs.Sweep.Field

/-! # Sweeping one dimension

Two lines along one dimension have no cell in common, so centring one of them leaves the mean of
the other as it was. Sweeping the lines of a dimension in place, in whatever order, therefore
takes from each cell the mean that its line had before any of them was swept. These means are what
the slots of the dimension gain and what the tally notes.
-/

namespace Purification

theorem Tally.retry_foldl_note {α : Type} [Scalar α] (threshold : α) (means : List α)
    (t : Tally α) :
    (means.foldl (·.note threshold ·) t).retry =
      (t.retry || means.any fun mean => Scalar.lt threshold (Scalar.abs mean)) := by
  induction means generalizing t with
  | nil => rw [List.foldl_nil, List.any_nil, Bool.or_false]
  | cons mean means ih => rw [List.foldl_cons, ih, List.any_cons, note, Bool.or_assoc]

namespace Field

variable {α : Type} [Scalar α] {s : Shape} {d cell : Nat} {f : Field α} {weights : Array α}
  {threshold : α} {lines : List (Nat × Line)}

/-! ## The scores -/

theorem getElem?_scores_remove_other {i : Nat} (other : s.surface d cell ≠ i) (slot : Nat)
    (mean : α) : (f.remove slot (s.lineAt d i) mean).scores[cell]? = f.scores[cell]? := by
  rw [getElem?_scores_remove slot mean Shape.cells_lineAt_nodup,
    if_neg fun on => other (Shape.surface_of_mem on)]

theorem mean_remove_other {i i' : Nat} (other : i' ≠ i) (slot : Nat) (mean : α) :
    (s.lineAt d i').mean weights (f.remove slot (s.lineAt d i) mean).scores =
      (s.lineAt d i').mean weights f.scores := by
  refine Line.mean_congr (fun _ _ => rfl) fun cell on => ?_
  have own := Shape.surface_of_mem on
  rw [Array.getD_eq_getD_getElem?, Array.getD_eq_getD_getElem?,
    getElem?_scores_remove_other (own ▸ other)]

/-- What lines along one dimension leave of the scores: a cell whose line is among them has lost
    the mean that this line had at the start, and any other cell nothing. -/
theorem getElem?_scores_foldl_along (along : ∀ numbered ∈ lines, numbered ∈ s.linesOf d)
    (distinct : lines.Nodup) (t : Tally α) (cell : Nat) :
    (lines.foldl (centre weights threshold) (f, t)).1.scores[cell]? =
      if (s.slot d cell, s.lineAt d (s.surface d cell)) ∈ lines then
        f.scores[cell]?.map (· - (s.lineAt d (s.surface d cell)).mean weights f.scores)
      else f.scores[cell]? := by
  induction lines generalizing f t with
  | nil => rfl
  | cons numbered lines ih =>
      obtain ⟨slot, line⟩ := numbered
      obtain ⟨fresh, rest⟩ := List.nodup_cons.1 distinct
      obtain ⟨i, -, rfl, rfl⟩ := Shape.mem_linesOf_iff.1 (along _ List.mem_cons_self)
      rw [List.foldl_cons, centre,
        ih (fun numbered later => along numbered (List.mem_cons_of_mem _ later)) rest]
      by_cases own : s.surface d cell = i
      · -- the line is swept now, and it does not come a second time
        subst own
        rw [Shape.slot, if_neg fresh, if_pos List.mem_cons_self,
          getElem?_scores_remove _ _ Shape.cells_lineAt_nodup, if_pos Shape.mem_lineAt_surface]
      · have apart : (s.slot d cell, s.lineAt d (s.surface d cell)) ≠
            (s.offset d + i, s.lineAt d i) := fun same =>
          own (Nat.add_left_cancel (Prod.mk.inj same).1)
        rw [mean_remove_other own, getElem?_scores_remove_other own]
        simp only [List.mem_cons, apart, false_or]

theorem getD_scores_block (covers : f.Covers s) (hd : d < s.rank) (hc : cell < s.cellCount)
    (t : Tally α) :
    ((s.linesOf d).foldl (centre weights threshold) (f, t)).1.scores.getD cell 0 =
      f.scores.getD cell 0 - (s.lineAt d (s.surface d cell)).mean weights f.scores := by
  have listed : (s.slot d cell, s.lineAt d (s.surface d cell)) ∈ s.linesOf d :=
    Shape.mem_linesOf_iff.2 ⟨_, Shape.surface_lt hd hc, rfl, rfl⟩
  have there : cell < f.scores.size := Nat.lt_of_lt_of_le hc covers.cells
  rw [Array.getD_eq_getD_getElem?, getElem?_scores_foldl_along (fun _ member => member)
    Shape.nodup_linesOf, if_pos listed, Array.getD_eq_getD_getElem?,
    Array.getElem?_eq_getElem there]
  rfl

/-! ## The slots and the tally -/

theorem getElem?_impurities_foldl {i : Nat} (absent : i ∉ lines.map (·.1)) (t : Tally α) :
    (lines.foldl (centre weights threshold) (f, t)).1.impurities[i]? = f.impurities[i]? := by
  induction lines generalizing f t with
  | nil => rfl
  | cons numbered lines ih =>
      obtain ⟨slot, line⟩ := numbered
      rw [List.map_cons, List.mem_cons, not_or] at absent
      rw [List.foldl_cons, centre, ih absent.2, getElem?_impurities_remove,
        if_neg (Ne.symm absent.1)]

theorem getD_impurities_foldl {i : Nat} (absent : i ∉ lines.map (·.1)) (t : Tally α) :
    (lines.foldl (centre weights threshold) (f, t)).1.impurities.getD i 0 =
      f.impurities.getD i 0 := by
  rw [Array.getD_eq_getD_getElem?, Array.getD_eq_getD_getElem?, getElem?_impurities_foldl absent]

theorem getElem?_impurities_foldl_along (along : ∀ numbered ∈ lines, numbered ∈ s.linesOf d)
    (distinct : lines.Nodup) (t : Tally α) (i : Nat) :
    (lines.foldl (centre weights threshold) (f, t)).1.impurities[s.offset d + i]? =
      if (s.offset d + i, s.lineAt d i) ∈ lines then
        f.impurities[s.offset d + i]?.map (· + (s.lineAt d i).mean weights f.scores)
      else f.impurities[s.offset d + i]? := by
  induction lines generalizing f t with
  | nil => rfl
  | cons numbered lines ih =>
      obtain ⟨slot, line⟩ := numbered
      obtain ⟨fresh, rest⟩ := List.nodup_cons.1 distinct
      obtain ⟨i', -, rfl, rfl⟩ := Shape.mem_linesOf_iff.1 (along _ List.mem_cons_self)
      rw [List.foldl_cons, centre,
        ih (fun numbered later => along numbered (List.mem_cons_of_mem _ later)) rest,
        getElem?_impurities_remove]
      by_cases own : i = i'
      · subst own
        rw [if_neg fresh, if_pos rfl, if_pos List.mem_cons_self]
      · have apart : (s.offset d + i, s.lineAt d i) ≠ (s.offset d + i', s.lineAt d i') :=
          fun same => own (Nat.add_left_cancel (Prod.mk.inj same).1)
        have elsewhere : s.offset d + i' ≠ s.offset d + i :=
          fun same => own (Nat.add_left_cancel same).symm
        rw [if_neg elsewhere, mean_remove_other own]
        simp only [List.mem_cons, apart, false_or]

theorem getD_impurities_block (covers : f.Covers s) (hd : d < s.rank) (hc : cell < s.cellCount)
    (t : Tally α) :
    ((s.linesOf d).foldl (centre weights threshold) (f, t)).1.impurities.getD (s.slot d cell) 0 =
      f.impurities.getD (s.slot d cell) 0 +
        (s.lineAt d (s.surface d cell)).mean weights f.scores := by
  have listed : (s.offset d + s.surface d cell, s.lineAt d (s.surface d cell)) ∈ s.linesOf d :=
    Shape.mem_linesOf_iff.2 ⟨_, Shape.surface_lt hd hc, rfl, rfl⟩
  have there : s.offset d + s.surface d cell < f.impurities.size :=
    Nat.lt_of_lt_of_le (Shape.slot_lt hd hc) covers.lines
  rw [Shape.slot, Array.getD_eq_getD_getElem?, getElem?_impurities_foldl_along
    (fun _ member => member) Shape.nodup_linesOf, if_pos listed, Array.getD_eq_getD_getElem?,
    Array.getElem?_eq_getElem there]
  rfl

theorem getD_impurities_block_of_ne (hd : d < s.rank) {e : Nat} (he : e < s.rank)
    (other : e ≠ d) (hc : cell < s.cellCount) (t : Tally α) :
    ((s.linesOf d).foldl (centre weights threshold) (f, t)).1.impurities.getD (s.slot e cell) 0 =
      f.impurities.getD (s.slot e cell) 0 := by
  apply getD_impurities_foldl
  intro listed
  obtain ⟨⟨slot, line⟩, member, same⟩ := List.mem_map.1 listed
  obtain ⟨i, inside, rfl, rfl⟩ := Shape.mem_linesOf_iff.1 member
  exact other (Shape.slot_dimension hd he inside (Shape.surface_lt he hc) same).1.symm

/-! ## The means met -/

/-- The means that a sweep of these lines in place comes to, one after the other. -/
def means (weights : Array α) : Field α → List (Nat × Line) → List α
  | _, [] => []
  | f, (slot, line) :: lines =>
      let mean := line.mean weights f.scores
      mean :: means weights (f.remove slot line mean) lines

theorem tally_foldl (f : Field α) (lines : List (Nat × Line)) (t : Tally α) :
    (lines.foldl (centre weights threshold) (f, t)).2 =
      (f.means weights lines).foldl (·.note threshold ·) t := by
  induction lines generalizing f t with
  | nil => rfl
  | cons numbered lines ih => exact ih _ _

theorem length_means (f : Field α) (lines : List (Nat × Line)) :
    (f.means weights lines).length = lines.length := by
  induction lines generalizing f with
  | nil => rfl
  | cons numbered lines ih => exact congrArg (· + 1) (ih _)

theorem eq_mean_of_mem_zip {numbered : Nat × Line} {mean : α}
    (met : (numbered, mean) ∈ lines.zip (f.means weights lines)) :
    numbered ∈ lines ∧ ∃ scores, mean = numbered.2.mean weights scores := by
  induction lines generalizing f with
  | nil => cases met
  | cons first lines ih =>
      rcases List.mem_cons.1 met with here | later
      · cases here
        exact ⟨List.mem_cons_self, f.scores, rfl⟩
      · obtain ⟨on, read⟩ := ih later
        exact ⟨List.mem_cons_of_mem _ on, read⟩

/-- Lines along one dimension are met with the means which they had at the start. -/
theorem means_along (along : ∀ numbered ∈ lines, numbered ∈ s.linesOf d)
    (distinct : lines.Nodup) :
    f.means weights lines = lines.map fun numbered => numbered.2.mean weights f.scores := by
  induction lines generalizing f with
  | nil => rfl
  | cons numbered lines ih =>
      obtain ⟨slot, line⟩ := numbered
      obtain ⟨fresh, rest⟩ := List.nodup_cons.1 distinct
      obtain ⟨i, -, rfl, rfl⟩ := Shape.mem_linesOf_iff.1 (along _ List.mem_cons_self)
      have later := fun numbered later => along numbered (List.mem_cons_of_mem _ later)
      rw [means, ih later rest, List.map_cons]
      congr 1
      apply List.map_congr_left
      rintro ⟨slot', line'⟩ listed
      obtain ⟨i', -, rfl, rfl⟩ := Shape.mem_linesOf_iff.1 (later _ listed)
      have other : i' ≠ i := fun same => fresh (same ▸ listed)
      exact mean_remove_other other _ _

theorem tally_block (d : Nat) (t : Tally α) :
    ((s.linesOf d).foldl (centre weights threshold) (f, t)).2 =
      ((List.range (s.linesAlong d)).map fun i => (s.lineAt d i).mean weights f.scores).foldl
        (·.note threshold ·) t := by
  rw [tally_foldl, means_along (fun _ member => member) Shape.nodup_linesOf, Shape.linesOf,
    List.map_map]
  rfl

end Field

end Purification
