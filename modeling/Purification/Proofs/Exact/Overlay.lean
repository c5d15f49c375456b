import Mathlib.Algebra.BigOperators.Ring.Finset
import Mathlib.Algebra.Order.Field.Rat
import Mathlib.Tactic.Ring
import Purification.Proofs.Sweep.Opening

/-! # What the slots hold of a cell

Each cell has one slot along each dimension. Moving a mean from a line to its slot takes
it from the cells of the line and adds it to exactly their slots, so a score together
with what its slots hold does not change.
-/

namespace Purification

/-- Rationals as the numbers of a sweep: what a sweep computes when nothing is rounded. -/
instance : Scalar ℚ where
  abs x := |x|
  lt x y := decide (x < y)
  le x y := decide (x ≤ y)
  isZero x := decide (x = 0)
  isTop _ := false

variable {s : Shape} {f : Field ℚ} {slot : Nat} {line : Line} {cell : Nat}

/-- What the lines through a cell hold together, one line along each dimension. -/
def Shape.overlay (s : Shape) (held : Nat → ℚ) (cell : Nat) : ℚ :=
  ∑ d ∈ Finset.range s.rank, held (s.slot d cell)

theorem Shape.overlay_congr {held held' : Nat → ℚ} (hc : cell < s.cellCount)
    (same : ∀ i < s.lineCount, held i = held' i) : s.overlay held cell = s.overlay held' cell :=
  Finset.sum_congr rfl fun _ hd => same _ (Shape.slot_lt (Finset.mem_range.1 hd) hc)

theorem Shape.overlay_single (member : (slot, line) ∈ s.lines) (hc : cell < s.cellCount) (x : ℚ) :
    s.overlay (fun i => if slot = i then x else 0) cell = if cell ∈ line.cells then x else 0 := by
  have dimension := Finset.mem_range.2 (Shape.dimension_lt_of_mem_lines member)
  have hits : ∀ d ∈ Finset.range s.rank, (if slot = s.slot d cell then x else 0) =
      if line.dimension = d then (if cell ∈ line.cells then x else 0) else 0 := by
    intro d hd
    have hits := Shape.slot_eq_iff member (Finset.mem_range.1 hd) hc
    by_cases along : line.dimension = d
    · subst along
      simp [eq_comm (a := slot), hits]
    · simp [eq_comm (a := slot), hits, along, Ne.symm along]
  rw [Shape.overlay, Finset.sum_congr rfl hits, Finset.sum_ite_eq, if_pos dimension]

theorem Shape.overlay_add (held held' : Nat → ℚ) :
    s.overlay (fun i => held i + held' i) cell = s.overlay held cell + s.overlay held' cell :=
  Finset.sum_add_distrib

theorem Shape.overlay_sub (held held' : Nat → ℚ) :
    s.overlay (fun i => held i - held' i) cell = s.overlay held cell - s.overlay held' cell :=
  Finset.sum_sub_distrib ..

namespace Field

/-- A score with what the slots of its cell hold put back. -/
def whole (f : Field ℚ) (s : Shape) (cell : Nat) : ℚ :=
  f.scores.getD cell 0 + s.overlay (f.impurities.getD · 0) cell

theorem whole_remove (covers : f.Covers s) (member : (slot, line) ∈ s.lines)
    (hc : cell < s.cellCount) (mean : ℚ) :
    (f.remove slot line mean).whole s cell = f.whole s cell := by
  have score := f.getD_scores_remove slot mean (Shape.cells_nodup_of_mem_lines member)
    (Nat.lt_of_lt_of_le hc covers.cells)
  have held : s.overlay ((f.remove slot line mean).impurities.getD · 0) cell =
      s.overlay (f.impurities.getD · 0) cell + if cell ∈ line.cells then mean else 0 := by
    rw [← Shape.overlay_single member hc, ← Shape.overlay_add]
    refine Shape.overlay_congr hc fun i hi => ?_
    rw [getD_impurities_remove slot mean (Nat.lt_of_lt_of_le hi covers.lines)]
    split
    · rfl
    · exact (add_zero _).symm
  rw [whole, whole, score, held]
  split
  · ring
  · ring

theorem whole_after {g : Sweep.Setting ℚ} (lines : ∀ numbered ∈ g.lines, numbered ∈ s.lines)
    (covers : f.Covers s) (hc : cell < s.cellCount) (n : Nat) :
    (g.after f n).whole s cell = f.whole s cell := by
  have kept : (g.after f n).Covers s ∧ (g.after f n).whole s cell = f.whole s cell := by
    refine Sweep.Setting.after_preserves
      (P := fun f' => f'.Covers s ∧ f'.whole s cell = f.whole s cell) ?_ ⟨covers, rfl⟩ n
    rintro f' slot line member ⟨covers, same⟩
    exact ⟨covers.remove slot _, (whole_remove covers (lines _ member) hc _).trans same⟩
  exact kept.2

theorem whole_opening (covers : f.Covers s) (hc : cell < s.cellCount) (weights : Array ℚ)
    (intercept : Option ℚ) :
    (f.opening s weights intercept).whole s cell =
      f.scores.getD cell 0 - (intercept.map fun _ => (s.totals weights f.scores).mean).getD 0 := by
  have cleared : s.overlay ((f.opening s weights intercept).impurities.getD · 0) cell = 0 :=
    Finset.sum_eq_zero fun d hd => Sweep.getD_mapFirst _
      (Shape.slot_lt (Finset.mem_range.1 hd) hc)
      (Nat.lt_of_lt_of_le (Shape.slot_lt (Finset.mem_range.1 hd) hc) covers.lines)
  rw [whole, cleared, add_zero]
  cases intercept with
  | none => exact (sub_zero _).symm
  | some _ => exact Sweep.getD_mapFirst _ hc (Nat.lt_of_lt_of_le hc covers.cells)

end Field

/-- A run takes from a score its intercept and what the slots hold at the end, and no
    more. -/
theorem Sweep.Swept.whole_eq {tolerance : ℚ} {limit : Option Nat} {weights : Array ℚ}
    {intercept : Option ℚ} {n : Nat} {result : Result ℚ}
    (h : Swept s tolerance limit weights f intercept n result) (covers : f.Covers s)
    (hc : cell < s.cellCount) :
    f.scores.getD cell 0 = result.field.scores.getD cell 0 + result.intercept.getD 0 +
      s.overlay (result.field.impurities.getD · 0) cell := by
  have last := Field.whole_after (g := s.setting tolerance limit weights f.scores)
    (fun _ member => member) (covers.opening weights intercept) hc (n + 1)
  rw [← h.field_eq, Field.whole_opening covers hc, ← h.intercept_eq, Field.whole] at last
  rw [add_right_comm, last]
  ring

end Purification
