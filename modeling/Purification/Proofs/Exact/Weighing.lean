import Mathlib.Algebra.Order.BigOperators.Ring.Finset
import Mathlib.Tactic.FieldSimp
import Mathlib.Tactic.Linarith
import Purification.Proofs.Exact.Overlay

/-! # Weighted sums over cells and lines

The lines along one dimension share out the cells of a table, so a weighted sum over the
table is one over these lines. A line's mean is its weighted sum over its weight; with
weights that are not negative this holds of lines without weight too.
-/

namespace Purification

/-- The sum of a value over the cells of a line, each counted with its weight. -/
def Line.weigh (line : Line) (weights : Array ℚ) (value : Nat → ℚ) : ℚ :=
  (line.cells.map fun cell => weights.getD cell 0 * value cell).sum

def Line.mass (line : Line) (weights : Array ℚ) : ℚ := line.weigh weights fun _ => 1

/-- The sum of a value over the cells of a table, each counted with its weight. -/
def Shape.weigh (s : Shape) (weights : Array ℚ) (value : Nat → ℚ) : ℚ :=
  ∑ cell ∈ Finset.range s.cellCount, weights.getD cell 0 * value cell

/-- No cell of the table has a weight below 0. -/
def Shape.Bears (s : Shape) (weights : Array ℚ) : Prop :=
  ∀ cell < s.cellCount, 0 ≤ weights.getD cell 0

/-- The weighted values on each line of the shape add up to 0. -/
def Shape.Balanced (s : Shape) (weights : Array ℚ) (value : Nat → ℚ) : Prop :=
  ∀ numbered ∈ s.lines, numbered.2.weigh weights value = 0

/-- The weighted values on each line along dimension `d` add up to 0. -/
def Shape.BalancedAlong (s : Shape) (d : Nat) (weights : Array ℚ) (value : Nat → ℚ) : Prop :=
  ∀ i < s.linesAlong d, (s.lineAt d i).weigh weights value = 0

namespace Line

variable {line : Line} {weights : Array ℚ} {value value' : Nat → ℚ}

theorem weigh_congr (same : ∀ cell ∈ line.cells, value cell = value' cell) :
    line.weigh weights value = line.weigh weights value' := by
  unfold weigh
  congr 1
  exact List.map_congr_left fun cell on => by rw [same cell on]

theorem weigh_add (value value' : Nat → ℚ) :
    line.weigh weights (fun cell => value cell + value' cell) =
      line.weigh weights value + line.weigh weights value' := by
  simp only [weigh, mul_add, List.sum_map_add]

theorem weigh_mul_left (c : ℚ) (value : Nat → ℚ) :
    line.weigh weights (fun cell => c * value cell) = c * line.weigh weights value := by
  unfold weigh
  rw [← List.sum_map_mul_left]
  congr 1
  exact List.map_congr_left fun cell _ => mul_left_comm ..

theorem foldl_add_eq_sum (value : Nat → ℚ) (cells : List Nat) (sum : ℚ) :
    cells.foldl (fun sum cell => sum + value cell) sum = sum + (cells.map value).sum := by
  induction cells generalizing sum with
  | nil => exact (add_zero sum).symm
  | cons cell cells ih => rw [List.foldl_cons, ih, List.map_cons, List.sum_cons, add_assoc]

theorem weightSum_eq (line : Line) (weights : Array ℚ) :
    line.weightSum weights = line.mass weights := by
  have summed := foldl_add_eq_sum (weights.getD · 0) line.cells 0
  rw [zero_add] at summed
  simp only [mass, weigh, mul_one]
  exact summed

theorem weightedSum_eq (line : Line) (weights scores : Array ℚ) :
    line.weightedSum weights scores = line.weigh weights (scores.getD · 0) := by
  have summed := foldl_add_eq_sum (fun cell => scores.getD cell 0 * weights.getD cell 0)
    line.cells 0
  rw [zero_add] at summed
  simp only [weigh, mul_comm (weights.getD _ 0)]
  exact summed

theorem mean_eq (line : Line) (weights scores : Array ℚ) :
    line.mean weights scores = line.weigh weights (scores.getD · 0) / line.mass weights := by
  rw [mean_eq_sums, weightSum_eq, weightedSum_eq]
  simp only [Scalar.isZero, decide_eq_true_eq]
  split
  · rename_i weightless
    rw [weightless, div_zero]
  · rfl

section

variable (nonneg : ∀ cell ∈ line.cells, 0 ≤ weights.getD cell 0)

include nonneg

theorem masses_nonneg : ∀ x ∈ line.cells.map fun cell => weights.getD cell 0 * 1, 0 ≤ x := by
  intro x hx
  obtain ⟨cell, on, rfl⟩ := List.mem_map.1 hx
  rw [mul_one]
  exact nonneg cell on

theorem mass_nonneg : 0 ≤ line.mass weights := List.sum_nonneg (masses_nonneg nonneg)

theorem le_mass {cell : Nat} (on : cell ∈ line.cells) :
    weights.getD cell 0 ≤ line.mass weights := by
  have part : weights.getD cell 0 * 1 ≤ line.mass weights :=
    List.single_le_sum (masses_nonneg nonneg) _
      (List.mem_map_of_mem (f := fun cell => weights.getD cell 0 * 1) on)
  rwa [mul_one] at part

/-- A line with weight has a cell with weight, and that cell has no more than the line. -/
theorem exists_le_mass (weighty : 0 < line.mass weights) :
    ∃ cell ∈ line.cells, 0 < weights.getD cell 0 ∧ weights.getD cell 0 ≤ line.mass weights := by
  have more : (line.cells.map fun _ => (0 : ℚ)).sum <
      (line.cells.map fun cell => weights.getD cell 0 * 1).sum := by
    rw [List.map_const', List.sum_replicate, nsmul_zero]
    exact weighty
  obtain ⟨cell, on, positive⟩ := List.exists_lt_of_sum_lt _ _ more
  rw [mul_one] at positive
  exact ⟨cell, on, positive, le_mass nonneg on⟩

theorem mass_pos_of_mean {scores : Array ℚ} (off : line.mean weights scores ≠ 0) :
    0 < line.mass weights := by
  have weighty : line.mass weights ≠ 0 := by
    intro weightless
    rw [mean_eq, weightless, div_zero] at off
    exact off rfl
  exact lt_of_le_of_ne (mass_nonneg nonneg) weighty.symm

theorem weigh_eq_zero (weightless : line.mass weights = 0) : line.weigh weights value = 0 := by
  have each : ∀ cell ∈ line.cells, weights.getD cell 0 = 0 := by
    intro cell on
    exact le_antisymm (weightless ▸ le_mass nonneg on) (nonneg cell on)
  refine List.sum_eq_zero fun x hx => ?_
  obtain ⟨cell, on, rfl⟩ := List.mem_map.1 hx
  rw [each cell on, zero_mul]

theorem mass_mul_mean (scores : Array ℚ) :
    line.mass weights * line.mean weights scores = line.weigh weights (scores.getD · 0) := by
  rw [mean_eq]
  by_cases weightless : line.mass weights = 0
  · rw [weigh_eq_zero nonneg weightless, weightless, zero_mul]
  · exact mul_div_cancel₀ _ weightless

theorem weigh_of_lowered (scores : Array ℚ)
    (lowered : ∀ cell ∈ line.cells, value cell = scores.getD cell 0 - line.mean weights scores) :
    line.weigh weights value = 0 := by
  have apart : ∀ cell ∈ line.cells,
      value cell = scores.getD cell 0 + -line.mean weights scores * 1 := by
    intro cell on
    rw [lowered cell on]
    ring
  rw [weigh_congr apart, weigh_add, weigh_mul_left, ← mass_mul_mean nonneg, ← mass]
  ring

end

end Line

namespace Shape

variable {s : Shape} {d slot : Nat} {line : Line} {weights : Array ℚ} {value value' : Nat → ℚ}

theorem weigh_congr (same : ∀ cell < s.cellCount, value cell = value' cell) :
    s.weigh weights value = s.weigh weights value' :=
  Finset.sum_congr rfl fun cell hc => by rw [same cell (Finset.mem_range.1 hc)]

theorem weigh_add (value value' : Nat → ℚ) :
    s.weigh weights (fun cell => value cell + value' cell) =
      s.weigh weights value + s.weigh weights value' := by
  simp only [weigh, mul_add, Finset.sum_add_distrib]

theorem weigh_mul_left (c : ℚ) (value : Nat → ℚ) :
    s.weigh weights (fun cell => c * value cell) = c * s.weigh weights value := by
  simp only [weigh, mul_left_comm _ c, Finset.mul_sum]

theorem Bears.onLine (bears : s.Bears weights) (member : (slot, line) ∈ s.lines) :
    ∀ cell ∈ line.cells, 0 ≤ weights.getD cell 0 :=
  fun cell on => bears cell (cell_lt_of_mem_lines member on)

theorem Bears.weight_nonneg (bears : s.Bears weights) : 0 ≤ s.weigh weights fun _ => 1 := by
  refine Finset.sum_nonneg fun cell hc => ?_
  exact mul_nonneg (bears cell (Finset.mem_range.1 hc)) zero_le_one

theorem weigh_line (member : (slot, line) ∈ s.lines) (value : Nat → ℚ) :
    s.weigh weights (fun cell => if cell ∈ line.cells then value cell else 0) =
      line.weigh weights value := by
  have within : ∀ cell ∈ line.cells.toFinset, cell ∈ Finset.range s.cellCount := fun cell on =>
    Finset.mem_range.2 (cell_lt_of_mem_lines member (List.mem_toFinset.1 on))
  rw [Line.weigh, ← List.sum_toFinset _ (cells_nodup_of_mem_lines member), weigh,
    ← Finset.sum_subset within]
  · exact Finset.sum_congr rfl fun cell on => by rw [if_pos (List.mem_toFinset.1 on)]
  · intro cell _ off
    rw [if_neg fun on => off (List.mem_toFinset.2 on), mul_zero]

/-- A sum over the table is one over the lines along any of its dimensions. -/
theorem weigh_eq_sum_lines (hd : d < s.rank) (value : Nat → ℚ) :
    s.weigh weights value =
      ∑ i ∈ Finset.range (s.linesAlong d), (s.lineAt d i).weigh weights value := by
  have share : ∀ cell ∈ Finset.range s.cellCount,
      s.surface d cell ∈ Finset.range (s.linesAlong d) := fun cell hc =>
    Finset.mem_range.2 (surface_lt hd (Finset.mem_range.1 hc))
  rw [weigh, ← Finset.sum_fiberwise_of_maps_to share]
  refine Finset.sum_congr rfl fun i hi => ?_
  rw [← weigh_line (mem_lines_iff.2 ⟨d, hd, i, Finset.mem_range.1 hi, rfl, rfl⟩), weigh,
    Finset.sum_filter]
  refine Finset.sum_congr rfl fun cell _ => ?_
  simp only [mem_lineAt_iff]
  split
  · rfl
  · exact (mul_zero _).symm

/-- Values that every line balances are orthogonal to whatever the lines hold. -/
theorem Balanced.weigh_mul_overlay (balanced : s.Balanced weights value) (held : Nat → ℚ) :
    s.weigh weights (fun cell => value cell * s.overlay held cell) = 0 := by
  have along : ∀ d ∈ Finset.range s.rank,
      s.weigh weights (fun cell => value cell * held (s.slot d cell)) = 0 := by
    intro d hd
    rw [weigh_eq_sum_lines (Finset.mem_range.1 hd)]
    refine Finset.sum_eq_zero fun i hi => ?_
    have member := mem_lines_iff.2
      ⟨d, Finset.mem_range.1 hd, i, Finset.mem_range.1 hi, rfl, rfl⟩
    have constant : ∀ cell ∈ (s.lineAt d i).cells,
        value cell * held (s.slot d cell) = held (s.offset d + i) * value cell := by
      intro cell on
      rw [Shape.slot, surface_of_mem on, mul_comm]
    rw [Line.weigh_congr constant, Line.weigh_mul_left, balanced _ member, mul_zero]
  simp only [weigh, overlay, Finset.mul_sum] at along ⊢
  rw [Finset.sum_comm]
  exact Finset.sum_eq_zero along

theorem balanced_iff :
    s.Balanced weights value ↔ ∀ d < s.rank, s.BalancedAlong d weights value := by
  constructor
  · intro balanced d hd i inside
    exact balanced _ (mem_lines_iff.2 ⟨d, hd, i, inside, rfl, rfl⟩)
  · rintro along ⟨slot, line⟩ member
    obtain ⟨d, hd, i, inside, rfl, rfl⟩ := mem_lines_iff.1 member
    exact along d hd i inside

theorem BalancedAlong.weigh_eq_zero (hd : d < s.rank) (h : s.BalancedAlong d weights value) :
    s.weigh weights value = 0 := by
  rw [weigh_eq_sum_lines hd]
  apply Finset.sum_eq_zero
  intro i inside
  exact h i (Finset.mem_range.1 inside)

theorem Balanced.weigh_eq_zero (balanced : s.Balanced weights value) :
    s.weigh weights value = 0 :=
  (balanced_iff.1 balanced 0 s.representable.rank_pos).weigh_eq_zero s.representable.rank_pos

end Shape

end Purification
