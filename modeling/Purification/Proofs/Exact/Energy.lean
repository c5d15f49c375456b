import Purification.Proofs.Exact.Weighing
import Purification.Proofs.Sweep.Block

/-! # Energy

The weighted sum of squares of the scores. Centring a line lowers it by the weight of the
line times the square of its mean, and a sweep of many lines by what each of them takes when it
is met. So a pass that meets a mean above a threshold lowers it for certain, whatever the means
of that pass add up to.
-/

namespace Purification

/-- The weighted sum of squares over a table. -/
def Shape.energy (s : Shape) (weights : Array ℚ) (value : Nat → ℚ) : ℚ :=
  s.weigh weights fun cell => value cell ^ 2

def Field.energy (f : Field ℚ) (s : Shape) (weights : Array ℚ) : ℚ :=
  s.energy weights (f.scores.getD · 0)

namespace Shape

variable {s : Shape} {weights : Array ℚ} {value : Nat → ℚ}

theorem energy_nonneg (bears : s.Bears weights) : 0 ≤ s.energy weights value :=
  Finset.sum_nonneg fun cell hc =>
    mul_nonneg (bears cell (Finset.mem_range.1 hc)) (sq_nonneg _)

theorem Bears.energy_of_weightless (bears : s.Bears weights)
    (weightless : (s.weigh weights fun _ => 1) = 0) (value : Nat → ℚ) :
    s.energy weights value = 0 := by
  have nonneg : ∀ cell ∈ Finset.range s.cellCount, 0 ≤ weights.getD cell 0 * 1 := by
    intro cell hc
    exact mul_nonneg (bears cell (Finset.mem_range.1 hc)) zero_le_one
  have each := (Finset.sum_eq_zero_iff_of_nonneg nonneg).1 weightless
  unfold energy weigh
  refine Finset.sum_eq_zero fun cell hc => ?_
  rw [(mul_eq_zero.1 (each cell hc)).resolve_right one_ne_zero, zero_mul]

theorem eq_zero_of_energy_eq_zero (bears : s.Bears weights) (zero : s.energy weights value = 0)
    {cell : Nat} (hc : cell < s.cellCount) (weighty : 0 < weights.getD cell 0) :
    value cell = 0 := by
  have each := (Finset.sum_eq_zero_iff_of_nonneg fun cell hc =>
    mul_nonneg (bears cell (Finset.mem_range.1 hc)) (sq_nonneg (value cell))).1 zero
  have square := each cell (Finset.mem_range.2 hc)
  exact pow_eq_zero_iff two_ne_zero |>.1 ((mul_eq_zero.1 square).resolve_left weighty.ne')

end Shape

namespace Field

variable {s : Shape} {f : Field ℚ} {weights : Array ℚ} {threshold : ℚ}

section

variable {slot : Nat} {line : Line} (covers : f.Covers s) (member : (slot, line) ∈ s.lines)
  (bears : s.Bears weights)

include covers member bears

/-- Centring a line takes its weight times the square of its mean from the energy. -/
theorem energy_remove :
    (f.remove slot line (line.mean weights f.scores)).energy s weights =
      f.energy s weights - line.mass weights * line.mean weights f.scores ^ 2 := by
  let mean := line.mean weights f.scores
  have moved : line.mass weights * mean = line.weigh weights (f.scores.getD · 0) :=
    Line.mass_mul_mean (bears.onLine member) _
  have square : ∀ cell < s.cellCount,
      (f.remove slot line mean).scores.getD cell 0 ^ 2 = f.scores.getD cell 0 ^ 2 +
        if cell ∈ line.cells then mean * (mean * 1) + -(2 * mean) * f.scores.getD cell 0
        else 0 := by
    intro cell hc
    rw [getD_scores_remove slot mean (Shape.cells_nodup_of_mem_lines member)
      (Nat.lt_of_lt_of_le hc covers.cells)]
    split
    · ring
    · exact (add_zero _).symm
  have onLine : line.weigh weights (fun cell => mean * (mean * 1) +
      -(2 * mean) * f.scores.getD cell 0) = -(line.mass weights * mean ^ 2) := by
    rw [Line.weigh_add, Line.weigh_mul_left, Line.weigh_mul_left, Line.weigh_mul_left, ← moved,
      ← Line.mass]
    ring
  calc (f.remove slot line mean).energy s weights
      = f.energy s weights + -(line.mass weights * mean ^ 2) := by
        rw [energy, Shape.energy, Shape.weigh_congr square, Shape.weigh_add,
          Shape.weigh_line member, onLine]
        rfl
    _ = f.energy s weights - line.mass weights * mean ^ 2 := (sub_eq_add_neg _ _).symm

theorem energy_remove_le :
    (f.remove slot line (line.mean weights f.scores)).energy s weights ≤ f.energy s weights := by
  rw [energy_remove covers member bears]
  exact sub_le_self _ (mul_nonneg (Line.mass_nonneg (bears.onLine member)) (sq_nonneg _))

end

/-! ## What a sweep takes -/

variable {lines : List (Nat × Line)}

/-- What sweeping these lines in place takes from the energy: the weight of each line times the
    square of the mean that it is met with. -/
def shed (f : Field ℚ) (weights : Array ℚ) (lines : List (Nat × Line)) : ℚ :=
  ((lines.zip (f.means weights lines)).map fun ((_, line), mean) =>
    line.mass weights * mean ^ 2).sum

section

variable (within : ∀ numbered ∈ lines, numbered ∈ s.lines) (bears : s.Bears weights)

include within bears

theorem shares_nonneg :
    ∀ share ∈ (lines.zip (f.means weights lines)).map fun ((_, line), mean) =>
      line.mass weights * mean ^ 2, 0 ≤ share := by
  intro share listed
  obtain ⟨⟨numbered, mean⟩, met, rfl⟩ := List.mem_map.1 listed
  have member := within numbered (List.of_mem_zip met).1
  exact mul_nonneg (Line.mass_nonneg (bears.onLine member)) (sq_nonneg mean)

theorem shed_nonneg : 0 ≤ f.shed weights lines := List.sum_nonneg (shares_nonneg within bears)

theorem le_shed {numbered : Nat × Line} {mean : ℚ}
    (met : (numbered, mean) ∈ lines.zip (f.means weights lines)) :
    numbered.2.mass weights * mean ^ 2 ≤ f.shed weights lines :=
  List.single_le_sum (shares_nonneg within bears) _ (List.mem_map_of_mem met)

/-- The energy that lines of the shape leave, together with what they take, is the energy that they
    found. The tally has no part in it. -/
theorem energy_foldl (covers : f.Covers s) (t : Tally ℚ) :
    f.energy s weights = (lines.foldl (centre weights threshold) (f, t)).1.energy s weights +
      f.shed weights lines := by
  induction lines generalizing f t with
  | nil => exact (add_zero _).symm
  | cons numbered lines ih =>
      obtain ⟨slot, line⟩ := numbered
      let mean := line.mean weights f.scores
      have covers' : (f.remove slot line mean).Covers s := covers.remove slot mean
      have first := energy_remove covers (within _ List.mem_cons_self) bears
      have rest := ih (fun numbered later => within numbered (List.mem_cons_of_mem _ later))
        covers' (t.note threshold mean)
      have both : f.shed weights ((slot, line) :: lines) =
          line.mass weights * mean ^ 2 + (f.remove slot line mean).shed weights lines := rfl
      rw [List.foldl_cons, centre, both, add_left_comm, ← rest, first]
      ring

theorem energy_pass (covers : f.Covers s) (threshold : ℚ) :
    f.energy s weights =
      (f.pass weights threshold lines).1.energy s weights + f.shed weights lines :=
  energy_foldl within bears covers Tally.start

end

/-! ## A pass with a mean above its threshold -/

theorem exists_met_of_retry (retry : (f.pass weights threshold lines).2.retry = true) :
    ∃ numbered mean, (numbered, mean) ∈ lines.zip (f.means weights lines) ∧ threshold < |mean| := by
  rw [pass, tally_foldl, Tally.retry_foldl_note] at retry
  obtain ⟨mean, met, above⟩ := List.any_eq_true.1 retry
  have second : (lines.zip (f.means weights lines)).map (·.2) = f.means weights lines :=
    List.map_snd_zip (length_means f lines).le
  rw [← second] at met
  obtain ⟨⟨numbered, _⟩, listed, rfl⟩ := List.mem_map.1 met
  exact ⟨numbered, _, listed, of_decide_eq_true above⟩

section

variable (covers : f.Covers s) (within : ∀ numbered ∈ lines, numbered ∈ s.lines)
  (bears : s.Bears weights) (nonneg : 0 ≤ threshold)
  (retry : (f.pass weights threshold lines).2.retry = true)

include within bears nonneg retry

theorem exists_heavy_of_retry :
    ∃ numbered ∈ lines, ∃ mean : ℚ, threshold < |mean| ∧ 0 < numbered.2.mass weights ∧
      numbered.2.mass weights * mean ^ 2 ≤ f.shed weights lines := by
  obtain ⟨numbered, mean, met, above⟩ := exists_met_of_retry retry
  obtain ⟨on, scores, rfl⟩ := eq_mean_of_mem_zip met
  have off : numbered.2.mean weights scores ≠ 0 := abs_pos.1 (lt_of_le_of_lt nonneg above)
  exact ⟨numbered, on, _, above, Line.mass_pos_of_mean (bears.onLine (within _ on)) off,
    le_shed within bears met⟩

include covers

theorem energy_pass_lt :
    (f.pass weights threshold lines).1.energy s weights < f.energy s weights := by
  obtain ⟨numbered, -, mean, above, mass, share⟩ :=
    exists_heavy_of_retry within bears nonneg retry
  have off : mean ≠ 0 := abs_pos.1 (lt_of_le_of_lt nonneg above)
  have taken : 0 < f.shed weights lines :=
    lt_of_lt_of_le (mul_pos mass (sq_pos_of_ne_zero off)) share
  rw [energy_pass within bears covers threshold]
  exact lt_add_of_pos_right _ taken

/-- No cell with weight has less of it than `least`, so neither has the line that was above the
    threshold. -/
theorem energy_pass_le {least : ℚ}
    (lightest : ∀ cell < s.cellCount, 0 < weights.getD cell 0 → least ≤ weights.getD cell 0) :
    (f.pass weights threshold lines).1.energy s weights ≤
      f.energy s weights - least * threshold ^ 2 := by
  obtain ⟨numbered, on, mean, above, mass, share⟩ :=
    exists_heavy_of_retry within bears nonneg retry
  have heavy : least ≤ numbered.2.mass weights := by
    have member := within numbered on
    obtain ⟨cell, onLine, weighty, part⟩ := Line.exists_le_mass (bears.onLine member) mass
    exact le_trans (lightest cell (Shape.cell_lt_of_mem_lines member onLine) weighty) part
  have steep : threshold ^ 2 ≤ mean ^ 2 := sq_le_sq.2 (le_trans (le_of_eq (abs_of_nonneg nonneg))
    (le_of_lt above))
  have taken : least * threshold ^ 2 ≤ f.shed weights lines :=
    calc least * threshold ^ 2
        ≤ numbered.2.mass weights * mean ^ 2 :=
          le_trans (mul_le_mul_of_nonneg_right heavy (sq_nonneg _))
            (mul_le_mul_of_nonneg_left steep (le_of_lt mass))
      _ ≤ f.shed weights lines := share
  rw [energy_pass within bears covers threshold]
  linarith

end

end Field

end Purification
