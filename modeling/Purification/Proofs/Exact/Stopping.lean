import Mathlib.Algebra.Order.Archimedean.Basic
import Purification.Proofs.Exact.Plateau

/-! # Sweeps that have to stop

Exactly, a pass that leaves a line above the threshold takes at least the least weight of a cell
times the square of the threshold from the energy, which cannot fall below 0. So there are only
so many such passes, unless the threshold is 0; and with a tolerance above 0 it is 0 only if the
table has no energy to begin with.
-/

namespace Purification

/-- No cell that has weight has less than this. -/
def Shape.Lightest (s : Shape) (weights : Array ℚ) (least : ℚ) : Prop :=
  ∀ cell < s.cellCount, 0 < weights.getD cell 0 → least ≤ weights.getD cell 0

theorem Shape.exists_lightest (s : Shape) (weights : Array ℚ) :
    ∃ least, 0 < least ∧ s.Lightest weights least := by
  let weighty := (Finset.range s.cellCount).filter fun cell => 0 < weights.getD cell 0
  have member {cell : Nat} : cell ∈ weighty ↔ cell < s.cellCount ∧ 0 < weights.getD cell 0 := by
    rw [Finset.mem_filter, Finset.mem_range]
  rcases weighty.eq_empty_or_nonempty with none | some
  · refine ⟨1, one_pos, fun cell hc positive => ?_⟩
    exact absurd (member.2 ⟨hc, positive⟩) (none ▸ Finset.notMem_empty cell)
  · obtain ⟨cell, on, least⟩ := weighty.exists_min_image (weights.getD · 0) some
    exact ⟨weights.getD cell 0, (member.1 on).2, fun cell' hc positive =>
      least cell' (member.2 ⟨hc, positive⟩)⟩

/-! ## The passes of a sweep -/

namespace Sweep.Setting

variable {s : Shape} {g : Setting ℚ} {field : Field ℚ}
  (within : ∀ numbered ∈ g.lines, numbered ∈ s.lines) (covers : field.Covers s)
  (bears : s.Bears g.weights) (nonneg : 0 ≤ g.threshold)

include within covers bears nonneg

/-- Each of the first `n` passes that leaves a line above the threshold takes its share. -/
theorem energy_after_le {least : ℚ} (lightest : s.Lightest g.weights least) {n : Nat}
    (retries : ∀ m < n, (g.tally field m).retry = true) :
    (g.after field n).energy s g.weights ≤
      field.energy s g.weights - n * (least * g.threshold ^ 2) := by
  induction n with
  | zero => simp [after]
  | succ n ih =>
      have before := ih fun m less => retries m (Nat.lt_succ_of_lt less)
      have last : (g.after field (n + 1)).energy s g.weights ≤
          (g.after field n).energy s g.weights - least * g.threshold ^ 2 :=
        Field.energy_pass_le (covers_after covers n) within bears nonneg
          (retries n (Nat.lt_succ_self n)) lightest
      push_cast
      linarith

theorem mul_le_energy {least : ℚ} (lightest : s.Lightest g.weights least) {n : Nat}
    (retries : ∀ m < n, (g.tally field m).retry = true) :
    n * (least * g.threshold ^ 2) ≤ field.energy s g.weights := by
  have left : 0 ≤ (g.after field n).energy s g.weights := Shape.energy_nonneg bears
  have fallen := energy_after_le within covers bears nonneg lightest retries
  linarith

theorem StopsAt.mul_le_energy (uncapped : g.limit = none) {least : ℚ}
    (lightest : s.Lightest g.weights least) {n : Nat} {stop : StopReason}
    (h : g.StopsAt field n stop) : n * (least * g.threshold ^ 2) ≤ field.energy s g.weights := by
  refine Setting.mul_le_energy within covers bears nonneg lightest fun m less => ?_
  exact ((decision_eq_none_iff uncapped).1 (h.goesOn m less)).1

/-- The energy is used up before every pass has left a line above the threshold. -/
theorem exists_settled (positive : 0 < g.threshold) :
    ∃ n, (g.tally field n).retry = false := by
  by_contra never
  have retries : ∀ n, (g.tally field n).retry = true := fun n =>
    Bool.eq_true_of_not_eq_false fun settled => never ⟨n, settled⟩
  obtain ⟨least, heavy, lightest⟩ := s.exists_lightest g.weights
  have share : 0 < least * g.threshold ^ 2 := mul_pos heavy (pow_pos positive 2)
  obtain ⟨n, many⟩ := exists_nat_gt (field.energy s g.weights / (least * g.threshold ^ 2))
  have more : field.energy s g.weights < n * (least * g.threshold ^ 2) :=
    (div_lt_iff₀ share).1 many
  exact absurd (mul_le_energy within covers bears nonneg lightest fun m _ => retries m)
    (not_le.2 more)

theorem settled_of_energy_le_zero (spent : field.energy s g.weights ≤ 0) :
    (g.tally field 0).retry = false := by
  by_contra retry
  have fallen : (g.after field 1).energy s g.weights < field.energy s g.weights :=
    Field.energy_pass_lt covers within bears nonneg (Bool.eq_true_of_not_eq_false retry)
  have left : 0 ≤ (g.after field 1).energy s g.weights := Shape.energy_nonneg bears
  exact absurd (lt_of_lt_of_le fallen spent) (not_lt.2 left)

end Sweep.Setting

/-! ## The table it begins with -/

section

variable {s : Shape} {weights : Array ℚ} (weightsLe : s.cellCount ≤ weights.size)
  (positive : 0 < s.weigh weights fun _ => 1)

include weightsLe positive

/-- A threshold of 0 in spite of a tolerance says that there is nothing on any cell with
    weight. -/
theorem Shape.energy_eq_zero_of_threshold {scores : Array ℚ}
    (scoresLe : s.cellCount ≤ scores.size) {tolerance : ℚ} (tolerant : 0 < tolerance)
    (zero : (s.totals weights scores).threshold tolerance = 0) :
    s.energy weights (scores.getD · 0) = 0 := by
  have magnitude :
      ∑ cell ∈ Finset.range s.cellCount, |scores.getD cell 0 * weights.getD cell 0| = 0 := by
    rw [Totals.threshold, isZero_totals weightsLe scoresLe positive,
      totals_eq weightsLe scoresLe] at zero
    have product := (div_eq_zero_iff.1 zero).resolve_right positive.ne'
    exact (mul_eq_zero.1 product).resolve_right tolerant.ne'
  have each := (Finset.sum_eq_zero_iff_of_nonneg fun _ _ => abs_nonneg _).1 magnitude
  unfold energy weigh
  refine Finset.sum_eq_zero fun cell hc => ?_
  have product : scores.getD cell 0 * weights.getD cell 0 = 0 := abs_eq_zero.1 (each cell hc)
  calc weights.getD cell 0 * scores.getD cell 0 ^ 2
      = scores.getD cell 0 * weights.getD cell 0 * scores.getD cell 0 := by ring
    _ = 0 := by rw [product, zero_mul]

theorem Field.energy_opening_le {f : Field ℚ} (covers : f.Covers s) (intercept : Option ℚ) :
    (f.opening s weights intercept).energy s weights ≤ f.energy s weights := by
  cases intercept with
  | none => exact le_refl _
  | some _ =>
      let sum := s.weigh weights (f.scores.getD · 0)
      let weight := s.weigh weights fun _ => 1
      let mean := sum / weight
      have moved : mean * weight = sum := div_mul_cancel₀ _ positive.ne'
      have square : ∀ cell < s.cellCount,
          (f.opening s weights (some 0)).scores.getD cell 0 ^ 2 =
            f.scores.getD cell 0 ^ 2 + (-(2 * mean) * f.scores.getD cell 0 + mean ^ 2 * 1) := by
        intro cell hc
        have taken : (f.opening s weights (some 0)).scores.getD cell 0 =
            f.scores.getD cell 0 - (s.totals weights f.scores).mean :=
          Sweep.getD_mapFirst _ hc (Nat.lt_of_lt_of_le hc covers.cells)
        rw [taken, Shape.totals_eq weightsLe covers.cells]
        dsimp only [Totals.mean]
        ring
      calc s.energy weights ((f.opening s weights (some 0)).scores.getD · 0)
          = f.energy s weights + (-(2 * mean) * sum + mean ^ 2 * weight) := by
            rw [Shape.energy, Shape.weigh_congr square, Shape.weigh_add, Shape.weigh_add,
              Shape.weigh_mul_left, Shape.weigh_mul_left]
            rfl
        _ = f.energy s weights - mean ^ 2 * weight := by
            rw [← moved]
            ring
        _ ≤ f.energy s weights :=
            sub_le_self _ (mul_nonneg (sq_nonneg _) (le_of_lt positive))

theorem Field.exists_settled {f : Field ℚ} (covers : f.Covers s) (bears : s.Bears weights)
    {tolerance : ℚ} (tolerant : 0 < tolerance) (limit : Option Nat) (intercept : Option ℚ) :
    ∃ n, ((s.setting tolerance limit weights f.scores).tally
      (f.opening s weights intercept) n).retry = false := by
  have within : ∀ numbered ∈ (s.setting tolerance limit weights f.scores).lines,
      numbered ∈ s.lines := fun _ member => member
  have covers' : (f.opening s weights intercept).Covers s := covers.opening weights intercept
  have nonneg : 0 ≤ (s.totals weights f.scores).threshold tolerance :=
    Shape.threshold_nonneg weightsLe covers.cells bears (le_of_lt tolerant)
  rcases nonneg.eq_or_lt with zero | above
  · have spent : f.energy s weights = 0 :=
      Shape.energy_eq_zero_of_threshold weightsLe positive covers.cells tolerant zero.symm
    have opened := energy_opening_le weightsLe positive covers intercept
    exact ⟨0, Sweep.Setting.settled_of_energy_le_zero within covers' bears nonneg
      (spent ▸ opened)⟩
  · exact Sweep.Setting.exists_settled within covers' bears nonneg above

end

/-- A call with exact numbers, weights that are not negative and a tolerance above 0 is answered,
    whether or not an intercept is taken out. Each pass but the last has taken its share of the
    energy that the scores had. -/
theorem sweep_stops {call : Call ℚ} {shape : Shape} {weights : Array ℚ} {field : Field ℚ}
    (admitted : call.admission = .ok (.table shape weights field)) (bears : shape.Bears weights)
    (positive : 0 < shape.weigh weights fun _ => 1) (tolerant : 0 < call.tolerance) :
    ∃ fuel report c, call.purify fuel none = some report ∧ report.result = .ok (.purified c) ∧
      (c.stop = .converged ∨ c.stop = .plateau) ∧
      ∀ least, shape.Lightest weights least →
        (c.passes - 1 : ℕ) * (least * c.threshold ^ 2) ≤ field.energy shape weights := by
  have holds := (Call.admits_of_admission admitted).toHolds
  have weighty := Shape.isZero_totals holds.weights_le holds.covers.cells positive
  let g := shape.setting call.tolerance none weights field.scores
  let start := field.opening shape weights (call.intercept.map fun _ => 0)
  obtain ⟨n, settled⟩ : ∃ n, (g.tally start n).retry = false :=
    Field.exists_settled holds.weights_le positive holds.covers bears tolerant none _
  have decided : g.decision start n ≠ none := by
    intro undecided
    have retry := ((Sweep.Setting.decision_eq_none_iff rfl).1 undecided).1
    cases retry.symm.trans settled
  obtain ⟨k, -, stop, stopsAt⟩ := Sweep.exists_stopsAt decided
  obtain ⟨report, answered, purified⟩ : ∃ report, call.purify (k + 1) none = some report ∧
      report.result = .ok (.purified (g.ending start k stop)) :=
    (Call.exists_purified_iff admitted weighty).2 ⟨k, Nat.lt_succ_self k, stopsAt, rfl⟩
  refine ⟨k + 1, report, _, answered, purified, (stopsAt.plateau_or_converged rfl).symm, ?_⟩
  intro least lightest
  have nonneg : 0 ≤ g.threshold :=
    Shape.threshold_nonneg holds.weights_le holds.covers.cells bears (le_of_lt tolerant)
  have within : ∀ numbered ∈ g.lines, numbered ∈ shape.lines := fun _ member => member
  have covers : start.Covers shape := holds.covers.opening weights _
  exact le_trans (stopsAt.mul_le_energy within covers bears nonneg rfl lightest)
    (Field.energy_opening_le holds.weights_le positive holds.covers _)

/-- A table that takes five passes to come within its tolerance. -/
def Call.slack : Call ℚ := { uneven with tolerance := 1 / 100, weights := some #[3, 1, 1, 3] }

/-- A table whose only score is on a cell without weight. -/
def Call.unweighed : Call ℚ :=
  { uneven with
    tolerance := 1 / 100
    weights := some #[0, 1, 1, 2]
    scores := some #[5, 0, 0, 0]
    intercept := none }

/-- Both tables come to a stop, the first of them not before its fifth pass, and the second with
    a threshold of 0. -/
theorem sweep_stops_slack :
    (∃ fuel report c, Call.slack.purify fuel none = some report ∧
      report.result = .ok (.purified c) ∧ (c.stop = .converged ∨ c.stop = .plateau) ∧
      (c.passes - 1 : ℕ) * (1 * c.threshold ^ 2) ≤
        Field.energy ⟨#[2, -8, 10, 0], #[0, 0, 0, 0]⟩ .square #[3, 1, 1, 3]) ∧
    (Call.slack.purify 4 none).isNone = true ∧
    ∃ fuel report c, Call.unweighed.purify fuel none = some report ∧
      report.result = .ok (.purified c) ∧ (c.stop = .converged ∨ c.stop = .plateau) := by
  have admitted : Call.slack.admission =
      .ok (.table .square #[3, 1, 1, 3] ⟨#[2, -8, 10, 0], #[0, 0, 0, 0]⟩) := rfl
  have bears : Shape.square.Bears #[3, 1, 1, 3] := by
    unfold Shape.Bears
    decide +kernel
  have lightest : Shape.square.Lightest #[3, 1, 1, 3] 1 := by
    unfold Shape.Lightest
    decide +kernel
  have admitted' : Call.unweighed.admission =
      .ok (.table .square #[0, 1, 1, 2] ⟨#[5, 0, 0, 0], #[0, 0, 0, 0]⟩) := rfl
  have bears' : Shape.square.Bears #[0, 1, 1, 2] := by
    unfold Shape.Bears
    decide +kernel
  obtain ⟨fuel, report, c, answered, purified, stop, shares⟩ :=
    sweep_stops admitted bears (by decide +kernel) (by decide +kernel)
  obtain ⟨fuel', report', c', answered', purified', stop', -⟩ :=
    sweep_stops admitted' bears' (by decide +kernel) (by decide +kernel)
  exact ⟨⟨fuel, report, c, answered, purified, stop, shares 1 lightest⟩, by decide +kernel,
    fuel', report', c', answered', purified', stop'⟩

end Purification
