import Purification.Proofs.Exact.Energy
import Purification.Proofs.Exact.Reconstruction

/-! # Plateaus without rounding

The summed impurity of a pass counts lines of any weight alike, and it may rise although
nothing is rounded. A pass that leaves a line above the threshold does lower the energy, but
the stop rule does not look at that: a run without a cap ends on a plateau exactly if the
summed impurity stalls before the lines are within the threshold.
-/

namespace Purification

/-! ## The totals of a scan -/

theorem Totals.foldl_range (weight score : Nat → ℚ) (n : Nat) :
    (List.range n).foldl (fun (t : Totals ℚ) cell => t.add (weight cell) (score cell)) zero =
      ⟨∑ cell ∈ Finset.range n, weight cell, ∑ cell ∈ Finset.range n, score cell * weight cell,
        ∑ cell ∈ Finset.range n, |score cell * weight cell|⟩ := by
  induction n with
  | zero => rfl
  | succ n ih =>
      rw [List.range_succ, List.foldl_append, ih, Finset.sum_range_succ, Finset.sum_range_succ,
        Finset.sum_range_succ]
      rfl

namespace Shape

variable {s : Shape} {weights scores : Array ℚ}

theorem totals_eq (weightsLe : s.cellCount ≤ weights.size) (scoresLe : s.cellCount ≤ scores.size) :
    s.totals weights scores =
      ⟨s.weigh weights fun _ => 1, s.weigh weights (scores.getD · 0),
        ∑ cell ∈ Finset.range s.cellCount, |scores.getD cell 0 * weights.getD cell 0|⟩ := by
  have paired : (weights.toList.take s.cellCount).zip (scores.toList.take s.cellCount) =
      (List.range s.cellCount).map fun cell => (weights.getD cell 0, scores.getD cell 0) := by
    refine List.ext_getElem (by simp [weightsLe, scoresLe]) fun cell _ inside => ?_
    rw [List.length_map, List.length_range] at inside
    have weight : cell < weights.size := Nat.lt_of_lt_of_le inside weightsLe
    have score : cell < scores.size := Nat.lt_of_lt_of_le inside scoresLe
    simp [Array.getD, weight, score]
  rw [totals, Totals.scan, paired, List.foldl_map, Totals.foldl_range]
  simp only [weigh, mul_one, mul_comm (weights.getD _ 0) (scores.getD _ 0)]

theorem isZero_totals_of_ne (weightsLe : s.cellCount ≤ weights.size)
    (scoresLe : s.cellCount ≤ scores.size) (weighty : (s.weigh weights fun _ => 1) ≠ 0) :
    Scalar.isZero (s.totals weights scores).weight = false := by
  rw [totals_eq weightsLe scoresLe]
  exact decide_eq_false weighty

theorem threshold_nonneg (weightsLe : s.cellCount ≤ weights.size)
    (scoresLe : s.cellCount ≤ scores.size) (bears : s.Bears weights) {tolerance : ℚ}
    (nonneg : 0 ≤ tolerance) : 0 ≤ (s.totals weights scores).threshold tolerance := by
  have magnitude : 0 ≤ (s.totals weights scores).absWeightedScore := by
    rw [totals_eq weightsLe scoresLe]
    dsimp only
    exact Finset.sum_nonneg fun _ _ => abs_nonneg _
  have weight : 0 ≤ (s.totals weights scores).weight := by
    rw [totals_eq weightsLe scoresLe]
    exact bears.weight_nonneg
  unfold Totals.threshold
  split
  · exact le_refl _
  · exact div_nonneg (mul_nonneg magnitude nonneg) weight

end Shape

/-! ## When a sweep stalls -/

namespace Sweep

/-- Up to pass `n + 2` each pass leaves a line above the threshold, and that pass is the
    first whose summed impurity is not below that of the pass before. -/
structure Setting.StallsAt (g : Setting ℚ) (field : Field ℚ) (n : Nat) : Prop where
  retries : ∀ m ≤ n + 1, (g.tally field m).retry = true
  falls : ∀ m < n, (g.tally field (m + 1)).impurity < (g.tally field m).impurity
  stalls : (g.tally field n).impurity ≤ (g.tally field (n + 1)).impurity

namespace Setting

variable {g : Setting ℚ} {field : Field ℚ} {n : Nat}

theorem stopsAt_plateau_iff (uncapped : g.limit = none) :
    g.StopsAt field n .plateau ↔ ∃ m, n = m + 1 ∧ g.StallsAt field m := by
  constructor
  · rintro ⟨goesOn, stops⟩
    obtain ⟨retry, stalled⟩ := (decision_eq_plateau_iff uncapped).1 stops
    have before : ∀ m < n, _ := fun m less => (decision_eq_none_iff uncapped).1 (goesOn m less)
    cases n with
    | zero => cases stalled
    | succ n =>
        refine ⟨n, rfl, fun m hm => ?_, fun m less => ?_, of_decide_eq_true stalled⟩
        · rcases Nat.eq_or_lt_of_le hm with rfl | less
          · exact retry
          · exact (before m less).1
        · have falls := (before (m + 1) (Nat.succ_lt_succ less)).2
          exact not_le.1 (of_decide_eq_false falls)
  · rintro ⟨m, rfl, h⟩
    refine ⟨fun k less => (decision_eq_none_iff uncapped).2
      ⟨h.retries k (Nat.le_of_lt less), ?_⟩, (decision_eq_plateau_iff uncapped).2
      ⟨h.retries _ (Nat.le_refl _), decide_eq_true h.stalls⟩⟩
    cases k with
    | zero => rfl
    | succ k => exact decide_eq_false (not_le.2 (h.falls k (Nat.lt_of_succ_lt_succ less)))

end Setting

end Sweep

theorem Shape.isZero_totals {s : Shape} {weights scores : Array ℚ}
    (weightsLe : s.cellCount ≤ weights.size) (scoresLe : s.cellCount ≤ scores.size)
    (positive : 0 < s.weigh weights fun _ => 1) :
    Scalar.isZero (s.totals weights scores).weight = false :=
  isZero_totals_of_ne weightsLe scoresLe positive.ne'

/-- A pass of a sweep lowers the energy if it leaves a line above the threshold. -/
theorem Field.energy_after_lt {s : Shape} {f : Field ℚ} {weights : Array ℚ} {tolerance : ℚ}
    {limit : Option Nat} {intercept : Option ℚ} (covers : f.Covers s)
    (weightsLe : s.cellCount ≤ weights.size) (bears : s.Bears weights) (nonneg : 0 ≤ tolerance)
    {n : Nat} (retry : ((s.setting tolerance limit weights f.scores).tally
      (f.opening s weights intercept) n).retry = true) :
    ((s.setting tolerance limit weights f.scores).after
        (f.opening s weights intercept) (n + 1)).energy s weights <
      ((s.setting tolerance limit weights f.scores).after
        (f.opening s weights intercept) n).energy s weights :=
  energy_pass_lt (Sweep.Setting.covers_after (covers.opening weights intercept) n)
    (fun _ member => member) bears
    (Shape.threshold_nonneg weightsLe covers.cells bears nonneg) retry

namespace Call

variable {call : Call ℚ} {shape : Shape} {weights : Array ℚ} {field : Field ℚ}
  (admitted : call.admission = .ok (.table shape weights field))
  (weighty : Scalar.isZero (shape.totals weights field.scores).weight = false)

include admitted weighty

theorem exists_plateau_iff :
    (∃ fuel report c, call.purify fuel none = some report ∧
        report.result = .ok (.purified c) ∧ c.stop = .plateau) ↔
      ∃ n, (shape.setting call.tolerance none weights field.scores).StallsAt
        (field.opening shape weights (call.intercept.map fun _ => 0)) n := by
  constructor
  · rintro ⟨fuel, report, c, answered, purified, plateau⟩
    obtain ⟨n, -, stopsAt, -⟩ :=
      (exists_purified_iff admitted weighty).1 ⟨report, answered, purified⟩
    rw [plateau] at stopsAt
    obtain ⟨m, -, stalls⟩ := (Sweep.Setting.stopsAt_plateau_iff rfl).1 stopsAt
    exact ⟨m, stalls⟩
  · rintro ⟨n, stalls⟩
    have stopsAt := (Sweep.Setting.stopsAt_plateau_iff rfl).2 ⟨n, rfl, stalls⟩
    let c := (shape.setting call.tolerance none weights field.scores).ending
      (field.opening shape weights (call.intercept.map fun _ => 0)) (n + 1) .plateau
    have told : ∃ report, call.purify (n + 2) none = some report ∧
        report.result = .ok (.purified c) :=
      (exists_purified_iff admitted weighty).2 ⟨n + 1, Nat.lt_succ_self _, stopsAt, rfl⟩
    obtain ⟨report, answered, purified⟩ := told
    exact ⟨n + 2, report, c, answered, purified, rfl⟩

theorem plateau_iff_of_purified {fuel : Nat} {report : Report ℚ} {c : Convergence ℚ}
    (answered : call.purify fuel none = some report)
    (purified : report.result = .ok (.purified c)) :
    (c.stop = .plateau ↔ ∃ n, (shape.setting call.tolerance none weights field.scores).StallsAt
      (field.opening shape weights (call.intercept.map fun _ => 0)) n ∧ c.passes = n + 2) ∧
      (c.stop ≠ .plateau → c.stop = .converged) := by
  obtain ⟨n, -, stopsAt, ends⟩ :=
    (exists_purified_iff admitted weighty).1 ⟨report, answered, purified⟩
  have passes : c.passes = n + 1 := by
    rw [ends]
    rfl
  refine ⟨⟨fun plateau => ?_, ?_⟩, (stopsAt.plateau_or_converged rfl).resolve_left⟩
  · rw [plateau] at stopsAt
    obtain ⟨m, rfl, stalls⟩ := (Sweep.Setting.stopsAt_plateau_iff rfl).1 stopsAt
    exact ⟨m, stalls, passes⟩
  · rintro ⟨m, stalls, same⟩
    have stops := ((Sweep.Setting.stopsAt_plateau_iff rfl).2 ⟨m, rfl, stalls⟩).stops
    obtain rfl : n = m + 1 := by omega
    exact Option.some.inj (stopsAt.stops.symm.trans stops)

end Call

/-- When a call without a cap ends on a plateau, over exact numbers and weights that are not
    negative: exactly if its summed impurity stalls. Each pass that leaves a line above the
    threshold lowers the energy even so, and a run that ends without a stall has converged. -/
theorem plateau_iff_stalls {call : Call ℚ} {shape : Shape} {weights : Array ℚ} {field : Field ℚ}
    (admitted : call.admission = .ok (.table shape weights field)) (nonneg : 0 ≤ call.tolerance)
    (bears : shape.Bears weights) (positive : 0 < shape.weigh weights fun _ => 1) :
    let g := shape.setting call.tolerance none weights field.scores
    let start := field.opening shape weights (call.intercept.map fun _ => 0)
    (∀ n, (g.tally start n).retry = true →
      (g.after start (n + 1)).energy shape weights < (g.after start n).energy shape weights) ∧
    ((∃ fuel report c, call.purify fuel none = some report ∧
        report.result = .ok (.purified c) ∧ c.stop = .plateau) ↔
      ∃ n, g.StallsAt start n) ∧
    ∀ fuel report c, call.purify fuel none = some report → report.result = .ok (.purified c) →
      (c.stop = .plateau ↔ ∃ n, g.StallsAt start n ∧ c.passes = n + 2) ∧
        (c.stop ≠ .plateau → c.stop = .converged) := by
  intro g start
  have holds := (Call.admits_of_admission admitted).toHolds
  have weighty := Shape.isZero_totals holds.weights_le holds.covers.cells positive
  refine ⟨fun n retry => ?_, Call.exists_plateau_iff admitted weighty, fun fuel report c => ?_⟩
  · exact Field.energy_after_lt holds.covers holds.weights_le bears nonneg retry
  · exact Call.plateau_iff_of_purified admitted weighty

theorem Shape.bears_diagonal : Shape.square.Bears diagonal := by
  unfold Bears
  decide +kernel

theorem Shape.weigh_diagonal_pos : 0 < Shape.square.weigh diagonal fun _ => 1 := by
  decide +kernel

/-- The table on the uneven square: its second pass removes more than its first, which ends
    the run, although a third pass would have lowered the energy further. -/
theorem plateau_iff_stalls_uneven :
    let g := Shape.square.setting (0 : ℚ) none diagonal #[2, -8, 10, 0]
    let start := Field.opening ⟨#[2, -8, 10, 0], #[0, 0, 0, 0]⟩ .square diagonal (some 0)
    (∃ n, g.StallsAt start n) ∧
      (g.tally start 0).impurity = 18 / 5 ∧ (g.tally start 1).impurity = 648 / 125 ∧
      (g.after start 3).energy .square diagonal < (g.after start 2).energy .square diagonal := by
  intro g start
  have stalled : ((Call.uneven.purify 2 none).map fun report =>
      report.result.toOption.bind (·.stop?)) = some (some .plateau) := by decide +kernel
  have retry : (g.tally start 2).retry = true := by decide +kernel
  obtain ⟨report, c, answered, purified, plateau⟩ := Call.exists_of_purify stalled
  obtain ⟨falls, stalls, -⟩ := plateau_iff_stalls Call.admission_uneven (le_refl _)
    Shape.bears_diagonal Shape.weigh_diagonal_pos
  exact ⟨stalls.1 ⟨2, report, c, answered, purified, plateau⟩, by decide +kernel,
    by decide +kernel, falls 2 retry⟩

/-- Exactness and weights that are not negative do not rule a plateau out. -/
theorem not_forall_not_plateau :
    ¬ ∀ (call : Call ℚ) (shape : Shape) (weights : Array ℚ) (field : Field ℚ) (fuel : Nat)
        (report : Report ℚ) (c : Convergence ℚ),
      call.admission = .ok (.table shape weights field) → 0 ≤ call.tolerance →
      shape.Bears weights → (0 < shape.weigh weights fun _ => 1) →
      call.purify fuel none = some report → report.result = .ok (.purified c) →
      c.stop ≠ .plateau := by
  intro never
  have stalled : ((Call.uneven.purify 2 none).map fun report =>
      report.result.toOption.bind (·.stop?)) = some (some .plateau) := by decide +kernel
  obtain ⟨report, c, answered, purified, plateau⟩ := Call.exists_of_purify stalled
  exact never Call.uneven .square diagonal _ 2 report c Call.admission_uneven (le_refl _)
    Shape.bears_diagonal Shape.weigh_diagonal_pos answered purified plateau

end Purification
