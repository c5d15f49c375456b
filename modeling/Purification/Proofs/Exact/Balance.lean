import Purification.Proofs.Exact.Plateau
import Purification.Proofs.Shape.Numbering
import Purification.Proofs.Sweep.Block

/-! # Balance, one dimension at a time

Sweeping the lines of one dimension leaves each of them with a weighted sum of 0. What comes
afterwards may disturb them again, but a pass ends with the last dimension: after any number of
passes the lines along it are balanced, and so is the table as a whole, whatever the run stopped
for.
-/

namespace Purification

/-! ## A pass -/

namespace Field

variable {s : Shape} {d : Nat} {f : Field ℚ} {weights : Array ℚ} {threshold : ℚ}

theorem balancedAlong_block (covers : f.Covers s) (bears : s.Bears weights) (hd : d < s.rank)
    (t : Tally ℚ) :
    s.BalancedAlong d weights
      (((s.linesOf d).foldl (centre weights threshold) (f, t)).1.scores.getD · 0) := by
  intro i inside
  have within : ∀ cell ∈ (s.lineAt d i).cells, cell < s.cellCount := by
    intro cell on
    exact (Shape.surface_lt_iff hd).1 (Shape.surface_of_mem on ▸ inside)
  apply Line.weigh_of_lowered (fun cell on => bears cell (within cell on)) f.scores
  intro cell on
  rw [getD_scores_block covers hd (within cell on), Shape.surface_of_mem on]

theorem balancedAlong_pass (covers : f.Covers s) (bears : s.Bears weights) :
    s.BalancedAlong (s.rank - 1) weights
      ((f.pass weights threshold s.lines).1.scores.getD · 0) := by
  obtain ⟨last, rank⟩ := Nat.exists_eq_succ_of_ne_zero s.representable.rank_pos.ne'
  have rank : s.rank = last + 1 := rank
  have hd : last < s.rank := by omega
  rw [pass, Shape.lines, rank, Nat.add_sub_cancel, Shape.flatMap_linesOf_succ, List.foldl_append]
  exact balancedAlong_block (covers.foldl_centre _) bears hd _

end Field

/-! ## A run -/

theorem Sweep.Swept.balancedAlong_last {s : Shape} {tolerance : ℚ} {limit : Option Nat}
    {weights : Array ℚ} {field : Field ℚ} {intercept : Option ℚ} {n : Nat} {result : Result ℚ}
    (h : Swept s tolerance limit weights field intercept n result) (covers : field.Covers s)
    (bears : s.Bears weights) :
    s.BalancedAlong (s.rank - 1) weights (result.field.scores.getD · 0) := by
  rw [h.field_eq]
  exact Field.balancedAlong_pass (Setting.covers_after (covers.opening weights intercept) n) bears

/-- A sweep that has stopped, for whatever reason, has left nothing on the lines along the last
    dimension, and so nothing on the table. The intercept is the weighted mean of the scores that
    the call came with. -/
theorem balanced_along_last {fuel : Nat} {limit : Option Nat} {call : Call ℚ} {shape : Shape}
    {weights : Array ℚ} {field : Field ℚ} {report : Report ℚ} {c : Convergence ℚ}
    (admitted : call.admission = .ok (.table shape weights field)) (bears : shape.Bears weights)
    (positive : 0 < shape.weigh weights fun _ => 1)
    (answered : call.purify fuel limit = some report)
    (purified : report.result = .ok (.purified c)) :
    ∃ scores, report.scores = some scores ∧
      (∀ i line, shape.lineAlong? (shape.rank - 1) i = some line →
        line.weigh weights (scores.getD · 0) = 0) ∧
      shape.weigh weights (scores.getD · 0) = 0 ∧
      report.intercept = call.intercept.map fun _ =>
        shape.weigh weights (field.scores.getD · 0) / shape.weigh weights fun _ => 1 := by
  have holds := (Call.admits_of_admission admitted).toHolds
  have weighty := Shape.isZero_totals holds.weights_le holds.covers.cells positive
  obtain ⟨n, -, result, swept, -, leaves, hintercept⟩ :=
    Call.swept_of_purified admitted weighty answered purified
  have last := swept.balancedAlong_last holds.covers bears
  refine ⟨_, leaves.scores_eq, ?_,
    last.weigh_eq_zero (Nat.sub_one_lt_of_lt shape.representable.rank_pos), ?_⟩
  · intro i line along
    obtain ⟨inside, rfl⟩ := Shape.lineAlong?_eq_some_iff.1 along
    exact last i inside
  · rw [hintercept, swept.intercept_eq, Option.map_map,
      Shape.totals_eq holds.weights_le holds.covers.cells]
    rfl

/-- The uneven table cut off after one pass, where its first row is still out of balance, and
    stopped on its plateau. -/
theorem balanced_along_last_uneven :
    (∃ report scores, Call.uneven.purify 1 (some 1) = some report ∧
      report.scores = some scores ∧ Line.weigh ⟨0, 0, 1, 2⟩ diagonal (scores.getD · 0) ≠ 0 ∧
      Line.weigh ⟨1, 1, 2, 2⟩ diagonal (scores.getD · 0) = 0 ∧
      Shape.square.weigh diagonal (scores.getD · 0) = 0 ∧ report.intercept = some 1) ∧
    ∃ report scores, Call.uneven.purify 2 none = some report ∧ report.scores = some scores ∧
      Line.weigh ⟨1, 0, 2, 2⟩ diagonal (scores.getD · 0) = 0 := by
  have limited : ((Call.uneven.purify 1 (some 1)).map fun report =>
      report.result.toOption.bind (·.stop?)) = some (some .passLimit) := by decide +kernel
  have left : ((Call.uneven.purify 1 (some 1)).map fun report =>
      decide (Line.weigh ⟨0, 0, 1, 2⟩ diagonal ((report.scores.getD #[]).getD · 0) ≠ 0)) =
        some true := by decide +kernel
  have stalled : ((Call.uneven.purify 2 none).map fun report =>
      report.result.toOption.bind (·.stop?)) = some (some .plateau) := by decide +kernel
  have mean : Shape.square.weigh diagonal ((#[2, -8, 10, 0] : Array ℚ).getD · 0) /
      Shape.square.weigh diagonal (fun _ => 1) = 1 := by decide +kernel
  obtain ⟨report, c, answered, purified, -⟩ := Call.exists_of_purify limited
  obtain ⟨report', c', answered', purified', -⟩ := Call.exists_of_purify stalled
  obtain ⟨scores, hscores, lines, total, taken⟩ := balanced_along_last Call.admission_uneven
    Shape.bears_diagonal Shape.weigh_diagonal_pos answered purified
  obtain ⟨scores', hscores', lines', -⟩ := balanced_along_last Call.admission_uneven
    Shape.bears_diagonal Shape.weigh_diagonal_pos answered' purified'
  simp only [answered, hscores, Option.map_some, Option.getD_some, Option.some.injEq,
    decide_eq_true_eq] at left
  exact ⟨⟨report, scores, answered, hscores, left, lines 1 ⟨1, 1, 2, 2⟩ (by decide), total,
    taken.trans (congrArg some mean)⟩, report', scores', answered', hscores',
    lines' 0 ⟨1, 0, 2, 2⟩ (by decide)⟩

end Purification
