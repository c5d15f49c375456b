import Purification.Proofs.Exact.Plateau
import Purification.Proofs.Sweep.Cap

/-! # What the tolerance does

The tolerance only decides which means ask for another pass. Two runs that differ in nothing else
go through the same fields, and whatever stops the stricter one stops the other too, if it has not
stopped before.
-/

namespace Purification

section

variable {α : Type} [Scalar α]

/-- The same means were met, and whoever asked for another pass here asks for one there. -/
structure Tally.Within (t' t : Tally α) : Prop where
  impurity_eq : t'.impurity = t.impurity
  retry : t'.retry = true → t.retry = true

theorem Tally.Within.note {t t' : Tally α} (h : t'.Within t) {threshold threshold' : α}
    (laxer : ∀ x, Scalar.lt threshold' x = true → Scalar.lt threshold x = true) (mean : α) :
    (t'.note threshold' mean).Within (t.note threshold mean) where
  impurity_eq := congrArg (· + Scalar.abs mean) h.impurity_eq
  retry asked := by
    rcases Bool.or_eq_true_iff.1 asked with before | above
    · exact Bool.or_eq_true_iff.2 (.inl (h.retry before))
    · exact Bool.or_eq_true_iff.2 (.inr (laxer _ above))

theorem stop?_ne_none_of_within {limit : Option Nat} {previous : Option α} {passes : Nat}
    {t t' : Tally α} (h : t'.Within t)
    (decided : Sweep.stop? limit previous passes t ≠ none) :
    Sweep.stop? limit previous passes t' ≠ none := by
  obtain ⟨same, retry⟩ := h
  unfold Sweep.stop? at decided ⊢
  rw [same]
  grind

namespace Sweep.Setting

/-- One setting is like another, but for a threshold that no mean is above that is not above the
    threshold of the other. -/
structure Laxer (g' g : Setting α) : Prop where
  weights_eq : g'.weights = g.weights
  lines_eq : g'.lines = g.lines
  limit_eq : g'.limit = g.limit
  above : ∀ x, Scalar.lt g'.threshold x = true → Scalar.lt g.threshold x = true

namespace Laxer

variable {g g' : Setting α} {field : Field α} (h : g'.Laxer g)

include h

theorem pass (f : Field α) :
    (f.pass g'.weights g'.threshold g'.lines).1 = (f.pass g.weights g.threshold g.lines).1 ∧
      Tally.Within (f.pass g'.weights g'.threshold g'.lines).2
        (f.pass g.weights g.threshold g.lines).2 := by
  rw [h.weights_eq, h.lines_eq]
  suffices ∀ t t' : Tally α, t'.Within t →
      (g.lines.foldl (centre g.weights g'.threshold) (f, t')).1 =
          (g.lines.foldl (centre g.weights g.threshold) (f, t)).1 ∧
        Tally.Within (g.lines.foldl (centre g.weights g'.threshold) (f, t')).2
          (g.lines.foldl (centre g.weights g.threshold) (f, t)).2 from
    this _ _ ⟨rfl, id⟩
  generalize g.lines = lines
  induction lines generalizing f with
  | nil => exact fun t t' within => ⟨rfl, within⟩
  | cons numbered lines ih =>
      intro t t' within
      exact ih _ _ _ (within.note h.above _)

theorem after_eq (n : Nat) : g'.after field n = g.after field n := by
  induction n with
  | zero => rfl
  | succ n ih =>
      rw [after, after, ih]
      exact (h.pass _).1

theorem tally_within (n : Nat) : (g'.tally field n).Within (g.tally field n) := by
  rw [tally, tally, h.after_eq]
  exact (h.pass _).2

theorem decision_ne_none {n : Nat} (decided : g.decision field n ≠ none) :
    g'.decision field n ≠ none := by
  have previous : g'.previous field n = g.previous field n := by
    cases n with
    | zero => rfl
    | succ n => exact congrArg some (h.tally_within n).impurity_eq
  rw [decision, h.limit_eq, previous]
  exact stop?_ne_none_of_within (h.tally_within n) decided

theorem exists_stopsAt {n : Nat} {stop : StopReason} (stopsAt : g.StopsAt field n stop) :
    ∃ k ≤ n, ∃ stop', g'.StopsAt field k stop' := by
  apply Sweep.exists_stopsAt
  apply h.decision_ne_none
  rw [stopsAt.stops]
  exact nofun

end Laxer

end Sweep.Setting

end

/-! ## Exact tolerances -/

theorem Shape.threshold_le_threshold {s : Shape} {weights scores : Array ℚ}
    (weightsLe : s.cellCount ≤ weights.size) (scoresLe : s.cellCount ≤ scores.size)
    (positive : 0 < s.weigh weights fun _ => 1) {tolerance tolerance' : ℚ}
    (le : tolerance ≤ tolerance') :
    (s.totals weights scores).threshold tolerance ≤
      (s.totals weights scores).threshold tolerance' := by
  have weighty := isZero_totals weightsLe scoresLe positive
  unfold Totals.threshold
  rw [weighty, totals_eq weightsLe scoresLe]
  have magnitude :
      0 ≤ ∑ cell ∈ Finset.range s.cellCount, |scores.getD cell 0 * weights.getD cell 0| :=
    Finset.sum_nonneg fun _ _ => abs_nonneg _
  exact div_le_div_of_nonneg_right (mul_le_mul_of_nonneg_left le magnitude) positive.le

def Call.tolerating (call : Call ℚ) (tolerance : ℚ) : Call ℚ := { call with tolerance }

/-- A call is answered after no more passes if it is made with a greater tolerance, and it leaves
    what the stricter call had in its buffers after so many passes. The weights may be of either
    sign as long as their sum is above 0. -/
theorem greater_tolerance_stops_earlier {fuel : Nat} {limit : Option Nat} {call : Call ℚ}
    {shape : Shape} {weights : Array ℚ} {field : Field ℚ} {report : Report ℚ} {c : Convergence ℚ}
    {tolerance : ℚ} (admitted : call.admission = .ok (.table shape weights field))
    (positive : 0 < shape.weigh weights fun _ => 1) (le : call.tolerance ≤ tolerance)
    (answered : call.purify fuel limit = some report)
    (purified : report.result = .ok (.purified c)) :
    let g := shape.setting call.tolerance limit weights field.scores
    let start := field.opening shape weights (call.intercept.map fun _ => 0)
    report.Leaves c (g.after start c.passes) ∧
      ∃ report' c', (call.tolerating tolerance).purify fuel limit = some report' ∧
        report'.Leaves c' (g.after start c'.passes) ∧ c'.passes ≤ c.passes ∧
        report'.intercept = report.intercept ∧
        (c'.passes = c.passes →
          report'.scores = report.scores ∧ report'.impurities = report.impurities) := by
  intro g start
  have holds := (Call.admits_of_admission admitted).toHolds
  have weighty := Shape.isZero_totals holds.weights_le holds.covers.cells positive
  obtain ⟨n, enough, result, swept, rfl, leaves, intercept⟩ :=
    Call.swept_of_purified admitted weighty answered purified
  rw [swept.field_eq, ← swept.passes_eq] at leaves
  rw [swept.intercept_eq] at intercept
  let g' := shape.setting tolerance limit weights field.scores
  have laxer : g'.Laxer g := by
    refine ⟨rfl, rfl, rfl, fun x above => ?_⟩
    have stricter := Shape.threshold_le_threshold holds.weights_le holds.covers.cells positive le
    exact decide_eq_true (lt_of_le_of_lt stricter (of_decide_eq_true above))
  obtain ⟨k, earlier, stop, stopsAt⟩ := laxer.exists_stopsAt swept.stopsAt
  -- what is admitted does not depend on the tolerance
  have admitted' : (call.tolerating tolerance).admission = .ok (.table shape weights field) :=
    admitted
  obtain ⟨report', answered', leaves', intercept'⟩ :
      ∃ report', (call.tolerating tolerance).purify fuel limit = some report' ∧
        report'.Leaves (g'.ending start k stop) (g'.after start (k + 1)) ∧
        report'.intercept = _ :=
    Call.exists_report_of_swept admitted' (Nat.lt_of_le_of_lt earlier enough)
      (Sweep.swept_of_stopsAt weighty stopsAt)
  rw [laxer.after_eq] at leaves'
  refine ⟨leaves, report', _, answered', leaves', ?_, intercept'.trans intercept.symm, ?_⟩
  · rw [swept.passes_eq]
    exact Nat.succ_le_succ earlier
  · intro same
    rw [leaves'.scores_eq, leaves'.impurities_eq, leaves.scores_eq, leaves.impurities_eq, ← same]
    exact ⟨rfl, rfl⟩

/-- The uneven table stops on a plateau after two passes. With a tolerance of 1 it converges with
    the first of them, and with a small tolerance it ends in the same place. -/
theorem greater_tolerance_stops_earlier_uneven :
    let g := Shape.square.setting (0 : ℚ) none diagonal #[2, -8, 10, 0]
    let start := Field.opening ⟨#[2, -8, 10, 0], #[0, 0, 0, 0]⟩ .square diagonal (some 0)
    ∃ report report' report'' c c' c'', Call.uneven.purify 2 none = some report ∧
      (Call.uneven.tolerating 1).purify 2 none = some report' ∧
      (Call.uneven.tolerating (1 / 100)).purify 2 none = some report'' ∧
      report.Leaves c (g.after start 2) ∧ report'.Leaves c' (g.after start 1) ∧
      report''.Leaves c'' (g.after start 2) ∧ report''.impurities = report.impurities := by
  intro g start
  have stalled : ((Call.uneven.purify 2 none).map fun report =>
      report.result.toOption.bind (·.stop?)) = some (some .plateau) := by decide +kernel
  obtain ⟨report, c, answered, purified, -⟩ := Call.exists_of_purify stalled
  obtain ⟨leaves, report', c', answered', leaves', -⟩ := greater_tolerance_stops_earlier
    Call.admission_uneven Shape.weigh_diagonal_pos zero_le_one answered purified
  obtain ⟨-, report'', c'', answered'', leaves'', -, -, same⟩ := greater_tolerance_stops_earlier
    Call.admission_uneven Shape.weigh_diagonal_pos (by decide +kernel : (0 : ℚ) ≤ 1 / 100)
    answered purified
  have two := Call.passes_of_purify (n := 2) (by decide +kernel) answered purified
  have one := Call.passes_of_purify (n := 1) (by decide +kernel) answered' leaves'.result_eq
  have two' := Call.passes_of_purify (n := 2) (by decide +kernel) answered'' leaves''.result_eq
  rw [two] at leaves
  rw [one] at leaves'
  rw [two'] at leaves''
  exact ⟨report, report', report'', c, c', c'', answered, answered', answered'', leaves, leaves',
    leaves'', (same (two'.trans two.symm)).2⟩

end Purification
