import Purification.Proofs.Exact.LeastSquares
import Purification.Proofs.Exact.Plateau

/-! # Tables at rest

A pass over a balanced table meets no mean and moves nothing, so a run of such a table converges
with its first pass, and its intercept is 0. A run that has converged without tolerance leaves a
balanced table behind: purifying it again finds nothing to do.
-/

namespace Purification

namespace Line

theorem mean_of_weigh_eq_zero {line : Line} {weights scores : Array ℚ}
    (balanced : line.weigh weights (scores.getD · 0) = 0) : line.mean weights scores = 0 := by
  rw [mean_eq, balanced, zero_div]

end Line

theorem Tally.start_note_zero {threshold : ℚ} (nonneg : 0 ≤ threshold) :
    Tally.start.note threshold 0 = Tally.start := by
  have within : Scalar.lt threshold (Scalar.abs (0 : ℚ)) = false :=
    decide_eq_false (not_lt.2 (abs_zero.trans_le nonneg))
  have sum : (0 : ℚ) + |0| = 0 := by simp
  simp only [note, start, within, Bool.or_false, Tally.mk.injEq, and_true]
  exact sum

theorem Sweep.mapFirst_of_fixed {α : Type} (n : Nat) {change : α → α}
    (keeps : ∀ x, change x = x) (values : Array α) : mapFirst n change values = values := by
  apply Array.ext_getElem?
  intro i
  simp [mapFirst, keeps]

namespace Field

variable {s : Shape} {f : Field ℚ} {weights : Array ℚ} {threshold : ℚ}

theorem pass_of_balanced (balanced : s.Balanced weights (f.scores.getD · 0))
    (nonneg : 0 ≤ threshold) : f.pass weights threshold s.lines = (f, Tally.start) := by
  have means : ∀ numbered ∈ s.lines, numbered.2.mean weights f.scores = 0 :=
    fun numbered member => Line.mean_of_weigh_eq_zero (balanced numbered member)
  unfold pass
  generalize s.lines = lines at means ⊢
  induction lines with
  | nil => rfl
  | cons numbered lines ih =>
      obtain ⟨slot, line⟩ := numbered
      have mean : line.mean weights f.scores = 0 := means _ List.mem_cons_self
      rw [List.foldl_cons, centre, mean, remove_zero, Tally.start_note_zero nonneg]
      exact ih fun numbered later => means numbered (List.mem_cons_of_mem _ later)

end Field

namespace Sweep

theorem Setting.after_of_balanced {s : Shape} {g : Setting ℚ} {field : Field ℚ}
    (lines : g.lines = s.lines) (nonneg : 0 ≤ g.threshold)
    (balanced : s.Balanced g.weights (field.scores.getD · 0)) (n : Nat) :
    g.after field n = field ∧ g.tally field n = Tally.start := by
  have pass := Field.pass_of_balanced balanced nonneg
  have kept : g.after field n = field := by
    induction n with
    | zero => rfl
    | succ n ih => rw [after, ih, lines, pass]
  refine ⟨kept, ?_⟩
  rw [tally, kept, lines, pass]

section

variable {s : Shape} {weights : Array ℚ} {field : Field ℚ}
  (weightsLe : s.cellCount ≤ weights.size) (covers : field.Covers s)
  (balanced : s.Balanced weights (field.scores.getD · 0))

include weightsLe covers balanced

theorem mean_of_balanced : (s.totals weights field.scores).mean = 0 := by
  rw [Shape.totals_eq weightsLe covers.cells, Totals.mean, balanced.weigh_eq_zero, zero_div]

theorem opening_of_balanced (intercept : Option ℚ) :
    field.opening s weights intercept =
      ⟨field.scores, mapFirst s.lineCount (fun _ => 0) field.impurities⟩ := by
  cases intercept with
  | none => rfl
  | some _ =>
      rw [Field.opening, mean_of_balanced weightsLe covers balanced]
      simp only [mapFirst_of_fixed _ sub_zero]

/-- A run of a balanced table converges with its first pass and only clears the slots. -/
theorem run_of_balanced (bears : s.Bears weights) (positive : 0 < s.weigh weights fun _ => 1)
    {tolerance : ℚ} (nonneg : 0 ≤ tolerance) (fuel : Nat) (limit : Option Nat)
    (intercept : Option ℚ) :
    run (fuel + 1) s tolerance limit weights field intercept =
      some { convergence := ⟨.converged, 1, (s.totals weights field.scores).threshold tolerance, 0⟩
             field := ⟨field.scores, mapFirst s.lineCount (fun _ => 0) field.impurities⟩
             intercept := intercept.map fun _ => 0 } := by
  have pass := Field.pass_of_balanced
    (f := ⟨field.scores, mapFirst s.lineCount (fun _ => 0) field.impurities⟩) balanced
    (Shape.threshold_nonneg weightsLe covers.cells bears nonneg)
  rw [run_of_not_isZero _ (Shape.isZero_totals weightsLe covers.cells positive),
    opening_of_balanced weightsLe covers balanced, mean_of_balanced weightsLe covers balanced,
    loop, Shape.setting, pass]
  rfl

end

end Sweep

/-- The call for the same table with these scores, and with slots and an intercept output of its
    own. -/
def Call.again (call : Call ℚ) (scores impurities : Array ℚ) (intercept : Option ℚ) : Call ℚ :=
  { call with scores := some scores, impurities := some impurities, intercept }

theorem Call.admission_again {call : Call ℚ} {shape : Shape} {weights scores impurities : Array ℚ}
    {field : Field ℚ} (admitted : call.admission = .ok (.table shape weights field))
    (cells : shape.cellCount ≤ scores.size) (lines : shape.lineCount ≤ impurities.size)
    (intercept : Option ℚ) :
    (call.again scores impurities intercept).admission =
      .ok (.table shape weights ⟨scores, impurities⟩) := by
  have holds := (Call.admits_of_admission admitted).toHolds
  have same : (call.again scores impurities intercept).admission =
      (call.again scores impurities intercept).table shape :=
    Call.admission_congr admitted rfl rfl
  rw [same]
  exact Holds.table_eq ⟨holds.weights_eq, rfl, rfl, holds.weights_le, cells, lines⟩

/-- A call without tolerance that has converged has done all there is to do. When its table is
    purified again, under any cap and with an intercept or without one, the first pass converges
    and meets nothing: the intercept and all slots are 0, and every score is as it was. -/
theorem purify_again {fuel : Nat} {limit : Option Nat} {call : Call ℚ} {shape : Shape}
    {weights : Array ℚ} {field : Field ℚ} {report : Report ℚ} {c : Convergence ℚ}
    (admitted : call.admission = .ok (.table shape weights field)) (strict : call.tolerance = 0)
    (bears : shape.Bears weights) (positive : 0 < shape.weigh weights fun _ => 1)
    (answered : call.purify fuel limit = some report)
    (purified : report.result = .ok (.purified c)) (converged : c.stop = .converged) :
    ∃ scores, report.scores = some scores ∧
      ∀ (impurities : Array ℚ) (intercept : Option ℚ) (fuel' : Nat) (limit' : Option Nat),
        shape.lineCount ≤ impurities.size →
        ∃ report' cleared,
          (call.again scores impurities intercept).purify (fuel' + 1) limit' = some report' ∧
          report'.result = .ok (.purified ⟨.converged, 1, 0, 0⟩) ∧
          report'.scores = some scores ∧ report'.intercept = intercept.map (fun _ => 0) ∧
          report'.impurities = some cleared ∧ cleared.size = impurities.size ∧
          ∀ slot < shape.lineCount, cleared.getD slot 0 = 0 := by
  obtain ⟨scores, hscores, residual⟩ :=
    Call.isResidual_of_converged admitted strict bears answered purified converged
  obtain ⟨scores', _, hscores', -, cells, -, -⟩ :=
    Call.score_eq_of_purified admitted answered purified (converged ▸ nofun)
  cases hscores.symm.trans hscores'
  refine ⟨scores, hscores, ?_⟩
  intro impurities intercept fuel' limit' lines
  have admitted' := Call.admission_again admitted cells lines intercept
  have holds := (Call.admits_of_admission admitted').toHolds
  have ran := Sweep.run_of_balanced holds.weights_le holds.covers residual.balanced bears positive
    (le_refl 0) fuel' limit' (intercept.map fun _ => 0)
  have told := Call.purify_of_admission admitted' (fuel' + 1) limit'
  rw [show (call.again scores impurities intercept).tolerance = 0 from strict,
    show (call.again scores impurities intercept).intercept = intercept from rfl, ran,
    Totals.threshold_zero, Option.map_some] at told
  refine ⟨_, _, told, rfl, rfl, ?_, rfl, Sweep.size_mapFirst _ _ _, ?_⟩
  · cases intercept with
    | none => rfl
    | some _ => rfl
  · intro slot inside
    exact Sweep.getD_mapFirst _ inside (Nat.lt_of_lt_of_le inside lines)

/-- The residual of a table whose weights are products, purified again under a cap of 0, with an
    intercept asked for and slots that held something. -/
theorem purify_again_tilted :
    ∃ report scores report', Call.tilted.purify 2 none = some report ∧
      report.scores = some scores ∧
      (Call.tilted.again scores #[7, 7, 7, 7, 7] (some 7)).purify 1 (some 0) = some report' ∧
      report'.scores = some scores ∧ report'.intercept = some 0 := by
  have stopped : ((Call.tilted.purify 2 none).map fun report =>
      report.result.toOption.bind (·.stop?)) = some (some .converged) := by decide +kernel
  have admitted : Call.tilted.admission =
      .ok (.table .square #[1, 2, 3, 6] ⟨#[2, -8, 10, 0], #[0, 0, 0, 0]⟩) := rfl
  have bears : Shape.square.Bears #[1, 2, 3, 6] := by
    unfold Shape.Bears
    decide +kernel
  obtain ⟨report, c, answered, purified, converged⟩ := Call.exists_of_purify stopped
  obtain ⟨scores, hscores, again⟩ :=
    purify_again admitted rfl bears (by decide +kernel) answered purified converged
  obtain ⟨report', cleared, answered', -, kept, intercept, -⟩ :=
    again #[7, 7, 7, 7, 7] (some 7) 0 (some 0) (by decide)
  exact ⟨report, scores, report', answered, hscores, answered', kept, intercept⟩

end Purification
