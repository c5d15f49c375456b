import Purification.Proofs.Call.Exchange
import Purification.Proofs.Exact.Plateau

/-! # Tables on another scale

What a sweep decides on is ratios of products of weights and scores. So if all scores are
multiplied by one number, and something is added to scores that have no weight, each mean is
multiplied by that number and the run stops where it stopped before. If all weights are multiplied
by a number above 0, nothing changes at all.
-/

namespace Purification

/-- The second scores are `c` times the first ones, with a drift added where it has no weight. -/
structure Shape.Rescales (s : Shape) (weights : Array ℚ) (c : ℚ) (drift : Nat → ℚ)
    (scores scores' : Array ℚ) : Prop where
  weightless : ∀ cell < s.cellCount, weights.getD cell 0 * drift cell = 0
  score_eq : ∀ i, scores'[i]? = scores[i]?.map fun x => c * x + drift i

namespace Shape.Rescales

variable {s : Shape} {weights scores scores' : Array ℚ} {c : ℚ} {drift : Nat → ℚ}
  (h : s.Rescales weights c drift scores scores')

include h

theorem size_eq : scores'.size = scores.size := by
  have ends : ∀ i, scores'.size ≤ i ↔ scores.size ≤ i := by
    intro i
    rw [← Array.getElem?_eq_none_iff, ← Array.getElem?_eq_none_iff, h.score_eq,
      Option.map_eq_none_iff]
  exact le_antisymm ((ends _).2 (le_refl _)) ((ends _).1 (le_refl _))

theorem weight_mul_score {cell : Nat} (hc : cell < s.cellCount) :
    weights.getD cell 0 * scores'.getD cell 0 =
      c * (weights.getD cell 0 * scores.getD cell 0) := by
  have weightless := h.weightless cell hc
  simp only [Array.getD_eq_getD_getElem?, h.score_eq] at weightless ⊢
  cases scores[cell]? with
  | none => simp
  | some x =>
      rw [Option.map_some, Option.getD_some, Option.getD_some, mul_add, weightless]
      ring

theorem mean_eq {slot : Nat} {line : Line} (member : (slot, line) ∈ s.lines) :
    line.mean weights scores' = c * line.mean weights scores := by
  have products : line.weigh weights (scores'.getD · 0) =
      c * line.weigh weights (scores.getD · 0) := by
    unfold Line.weigh
    rw [← List.sum_map_mul_left]
    congr 1
    exact List.map_congr_left fun cell on => h.weight_mul_score (cell_lt_of_mem_lines member on)
  rw [Line.mean_eq, Line.mean_eq, products, mul_div_assoc]

theorem totals_eq (weightsLe : s.cellCount ≤ weights.size) (scoresLe : s.cellCount ≤ scores.size) :
    s.totals weights scores' =
      { weight := (s.totals weights scores).weight
        weightedScore := c * (s.totals weights scores).weightedScore
        absWeightedScore := |c| * (s.totals weights scores).absWeightedScore } := by
  have scored : s.weigh weights (scores'.getD · 0) = c * s.weigh weights (scores.getD · 0) := by
    rw [weigh, weigh, Finset.mul_sum]
    exact Finset.sum_congr rfl fun cell hc => h.weight_mul_score (Finset.mem_range.1 hc)
  have magnitudes : ∑ cell ∈ Finset.range s.cellCount, |scores'.getD cell 0 * weights.getD cell 0| =
      |c| * ∑ cell ∈ Finset.range s.cellCount, |scores.getD cell 0 * weights.getD cell 0| := by
    rw [Finset.mul_sum]
    refine Finset.sum_congr rfl fun cell hc => ?_
    rw [mul_comm, h.weight_mul_score (Finset.mem_range.1 hc), abs_mul, mul_comm (scores.getD _ _)]
  rw [Shape.totals_eq weightsLe (h.size_eq.symm ▸ scoresLe), Shape.totals_eq weightsLe scoresLe,
    scored, magnitudes]

theorem mean_totals (weightsLe : s.cellCount ≤ weights.size)
    (scoresLe : s.cellCount ≤ scores.size) :
    (s.totals weights scores').mean = c * (s.totals weights scores).mean := by
  rw [h.totals_eq weightsLe scoresLe, Totals.mean, Totals.mean, mul_div_assoc]

theorem threshold_totals (weightsLe : s.cellCount ≤ weights.size)
    (scoresLe : s.cellCount ≤ scores.size) (tolerance : ℚ) :
    (s.totals weights scores').threshold tolerance =
      |c| * (s.totals weights scores).threshold tolerance := by
  rw [h.totals_eq weightsLe scoresLe, Totals.threshold, Totals.threshold]
  split
  · exact (mul_zero _).symm
  · rw [mul_assoc, mul_div_assoc]

end Shape.Rescales

theorem Tally.note_mul {c : ℚ} (nonzero : c ≠ 0) (t : Tally ℚ) (threshold mean : ℚ) :
    (t.map (|c| * ·)).note (|c| * threshold) (c * mean) =
      (t.note threshold mean).map (|c| * ·) := by
  have magnitude : Scalar.abs (c * mean) = |c| * Scalar.abs mean := abs_mul c mean
  have above : Scalar.lt (|c| * threshold) (|c| * Scalar.abs mean) =
      Scalar.lt threshold (Scalar.abs mean) :=
    decide_eq_decide.2 (mul_lt_mul_iff_right₀ (abs_pos.2 nonzero))
  simp only [note, map, magnitude, above, mul_add]

theorem Scalar.unnoticed_mul {c : ℚ} (positive : 0 < c) : Scalar.Unnoticed (c * ·) where
  le _ _ := decide_eq_decide.2 (mul_le_mul_iff_right₀ positive)
  isTop _ := rfl

/-- The scores of the second field are those of the first one on another scale, and so are its
    slots. -/
structure Field.Rescales (s : Shape) (weights : Array ℚ) (c : ℚ) (drift : Nat → ℚ)
    (f f' : Field ℚ) : Prop where
  scores : s.Rescales weights c drift f.scores f'.scores
  impurities : ∀ i < s.lineCount, f'.impurities[i]? = f.impurities[i]?.map (c * ·)

namespace Field.Rescales

variable {s : Shape} {weights : Array ℚ} {c : ℚ} {drift : Nat → ℚ} {f f' : Field ℚ}

theorem remove (h : Rescales s weights c drift f f') {slot : Nat} {line : Line}
    (member : (slot, line) ∈ s.lines) (mean : ℚ) :
    Rescales s weights c drift (f.remove slot line mean) (f'.remove slot line (c * mean)) where
  scores := by
    refine ⟨h.scores.weightless, fun i => ?_⟩
    have distinct := Shape.cells_nodup_of_mem_lines member
    have changed := getElem?_foldl_modify (· - mean) distinct f.scores i
    have changed' := getElem?_foldl_modify (· - c * mean) distinct f'.scores i
    rw [Field.remove, Field.remove, changed, changed', h.scores.score_eq]
    split
    · rw [Option.map_map, Option.map_map]
      congr 1
      funext x
      simp only [Function.comp_apply]
      ring
    · rfl
  impurities i hi := by
    rw [Field.remove, Field.remove, Array.getElem?_modify, Array.getElem?_modify,
      h.impurities i hi]
    split
    · rw [Option.map_map, Option.map_map]
      congr 1
      funext x
      exact (mul_add c x mean).symm
    · rfl

theorem pass (nonzero : c ≠ 0) (h : Rescales s weights c drift f f') (threshold : ℚ) :
    Rescales s weights c drift (f.pass weights threshold s.lines).1
        (f'.pass weights (|c| * threshold) s.lines).1 ∧
      (f'.pass weights (|c| * threshold) s.lines).2 =
        (f.pass weights threshold s.lines).2.map (|c| * ·) := by
  refine Field.pass_parallel (mul_zero _) ?_ h
  intro f f' slot line member h
  rw [h.scores.mean_eq member]
  exact ⟨h.remove member _, fun t => t.note_mul nonzero threshold _⟩

theorem opening (covers : f.Covers s) (covers' : f'.Covers s)
    (weightsLe : s.cellCount ≤ weights.size)
    (h : s.Rescales weights c drift f.scores f'.scores) (intercept : Option ℚ) :
    Rescales s weights c drift (f.opening s weights intercept)
      (f'.opening s weights intercept) where
  scores := by
    cases intercept with
    | none => exact h
    | some _ =>
        refine ⟨h.weightless, fun i => ?_⟩
        simp only [Field.opening, Sweep.mapFirst, Array.getElem?_mapIdx, h.score_eq,
          h.mean_totals weightsLe covers.cells, Option.map_map]
        congr 1
        funext x
        simp only [Function.comp_apply]
        split
        · ring
        · rfl
  impurities i hi := by
    have inside : i < f.impurities.size := Nat.lt_of_lt_of_le hi covers.lines
    have inside' : i < f'.impurities.size := Nat.lt_of_lt_of_le hi covers'.lines
    simp [Field.opening, Sweep.mapFirst, hi, inside, inside']

end Field.Rescales

/-! ## A run -/

namespace Sweep

variable {s : Shape} {weights scores' : Array ℚ} {c : ℚ} {drift : Nat → ℚ} {field : Field ℚ}

theorem run_rescaled (nonzero : c ≠ 0) (covers : field.Covers s)
    (weightsLe : s.cellCount ≤ weights.size)
    (h : s.Rescales weights c drift field.scores scores')
    (weighty : Scalar.isZero (s.totals weights field.scores).weight = false) (fuel : Nat)
    (tolerance : ℚ) (limit : Option Nat) (intercept : Option ℚ) :
    Option.Rel (fun result result' : Result ℚ =>
        result'.convergence = result.convergence.map (|c| * ·) ∧
          Field.Rescales s weights c drift result.field result'.field ∧
          result'.intercept = result.intercept.map (c * ·))
      (run fuel s tolerance limit weights field intercept)
      (run fuel s tolerance limit weights ⟨scores', field.impurities⟩ intercept) := by
  have covers' : Field.Covers ⟨scores', field.impurities⟩ s :=
    ⟨h.size_eq.symm ▸ covers.cells, covers.lines⟩
  have threshold := h.threshold_totals weightsLe covers.cells tolerance
  apply run_parallel (c * ·) weighty
  · rw [h.totals_eq weightsLe covers.cells]
    exact weighty
  · refine ⟨rfl, threshold, Scalar.unnoticed_mul (abs_pos.2 nonzero), fun f f' related => ?_⟩
    simp only [Shape.setting, threshold]
    exact related.pass nonzero _
  · exact .opening covers covers' weightsLe h intercept
  · exact h.mean_totals weightsLe covers.cells

end Sweep

/-! ## Weights on another scale -/

section

variable {s : Shape} {weights : Array ℚ}

theorem getD_map_mul (k : ℚ) (values : Array ℚ) (i : Nat) :
    (values.map (k * ·)).getD i 0 = k * values.getD i 0 := by
  rw [Array.getD_eq_getD_getElem?, Array.getD_eq_getD_getElem?, Array.getElem?_map]
  cases values[i]? with
  | none => exact (mul_zero k).symm
  | some x => rfl

theorem Line.weigh_map_mul (line : Line) (k : ℚ) (value : Nat → ℚ) :
    line.weigh (weights.map (k * ·)) value = k * line.weigh weights value := by
  unfold weigh
  rw [← List.sum_map_mul_left]
  congr 1
  exact List.map_congr_left fun cell _ => by rw [getD_map_mul, mul_assoc]

theorem Line.mean_map_mul {k : ℚ} (nonzero : k ≠ 0) (line : Line) (scores : Array ℚ) :
    line.mean (weights.map (k * ·)) scores = line.mean weights scores := by
  rw [mean_eq, mean_eq, mass, mass, weigh_map_mul, weigh_map_mul, mul_div_mul_left _ _ nonzero]

theorem Shape.totals_map_mul {k : ℚ} (positive : 0 < k) {scores : Array ℚ}
    (weightsLe : s.cellCount ≤ weights.size) (scoresLe : s.cellCount ≤ scores.size) :
    s.totals (weights.map (k * ·)) scores =
      { weight := k * (s.totals weights scores).weight
        weightedScore := k * (s.totals weights scores).weightedScore
        absWeightedScore := k * (s.totals weights scores).absWeightedScore } := by
  have summed : ∀ value : Nat → ℚ,
      s.weigh (weights.map (k * ·)) value = k * s.weigh weights value := by
    intro value
    simp only [weigh, getD_map_mul, mul_assoc, Finset.mul_sum]
  have magnitudes : ∑ cell ∈ Finset.range s.cellCount,
        |scores.getD cell 0 * (weights.map (k * ·)).getD cell 0| =
      k * ∑ cell ∈ Finset.range s.cellCount, |scores.getD cell 0 * weights.getD cell 0| := by
    rw [Finset.mul_sum]
    refine Finset.sum_congr rfl fun cell _ => ?_
    rw [getD_map_mul, mul_left_comm, abs_mul, abs_of_pos positive]
  rw [Shape.totals_eq (by rwa [Array.size_map]) scoresLe, Shape.totals_eq weightsLe scoresLe,
    summed, summed, magnitudes]

theorem Sweep.run_map_mul {k : ℚ} (positive : 0 < k) {field : Field ℚ} (covers : field.Covers s)
    (weightsLe : s.cellCount ≤ weights.size) (fuel : Nat) (tolerance : ℚ) (limit : Option Nat)
    (intercept : Option ℚ) :
    run fuel s tolerance limit (weights.map (k * ·)) field intercept =
      run fuel s tolerance limit weights field intercept := by
  have totals := Shape.totals_map_mul positive weightsLe covers.cells
  have weightless : ∀ x : ℚ, Scalar.isZero (k * x) = Scalar.isZero x := fun x =>
    decide_eq_decide.2 (mul_eq_zero_iff_left positive.ne')
  apply run_eq_of_weights
  · intro slot line _ scores
    exact line.mean_map_mul positive.ne' scores
  · rw [totals, weightless]
  · rw [totals, Totals.threshold, Totals.threshold, weightless]
    split
    · rfl
    · rw [mul_assoc, mul_div_mul_left _ _ positive.ne']
  · rw [totals, Totals.mean, Totals.mean, mul_div_mul_left _ _ positive.ne']

end

/-! ## A call -/

theorem Shape.rescales_map_mul (s : Shape) (weights scores : Array ℚ) (c : ℚ) :
    s.Rescales weights c (fun _ => 0) scores (scores.map (c * ·)) where
  weightless _ _ := mul_zero _
  score_eq i := by
    simp only [Array.getElem?_map, add_zero]

/-- The second report is that of a call whose scores were `c` times as great. -/
structure Report.Scales (s : Shape) (c : ℚ) (report report' : Report ℚ) : Prop where
  intercept_eq : report'.intercept = report.intercept.map (c * ·)
  left : ∃ ended last last', report.Leaves ended last ∧
    report'.Leaves (ended.map (|c| * ·)) last' ∧ last'.scores = last.scores.map (c * ·) ∧
    ∀ slot < s.lineCount, last'.impurities[slot]? = last.impurities[slot]?.map (c * ·)

/-- A table can be measured on another scale. If all scores of a table with weight are multiplied
    by a number that is not 0, the call stops where it stopped before, and the intercept, the
    impurities and the scores that it leaves are multiplied alike; the threshold and the summed
    impurity are magnitudes. If all weights are multiplied by a number above 0, the call is
    answered with the same report. -/
theorem purify_on_scale {call : Call ℚ} {shape : Shape} {weights : Array ℚ} {field : Field ℚ}
    (admitted : call.admission = .ok (.table shape weights field)) (fuel : Nat)
    (limit : Option Nat) :
    ((shape.weigh weights fun _ => 1) ≠ 0 → ∀ c ≠ 0,
      Option.Rel (Report.Scales shape c) (call.purify fuel limit)
        ((call.rescored (field.scores.map (c * ·))).purify fuel limit)) ∧
    ∀ k > 0, (call.reweighted (weights.map (k * ·))).purify fuel limit =
      call.purify fuel limit := by
  have holds := (Call.admits_of_admission admitted).toHolds
  constructor
  · intro weighty c nonzero
    have rescales := shape.rescales_map_mul weights field.scores c
    have admitted' := Call.admission_rescored admitted (rescales.size_eq.symm ▸ holds.covers.cells)
    refine Call.rel_purify admitted admitted'
      (Sweep.run_rescaled nonzero holds.covers holds.weights_le rescales
        (Shape.isZero_totals_of_ne holds.weights_le holds.covers.cells weighty) fuel
        call.tolerance limit (call.intercept.map fun _ => 0)) ?_
    rintro result result' report report' ⟨ended, last, taken⟩ tells tells'
    refine ⟨?_, result.convergence, result.field, result'.field, tells.leaves,
      ended ▸ tells'.leaves, ?_, last.impurities⟩
    · rw [tells.intercept_eq, tells'.intercept_eq, taken]
    · apply Array.ext_getElem?
      intro cell
      simp only [last.scores.score_eq, Array.getElem?_map, add_zero]
  · intro k positive
    have admitted' : (call.reweighted (weights.map (k * ·))).admission =
        .ok (.table shape (weights.map (k * ·)) field) :=
      Call.admission_reweighted admitted (by rw [Array.size_map]; exact holds.weights_le)
    have summary : (call.reweighted (weights.map (k * ·))).summary = call.summary := by
      simp [Call.summary, Call.reweighted, holds.weights_eq]
    rw [Call.purify_of_admission admitted, Call.purify_of_admission admitted', summary]
    exact congrArg (Option.map _) (Sweep.run_map_mul positive holds.covers holds.weights_le ..)

/-- The uneven table against the grain and on heavier weights: it stops on its plateau all the
    same. -/
theorem purify_on_scale_uneven :
    ∃ report report', Call.uneven.purify 2 none = some report ∧
      (Call.uneven.rescored ((#[2, -8, 10, 0] : Array ℚ).map (-3 * ·))).purify 2 none =
        some report' ∧
      Report.Scales .square (-3) report report' ∧ report'.intercept = some (-3) ∧
      (Call.uneven.reweighted (diagonal.map (5 / 2 * ·))).purify 2 none = some report := by
  obtain ⟨scored, weighed⟩ := purify_on_scale Call.admission_uneven 2 none
  have answered : (Call.uneven.purify 2 none).map (·.intercept) = some (some 1) := by
    decide +kernel
  obtain ⟨report, answered, intercept⟩ := Option.map_eq_some_iff.1 answered
  have reports := scored Shape.weigh_diagonal_pos.ne' (-3) (by decide +kernel)
  have same := weighed (5 / 2) (by decide +kernel)
  rw [answered] at reports same
  generalize (Call.uneven.rescored _).purify 2 none = second at reports ⊢
  cases reports with
  | some scales =>
      refine ⟨report, _, answered, rfl, scales, ?_, same⟩
      rw [scales.intercept_eq, intercept, Option.map_some, mul_one]

end Purification
