import Purification.Proofs.Call.Decomposition
import Purification.Proofs.Exact.Overlay

/-! # Nothing is lost

Over exact numbers, intercept, marginals and residual add up to the table: at each cell
the original score is the final score, the intercept, and one slot along each dimension,
namely the one that the cell's coordinates name.
-/

namespace Purification

theorem Shape.exists_slots (shape : Shape) {cell : Nat} (hc : cell < shape.cellCount) :
    ∃ coords, shape.decode cell = some coords ∧ ∀ d < shape.rank,
      shape.surfaceIndex? d coords = some (shape.slot d cell) ∧
        shape.slot d cell < shape.lineCount :=
  ⟨Shape.coordsOfCell shape.lengths cell, Shape.decode_eq hc, fun _ hd =>
    ⟨Shape.surfaceIndex?_coordsOfCell hd hc, Shape.slot_lt hd hc⟩⟩

theorem Call.score_eq_of_purified {fuel : Nat} {limit : Option Nat} {call : Call ℚ} {shape : Shape}
    {weights : Array ℚ} {field : Field ℚ} {report : Report ℚ} {c : Convergence ℚ}
    (admitted : call.admission = .ok (.table shape weights field))
    (answered : call.purify fuel limit = some report)
    (purified : report.result = .ok (.purified c)) (swept : c.stop ≠ .zeroWeight) :
    ∃ scores impurities, report.scores = some scores ∧ report.impurities = some impurities ∧
      shape.cellCount ≤ scores.size ∧ shape.lineCount ≤ impurities.size ∧
      ∀ cell < shape.cellCount, field.scores.getD cell 0 =
        scores.getD cell 0 + report.intercept.getD 0 +
          shape.overlay (impurities.getD · 0) cell := by
  obtain ⟨n, -, result, run, -, leaves, intercept⟩ :=
    Call.swept_of_stop_ne admitted answered purified swept
  have covers := (Call.admits_of_admission admitted).covers
  refine ⟨_, _, leaves.scores_eq, leaves.impurities_eq, ?_, ?_, ?_⟩
  · rw [run.size_scores]
    exact covers.cells
  · rw [run.size_impurities]
    exact covers.lines
  · intro cell hc
    rw [intercept]
    exact run.whole_eq covers hc

theorem Decomposition.OfRun.score_eq {x : Decomposition ℚ} {config : Config ℚ} {fuel : Nat}
    {lengths : List Nat} {weights scores : Array ℚ} {c : Convergence ℚ} {shape : Shape}
    {result : Sweep.Result ℚ} (h : x.OfRun config fuel lengths weights scores c shape result)
    (swept : c.stop ≠ .zeroWeight) :
    x.residual.length = shape.cellCount ∧ ∀ cell < shape.cellCount,
      (∀ d < shape.rank, shape.surface d cell < (x.marginal d).length) ∧
      scores.getD cell 0 = x.residual.getD cell 0 + x.intercept +
        ∑ d ∈ Finset.range shape.rank, (x.marginal d).getD (shape.surface d cell) 0 := by
  rcases h.weightless_or_swept with ⟨weightless, -⟩ | ⟨n, run⟩
  · exact absurd weightless swept
  · refine ⟨?_, fun cell hc => ?_⟩
    · rw [h.residual_eq, List.length_take, Array.length_toList, run.size_scores]
      exact Nat.min_eq_left h.scores_le
    · have held := fun d hd => h.marginal_at run hd (Shape.surface_lt (d := d) hd hc)
      refine ⟨fun d hd => (held d hd).1, ?_⟩
      rw [Finset.sum_congr rfl fun d hd => (held d (Finset.mem_range.1 hd)).2, h.intercept_eq,
        h.getD_residual hc]
      exact run.whole_eq h.covers hc

/-- The original score of a cell, put together from what a call leaves in its buffers and
    from the parts of a decomposition. -/
theorem score_eq_parts :
    (∀ (fuel : Nat) (limit : Option Nat) (call : Call ℚ) (shape : Shape) (weights : Array ℚ)
      (field : Field ℚ) (report : Report ℚ) (c : Convergence ℚ),
      call.admission = .ok (.table shape weights field) →
      call.purify fuel limit = some report →
      report.result = .ok (.purified c) → c.stop ≠ .zeroWeight →
      ∃ scores impurities, report.scores = some scores ∧ report.impurities = some impurities ∧
        shape.cellCount ≤ scores.size ∧ shape.lineCount ≤ impurities.size ∧
        ∀ cell < shape.cellCount, ∃ (coords : List Nat) (slots : Nat → Nat),
          shape.decode cell = some coords ∧
          (∀ d < shape.rank, shape.surfaceIndex? d coords = some (slots d) ∧
            slots d < shape.lineCount) ∧
          field.scores.getD cell 0 = scores.getD cell 0 + report.intercept.getD 0 +
            ∑ d ∈ Finset.range shape.rank, impurities.getD (slots d) 0) ∧
    (∀ (fuel : Nat) (s s' : Session ℚ) (lengths : List Nat) (weights scores : Array ℚ)
      (x : Decomposition ℚ) (c : Convergence ℚ),
      s.decompose fuel lengths weights scores = some (.ok x, s') → x.outcome = .purified c →
      ∃ shape, Shape.ofLengths lengths = .ok shape ∧
        (c.stop ≠ .zeroWeight → x.residual.length = shape.cellCount ∧
          ∀ cell < shape.cellCount, ∃ (coords : List Nat) (slots : Nat → Nat),
            shape.decode cell = some coords ∧
            (∀ d < shape.rank, shape.surfaceIndex? d coords = some (slots d) ∧
              shape.offset d ≤ slots d ∧ slots d - shape.offset d < (x.marginal d).length) ∧
            scores.getD cell 0 = x.residual.getD cell 0 + x.intercept +
              ∑ d ∈ Finset.range shape.rank,
                (x.marginal d).getD (slots d - shape.offset d) 0) ∧
        (c.stop = .zeroWeight →
          x.residual = scores.toList.take shape.cellCount ∧ x.intercept = 0)) := by
  constructor
  · intro fuel limit call shape weights field report c admitted answered purified swept
    obtain ⟨scores, impurities, hscores, himpurities, cells, lines, parts⟩ :=
      Call.score_eq_of_purified admitted answered purified swept
    refine ⟨scores, impurities, hscores, himpurities, cells, lines, fun cell hc => ?_⟩
    obtain ⟨coords, decoded, named⟩ := shape.exists_slots hc
    exact ⟨coords, (shape.slot · cell), decoded, named, parts cell hc⟩
  · intro fuel s s' lengths weights scores x c answered purified
    obtain ⟨shape, result, h⟩ := Session.ofRun_of_decompose answered purified
    refine ⟨shape, h.made, fun swept => ?_, fun weightless => ?_⟩
    · obtain ⟨all, parts⟩ := h.score_eq swept
      refine ⟨all, fun cell hc => ?_⟩
      obtain ⟨coords, decoded, named⟩ := shape.exists_slots hc
      obtain ⟨inside, whole⟩ := parts cell hc
      refine ⟨coords, (shape.slot · cell), decoded, fun d hd => ⟨(named d hd).1,
        Nat.le_add_right _ _, ?_⟩, ?_⟩
      · rw [Shape.slot_sub_offset]
        exact inside d hd
      · simp only [Shape.slot_sub_offset]
        exact whole
    · rcases h.weightless_or_swept with ⟨-, kept⟩ | ⟨n, run⟩
      · exact kept
      · exact absurd (h.convergence_eq ▸ weightless) run.stop_ne

/-- A square of cells, two along each dimension. -/
def Shape.square : Shape := ⟨[2, 2], Shape.representable_of_fault?_eq_none (by decide)⟩

/-- The weights of a square that weighs most on one diagonal. -/
def diagonal : Array ℚ := #[9, 1, 1, 9]

/-- A table on that square, with an intercept to be taken out. -/
def Call.uneven : Call ℚ :=
  { tolerance := 0
    dimensionCount := 2
    lengths := some #[2, 2]
    weights := some diagonal
    scores := some #[2, -8, 10, 0]
    impurities := some #[0, 0, 0, 0]
    intercept := some 0 }

/-- A session under the standard settings that tells nobody. -/
def Session.silent : Session ℚ :=
  { config := { tolerance := 0, maxPasses := none, extractIntercept := true }
    observer := { sink := .silent } }

theorem Call.admission_uneven :
    uneven.admission = .ok (.table .square diagonal ⟨#[2, -8, 10, 0], #[0, 0, 0, 0]⟩) := rfl

/-- One pass over that table, and decompositions of it under the standard settings: as it
    is, and without any weight. -/
theorem score_eq_parts_uneven :
    (∃ report scores impurities, Call.uneven.purify 1 (some 1) = some report ∧
      report.scores = some scores ∧ report.impurities = some impurities ∧
      ∃ slots : Nat → Nat, (∀ d < 2, Shape.square.surfaceIndex? d [0, 1] = some (slots d)) ∧
        (10 : ℚ) = scores.getD 2 0 + report.intercept.getD 0 +
          ∑ d ∈ Finset.range 2, impurities.getD (slots d) 0) ∧
    (∃ x s', Session.silent.decompose 2 [2, 2] diagonal #[2, -8, 10, 0] = some (.ok x, s') ∧
      ∃ slots : Nat → Nat, (∀ d < 2, Shape.square.surfaceIndex? d [0, 1] = some (slots d)) ∧
        (10 : ℚ) = x.residual.getD 2 0 + x.intercept +
          ∑ d ∈ Finset.range 2, (x.marginal d).getD (slots d - Shape.square.offset d) 0) ∧
    ∃ x s', Session.silent.decompose 0 [2, 2] #[0, 0, 0, 0] #[2, -8, 10, 0, 7] =
      some (.ok x, s') ∧ x.residual = [2, -8, 10, 0] ∧ x.intercept = 0 := by
  have third : Shape.square.decode 2 = some [0, 1] := by decide
  refine ⟨?_, ?_, ?_⟩
  · have limited : ((Call.uneven.purify 1 (some 1)).map fun report =>
        report.result.toOption.bind (·.stop?)) = some (some .passLimit) := by decide +kernel
    obtain ⟨report, c, answered, purified, stop⟩ := Call.exists_of_purify limited
    obtain ⟨scores, impurities, hscores, himpurities, -, -, parts⟩ := score_eq_parts.1 1 (some 1)
      Call.uneven .square diagonal _ report c Call.admission_uneven answered purified
      (by rw [stop]; decide)
    obtain ⟨coords, slots, decoded, named, whole⟩ := parts 2 (by decide)
    obtain rfl := Option.some.inj (third.symm.trans decoded)
    exact ⟨report, scores, impurities, answered, hscores, himpurities, slots,
      fun d hd => (named d hd).1, whole⟩
  · have stalled : ((Session.silent.decompose 2 [2, 2] diagonal #[2, -8, 10, 0]).map
        fun answer => answer.1.toOption.bind (·.outcome.stop?)) = some (some .plateau) := by
      decide +kernel
    obtain ⟨x, s', c, answered, purified, stop⟩ := Session.exists_of_decompose stalled
    obtain ⟨shape, made, parts, -⟩ := score_eq_parts.2 2 _ s' [2, 2] diagonal
      #[2, -8, 10, 0] x c answered purified
    cases made
    obtain ⟨-, parts⟩ := parts (by rw [stop]; decide)
    obtain ⟨coords, slots, decoded, named, whole⟩ := parts 2 (by decide)
    obtain rfl := Option.some.inj (third.symm.trans decoded)
    exact ⟨x, s', answered, slots, fun d hd => (named d hd).1, whole⟩
  · have weightless : ((Session.silent.decompose 0 [2, 2] #[0, 0, 0, 0] #[2, -8, 10, 0, 7]).map
        fun answer => answer.1.toOption.bind (·.outcome.stop?)) = some (some .zeroWeight) := by
      decide +kernel
    obtain ⟨x, s', c, answered, purified, stop⟩ := Session.exists_of_decompose weightless
    obtain ⟨shape, made, -, parts⟩ := score_eq_parts.2 0 _ s' [2, 2] #[0, 0, 0, 0]
      #[2, -8, 10, 0, 7] x c answered purified
    cases made
    exact ⟨x, s', answered, parts stop⟩

end Purification
