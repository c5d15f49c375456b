import Mathlib.Logic.Equiv.Fin.Rotate
import Purification.Proofs.Exact.Weightless
import Purification.Proofs.Shape.Relabelling
import Purification.Proofs.Sweep.Block

/-! # Tables with relabelled bins

If the bins of each axis are numbered in another order, the cells and lines of a table are visited
in another order too. Within a dimension that makes no difference: each line is swept with the mean
that it had before any of them was, and a tally of exact numbers does not depend on their order. So
both tables go through the same means, and what is left differs by the new numbers only.
-/

namespace Purification

namespace Shape

/-- The second values are the first ones, each at the cell that its own has been moved to. -/
def Carries (s : Shape) (move : Nat → Nat) (values values' : Nat → ℚ) : Prop :=
  ∀ cell < s.cellCount, values' (move cell) = values cell

namespace Rearranges

variable {s : Shape} {move : Nat → Nat} {d cell : Nat} {weights weights' : Array ℚ}
  {values values' : Nat → ℚ} (h : s.Rearranges move)

include h

theorem sum_eq (carried : s.Carries move values values') :
    ∑ cell ∈ Finset.range s.cellCount, values' cell =
      ∑ cell ∈ Finset.range s.cellCount, values cell := by
  symm
  refine Finset.sum_nbij move ?_ ?_ ?_ ?_
  · intro cell hc
    exact Finset.mem_range.2 (h.cell_lt cell (Finset.mem_range.1 hc))
  · intro cell hc cell' hc'
    exact h.injective cell (Finset.mem_range.1 hc) cell' (Finset.mem_range.1 hc')
  · intro cell hc
    obtain ⟨cell', hc', same⟩ := h.exists_move_eq (Finset.mem_range.1 hc)
    exact ⟨cell', Finset.mem_coe.2 (Finset.mem_range.2 hc'), same⟩
  · intro cell hc
    exact (carried cell (Finset.mem_range.1 hc)).symm

section

variable (weighed : s.Carries move (weights.getD · 0) (weights'.getD · 0))

include weighed

theorem weigh_eq (carried : s.Carries move values values') :
    s.weigh weights' values' = s.weigh weights values :=
  h.sum_eq fun cell hc => congrArg₂ (· * ·) (weighed cell hc) (carried cell hc)

theorem weigh_line_eq (hd : d < s.rank) (hc : cell < s.cellCount)
    (carried : s.Carries move values values') :
    (s.lineAt d (s.surface d (move cell))).weigh weights' values' =
      (s.lineAt d (s.surface d cell)).weigh weights values := by
  rw [← weigh_line (slot_mem_lines hd (h.cell_lt cell hc)), ← weigh_line (slot_mem_lines hd hc)]
  apply h.weigh_eq weighed
  intro other ho
  simp only [mem_lineAt_iff, h.surface_iff d hd other ho cell hc, carried other ho]

theorem mean_eq (hd : d < s.rank) (hc : cell < s.cellCount) {scores scores' : Array ℚ}
    (carried : s.Carries move (scores.getD · 0) (scores'.getD · 0)) :
    (s.lineAt d (s.surface d (move cell))).mean weights' scores' =
      (s.lineAt d (s.surface d cell)).mean weights scores := by
  rw [Line.mean_eq, Line.mean_eq, Line.mass, Line.mass, h.weigh_line_eq weighed hd hc carried,
    h.weigh_line_eq weighed hd hc fun _ _ => rfl]

theorem totals_eq {scores scores' : Array ℚ} (weightsLe : s.cellCount ≤ weights.size)
    (weightsLe' : s.cellCount ≤ weights'.size) (scoresLe : s.cellCount ≤ scores.size)
    (scoresLe' : s.cellCount ≤ scores'.size)
    (carried : s.Carries move (scores.getD · 0) (scores'.getD · 0)) :
    s.totals weights' scores' = s.totals weights scores := by
  have magnitudes : s.Carries move (fun cell => |scores.getD cell 0 * weights.getD cell 0|)
      fun cell => |scores'.getD cell 0 * weights'.getD cell 0| := by
    intro cell hc
    exact congrArg abs (congrArg₂ (· * ·) (carried cell hc) (weighed cell hc))
  rw [Shape.totals_eq weightsLe' scoresLe', Shape.totals_eq weightsLe scoresLe,
    h.weigh_eq weighed carried, h.weigh_eq weighed fun _ _ => rfl, h.sum_eq magnitudes]

theorem means_perm (hd : d < s.rank) {scores scores' : Array ℚ}
    (carried : s.Carries move (scores.getD · 0) (scores'.getD · 0)) :
    ((List.range (s.linesAlong d)).map fun i => (s.lineAt d i).mean weights scores).Perm
      ((List.range (s.linesAlong d)).map fun i => (s.lineAt d i).mean weights' scores') := by
  have same : ((List.range (s.linesAlong d)).map fun i => (s.lineAt d i).mean weights scores) =
      ((List.range (s.linesAlong d)).map (s.movedSurface move d)).map fun i =>
        (s.lineAt d i).mean weights' scores' := by
    rw [List.map_map]
    apply List.map_congr_left
    intro i inside
    have first := start_lt hd (List.mem_range.1 inside)
    have mean := h.mean_eq weighed hd first carried
    rw [surface_of_mem start_mem] at mean
    exact mean.symm
  rw [same]
  exact (h.lines_perm hd).map _

end

end Rearranges

end Shape

/-! ## The order of a tally -/

theorem Tally.note_right_comm (threshold : ℚ) (t : Tally ℚ) (mean mean' : ℚ) :
    (t.note threshold mean).note threshold mean' =
      (t.note threshold mean').note threshold mean := by
  simp only [note, add_right_comm, Bool.or_right_comm]

theorem Tally.foldl_note_perm {means means' : List ℚ} (same : means.Perm means') (threshold : ℚ)
    (t : Tally ℚ) : means.foldl (·.note threshold ·) t = means'.foldl (·.note threshold ·) t :=
  same.foldl_eq' (fun mean _ mean' _ t => t.note_right_comm threshold mean mean') t

/-! ## A pass -/

/-- The second field is the first one with its cells and its lines moved. -/
structure Field.Rearranged (s : Shape) (move : Nat → Nat) (f f' : Field ℚ) : Prop where
  covers : f.Covers s
  covers' : f'.Covers s
  scores : ∀ cell < s.cellCount, f'.scores.getD (move cell) 0 = f.scores.getD cell 0
  impurities : ∀ d < s.rank, ∀ cell < s.cellCount,
    f'.impurities.getD (s.slot d (move cell)) 0 = f.impurities.getD (s.slot d cell) 0

namespace Field.Rearranged

variable {s : Shape} {move : Nat → Nat} {f f' : Field ℚ} {weights weights' : Array ℚ}
  {threshold : ℚ} (rearranges : s.Rearranges move)
  (weighed : s.Carries move (weights.getD · 0) (weights'.getD · 0))

include rearranges weighed

theorem block (h : Rearranged s move f f') {d : Nat} (hd : d < s.rank) (t : Tally ℚ) :
    Rearranged s move ((s.linesOf d).foldl (centre weights threshold) (f, t)).1
        ((s.linesOf d).foldl (centre weights' threshold) (f', t)).1 ∧
      ((s.linesOf d).foldl (centre weights' threshold) (f', t)).2 =
        ((s.linesOf d).foldl (centre weights threshold) (f, t)).2 := by
  refine ⟨⟨h.covers.foldl_centre t, h.covers'.foldl_centre t, ?_, ?_⟩, ?_⟩
  · intro cell hc
    have hc' := rearranges.cell_lt cell hc
    rw [getD_scores_block h.covers hd hc, getD_scores_block h.covers' hd hc',
      rearranges.mean_eq weighed hd hc h.scores, h.scores cell hc]
  · intro e he cell hc
    have hc' := rearranges.cell_lt cell hc
    by_cases here : e = d
    · subst here
      rw [getD_impurities_block h.covers he hc, getD_impurities_block h.covers' he hc',
        rearranges.mean_eq weighed he hc h.scores, h.impurities e he cell hc]
    · rw [getD_impurities_block_of_ne hd he here hc,
        getD_impurities_block_of_ne hd he here hc', h.impurities e he cell hc]
  · rw [tally_block, tally_block]
    exact (Tally.foldl_note_perm (rearranges.means_perm weighed hd h.scores) threshold t).symm

theorem blocks (h : Rearranged s move f f') (t : Tally ℚ) {n : Nat} (within : n ≤ s.rank) :
    Rearranged s move
        (((List.range n).flatMap s.linesOf).foldl (centre weights threshold) (f, t)).1
        (((List.range n).flatMap s.linesOf).foldl (centre weights' threshold) (f', t)).1 ∧
      (((List.range n).flatMap s.linesOf).foldl (centre weights' threshold) (f', t)).2 =
        (((List.range n).flatMap s.linesOf).foldl (centre weights threshold) (f, t)).2 := by
  induction n with
  | zero => exact ⟨h, rfl⟩
  | succ n ih =>
      obtain ⟨before, tallied⟩ := ih (Nat.le_of_succ_le within)
      rw [Shape.flatMap_linesOf_succ, List.foldl_append, List.foldl_append]
      generalize List.foldl (centre weights threshold) (f, t) _ = swept at before tallied ⊢
      generalize List.foldl (centre weights' threshold) (f', t) _ = swept' at before tallied ⊢
      obtain ⟨g, t⟩ := swept
      obtain ⟨g', t'⟩ := swept'
      obtain rfl : t' = t := tallied
      exact before.block rearranges weighed within t'

theorem pass (h : Rearranged s move f f') :
    Rearranged s move (f.pass weights threshold s.lines).1
        (f'.pass weights' threshold s.lines).1 ∧
      (f'.pass weights' threshold s.lines).2 = (f.pass weights threshold s.lines).2 :=
  h.blocks rearranges weighed Tally.start (Nat.le_refl _)

theorem opening (covers : f.Covers s) (covers' : f'.Covers s)
    (weightsLe : s.cellCount ≤ weights.size) (weightsLe' : s.cellCount ≤ weights'.size)
    (carried : s.Carries move (f.scores.getD · 0) (f'.scores.getD · 0)) (intercept : Option ℚ) :
    Rearranged s move (f.opening s weights intercept) (f'.opening s weights' intercept) where
  covers := covers.opening weights intercept
  covers' := covers'.opening weights' intercept
  scores cell hc := by
    cases intercept with
    | none => exact carried cell hc
    | some _ =>
        have hc' := rearranges.cell_lt cell hc
        have same : f'.scores.getD (move cell) 0 = f.scores.getD cell 0 := carried cell hc
        simp only [Field.opening, rearranges.totals_eq weighed weightsLe weightsLe' covers.cells
          covers'.cells carried]
        rw [Sweep.getD_mapFirst _ hc' (Nat.lt_of_lt_of_le hc' covers'.cells),
          Sweep.getD_mapFirst _ hc (Nat.lt_of_lt_of_le hc covers.cells), same]
  impurities d hd cell hc := by
    have slot := Shape.slot_lt hd hc
    have slot' := Shape.slot_lt hd (rearranges.cell_lt cell hc)
    simp only [Field.opening]
    rw [Sweep.getD_mapFirst _ slot' (Nat.lt_of_lt_of_le slot' covers'.lines),
      Sweep.getD_mapFirst _ slot (Nat.lt_of_lt_of_le slot covers.lines)]

end Field.Rearranged

/-! ## A run -/

theorem Sweep.run_rearranged {s : Shape} {move : Nat → Nat} {weights weights' : Array ℚ}
    {field field' : Field ℚ} (rearranges : s.Rearranges move)
    (weighed : s.Carries move (weights.getD · 0) (weights'.getD · 0))
    (carried : s.Carries move (field.scores.getD · 0) (field'.scores.getD · 0))
    (covers : field.Covers s) (covers' : field'.Covers s)
    (weightsLe : s.cellCount ≤ weights.size) (weightsLe' : s.cellCount ≤ weights'.size)
    (weighty : Scalar.isZero (s.totals weights field.scores).weight = false) (fuel : Nat)
    (tolerance : ℚ) (limit : Option Nat) (intercept : Option ℚ) :
    Option.Rel (fun result result' : Result ℚ =>
        result'.convergence = result.convergence ∧
          Field.Rearranged s move result.field result'.field ∧
          result'.intercept = result.intercept)
      (run fuel s tolerance limit weights field intercept)
      (run fuel s tolerance limit weights' field' intercept) := by
  have totals := rearranges.totals_eq weighed weightsLe weightsLe' covers.cells covers'.cells
    carried
  have parallel : (s.setting tolerance limit weights field.scores).Parallel
      (s.setting tolerance limit weights' field'.scores) id (Field.Rearranged s move) := by
    refine ⟨rfl, ?_, Scalar.unnoticed_id, ?_⟩
    · simp only [Shape.setting, totals, id]
    · intro f f' related
      simp only [Shape.setting, totals]
      exact related.pass rearranges weighed
  have runs := run_parallel id weighty (totals ▸ weighty) parallel
    (.opening rearranges weighed covers covers' weightsLe weightsLe' carried intercept)
    (congrArg Totals.mean totals) fuel
  simpa only [Convergence.map_id, Option.map_id_fun, id] using runs

/-! ## A call -/

namespace Shape.Relabelling

variable {s : Shape} {p : s.Relabelling}

theorem Moves.carries {values values' : Array ℚ} (moved : p.Moves values values') :
    s.Carries p.place (values.getD · 0) (values'.getD · 0) := by
  intro cell hc
  simp only [Array.getD_eq_getD_getElem?, moves_iff.1 moved cell hc]

theorem moves_of_rearranged {f f' : Field ℚ} (h : Field.Rearranged s p.place f f') :
    p.Moves f.scores f'.scores ∧ p.MovesSlots f.impurities f'.impurities := by
  have entry : ∀ {values values' : Array ℚ} {i i' : Nat}, i < values.size → i' < values'.size →
      values'.getD i' 0 = values.getD i 0 → values'[i']? = values[i]? := by
    intro values values' i i' bound bound' same
    simpa [Array.getD, bound, bound'] using same
  constructor
  · refine moves_iff.2 fun cell hc => ?_
    exact entry (Nat.lt_of_lt_of_le hc h.covers.cells)
      (Nat.lt_of_lt_of_le p.place_lt h.covers'.cells) (h.scores cell hc)
  · refine movesSlots_iff.2 fun d hd cell hc => ?_
    exact entry (Nat.lt_of_lt_of_le (slot_lt hd hc) h.covers.lines)
      (Nat.lt_of_lt_of_le (slot_lt hd p.place_lt) h.covers'.lines) (h.impurities d hd cell hc)

end Shape.Relabelling

/-- The second report is that of a call whose weights and scores had been relabelled. -/
structure Report.Relabelled {s : Shape} (p : s.Relabelling) (report report' : Report ℚ) :
    Prop where
  intercept_eq : report'.intercept = report.intercept
  left : ∃ ended last last', report.Leaves ended last ∧ report'.Leaves ended last' ∧
    p.Moves last.scores last'.scores ∧ p.MovesSlots last.impurities last'.impurities

/-- The order of the bins does not matter. If the bins of each axis of a table with weight are
    numbered in another order, and its weights and scores are put in that order, the call ends as
    before with the same intercept; its scores are left in the new order, and what was in the slot
    of a line is in that of the line with the new coordinates. -/
theorem purify_relabelled {call : Call ℚ} {shape : Shape} {weights : Array ℚ} {field : Field ℚ}
    (admitted : call.admission = .ok (.table shape weights field))
    (weighty : (shape.weigh weights fun _ => 1) ≠ 0) (p : shape.Relabelling)
    {weights' scores' : Array ℚ} (weighed : p.Moves weights weights')
    (scored : p.Moves field.scores scores') (fuel : Nat) (limit : Option Nat) :
    Option.Rel (Report.Relabelled p) (call.purify fuel limit)
      (((call.reweighted weights').rescored scores').purify fuel limit) := by
  have holds := (Call.admits_of_admission admitted).toHolds
  have weightsLe := weighed.size_le holds.weights_le
  have covers' : Field.Covers ⟨scores', field.impurities⟩ shape :=
    ⟨scored.size_le holds.covers.cells, holds.covers.lines⟩
  have admitted' := Call.admission_rescored (Call.admission_reweighted admitted weightsLe)
    covers'.cells
  refine Call.rel_purify admitted admitted'
    (Sweep.run_rearranged p.rearranges weighed.carries scored.carries holds.covers covers'
      holds.weights_le weightsLe
      (Shape.isZero_totals_of_ne holds.weights_le holds.covers.cells weighty) fuel call.tolerance
      limit (call.intercept.map fun _ => 0)) ?_
  rintro result result' report report' ⟨ended, last, taken⟩ tells tells'
  obtain ⟨scores, slots⟩ := Shape.Relabelling.moves_of_rearranged last
  refine ⟨?_, result.convergence, result.field, result'.field, tells.leaves,
    ended ▸ tells'.leaves, scores, slots⟩
  rw [tells.intercept_eq, tells'.intercept_eq, taken]

/-- Every bin is numbered as the next one was, and the last one as the first. -/
def Shape.rotation (s : Shape) : s.Relabelling := fun d => finRotate (s.axis d)

/-- The table with a column without weight, rotated along both axes: it stops on its plateau all
    the same, and the slot of that column is that of the next one. -/
theorem purify_relabelled_patchy :
    ∃ report report' scores scores' slots slots', Call.patchy.purify 2 none = some report ∧
      ((Call.patchy.reweighted #[9, 1, 0, 1, 9, 0]).rescored #[0, 10, 5, -8, 2, 7]).purify 2 none =
        some report' ∧
      report.scores = some scores ∧ report'.scores = some scores' ∧
      report.impurities = some slots ∧ report'.impurities = some slots' ∧
      report'.result = report.result ∧ report'.intercept = some 1 ∧
      scores'[1]? = scores[3]? ∧ slots'[4]? = slots[3]? := by
  have weighed : Shape.oblong.rotation.Moves patches #[9, 1, 0, 1, 9, 0] :=
    Shape.Relabelling.moves_iff.2 (by decide +kernel)
  have scored : Shape.oblong.rotation.Moves (#[2, 7, -8, 10, 5, 0] : Array ℚ)
      #[0, 10, 5, -8, 2, 7] := Shape.Relabelling.moves_iff.2 (by decide +kernel)
  have answered : (Call.patchy.purify 2 none).map (·.intercept) = some (some 1) := by
    decide +kernel
  obtain ⟨report, answered, intercept⟩ := Option.map_eq_some_iff.1 answered
  have reports := purify_relabelled Call.admission_patchy (by decide +kernel) _ weighed scored 2
    none
  rw [answered] at reports
  generalize ((Call.patchy.reweighted _).rescored _).purify 2 none = second at reports ⊢
  cases reports with
  | @some _ report' relabelled =>
      obtain ⟨ended, last, last', leaves, leaves', moved, slots⟩ := relabelled.left
      refine ⟨report, report', last.scores, last'.scores, last.impurities, last'.impurities,
        answered, rfl, leaves.scores_eq, leaves'.scores_eq, leaves.impurities_eq,
        leaves'.impurities_eq, leaves'.result_eq.trans leaves.result_eq.symm,
        relabelled.intercept_eq.trans intercept, ?_, ?_⟩
      · exact Shape.Relabelling.moves_iff.1 moved 3 (by decide)
      · exact Shape.Relabelling.movesSlots_iff.1 slots 1 (by decide) 1 (by decide)

end Purification
