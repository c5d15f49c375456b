import Purification.Proofs.Call.Prefix
import Purification.Proofs.Exact.Rescaling
import Purification.Proofs.Shape.Numbering

/-! # What has no weight

A cell without weight is swept with the lines it lies on, but no mean is read off it. So tables
that differ in the scores of such cells only go through the same means, and what they differ in
stays as it was. A line whose weights add up to 0 has a mean of 0, so nothing gets into its slot.
-/

namespace Purification

/-- The scores differ on cells of the table that have no weight, and nowhere else. -/
structure Shape.DifferUnweighed (s : Shape) (weights scores scores' : Array ℚ) : Prop where
  size_eq : scores'.size = scores.size
  same : ∀ i, ¬(i < s.cellCount ∧ weights.getD i 0 = 0) → scores'[i]? = scores[i]?

namespace Shape.DifferUnweighed

variable {s : Shape} {weights scores scores' finals finals' : Array ℚ}
  (differ : s.DifferUnweighed weights scores scores')

include differ

theorem rescales :
    s.Rescales weights 1 (fun i => scores'.getD i 0 - scores.getD i 0) scores scores' where
  weightless cell hc := by
    by_cases zero : weights.getD cell 0 = 0
    · rw [zero, zero_mul]
    · have same := differ.same cell fun weightless => zero weightless.2
      rw [Array.getD_eq_getD_getElem?, Array.getD_eq_getD_getElem?, Array.getD_eq_getD_getElem?,
        same, sub_self, mul_zero]
  score_eq i := by
    by_cases inside : i < scores.size
    · have inside' : i < scores'.size := differ.size_eq.symm ▸ inside
      simp [Array.getD, inside, inside']
    · have outside : scores'.size ≤ i := differ.size_eq.symm ▸ Nat.le_of_not_lt inside
      simp [Array.getElem?_eq_none outside, Array.getElem?_eq_none (Nat.le_of_not_lt inside)]

theorem of_rescales (kept : s.Rescales weights 1 (fun i => scores'.getD i 0 - scores.getD i 0)
    finals finals') : s.DifferUnweighed weights finals finals' where
  size_eq := kept.size_eq
  same i weighty := by
    have still : scores'.getD i 0 - scores.getD i 0 = 0 := by
      rw [Array.getD_eq_getD_getElem?, Array.getD_eq_getD_getElem?, differ.same i weighty, sub_self]
    rw [kept.score_eq, still]
    simp only [one_mul, add_zero, Option.map_id_fun', id]

theorem sub_eq_of_rescales (size : finals.size = scores.size)
    (kept : s.Rescales weights 1 (fun i => scores'.getD i 0 - scores.getD i 0) finals finals')
    (i : Nat) : finals'.getD i 0 - finals.getD i 0 = scores'.getD i 0 - scores.getD i 0 := by
  by_cases inside : i < scores.size
  · have inside' : i < finals.size := size.symm ▸ inside
    have held : finals[i]? = some finals[i] := Array.getElem?_eq_getElem inside'
    have held' := kept.score_eq i
    rw [held, Option.map_some] at held'
    rw [Array.getD_eq_getD_getElem?, Array.getD_eq_getD_getElem?, held', held, Option.getD_some,
      Option.getD_some]
    ring
  · have beyond : scores.size ≤ i := Nat.le_of_not_lt inside
    have outside : ∀ values : Array ℚ, values.size = scores.size → values.getD i 0 = 0 := by
      intro values same
      rw [Array.getD_eq_getD_getElem?, Array.getElem?_eq_none (same.trans_le beyond),
        Option.getD_none]
    rw [outside finals' (kept.size_eq.trans size), outside finals size,
      outside scores' differ.size_eq, outside scores rfl]

end Shape.DifferUnweighed

/-! ## Lines without weight -/

/-- No slot of a line without weight holds anything. -/
def Field.Unburdened (f : Field ℚ) (s : Shape) (weights : Array ℚ) : Prop :=
  ∀ numbered ∈ s.lines, numbered.2.mass weights = 0 → f.impurities[numbered.1]? = some 0

namespace Field.Unburdened

variable {s : Shape} {f : Field ℚ} {weights : Array ℚ}

theorem remove (h : f.Unburdened s weights) {slot : Nat} {line : Line}
    (member : (slot, line) ∈ s.lines) :
    (f.remove slot line (line.mean weights f.scores)).Unburdened s weights := by
  rintro ⟨slot', line'⟩ member' weightless
  have before := h _ member' weightless
  rw [Field.remove, Array.getElem?_modify]
  split
  · rename_i here
    -- the slot is that of one line only, and this one has no mean
    obtain rfl : slot = slot' := here
    obtain rfl : line' = line := Option.some.inj <|
      (Shape.line?_eq_some_iff.2 member').symm.trans (Shape.line?_eq_some_iff.2 member)
    rw [before, Line.mean_eq, weightless, div_zero, Option.map_some, add_zero]
  · exact before

theorem opening (covers : f.Covers s) (intercept : Option ℚ) :
    (f.opening s weights intercept).Unburdened s weights := by
  rintro ⟨slot, line⟩ member -
  have inside := Shape.slot_lt_of_mem_lines member
  have bound : slot < f.impurities.size := Nat.lt_of_lt_of_le inside covers.lines
  simp [Field.opening, Sweep.mapFirst, inside, bound]

end Field.Unburdened

theorem Sweep.Swept.unburdened {s : Shape} {tolerance : ℚ} {limit : Option Nat}
    {weights : Array ℚ} {field : Field ℚ} {intercept : Option ℚ} {n : Nat} {result : Result ℚ}
    (h : Swept s tolerance limit weights field intercept n result) (covers : field.Covers s) :
    result.field.Unburdened s weights := by
  have start : (field.opening s weights intercept).Unburdened s weights :=
    .opening covers intercept
  rw [h.field_eq]
  refine Setting.after_preserves (P := fun f => f.Unburdened s weights) ?_ start (n + 1)
  intro f slot line member before
  exact before.remove member

/-! ## Two runs -/

theorem Sweep.run_unweighed {s : Shape} {weights scores' : Array ℚ} {field : Field ℚ}
    (covers : field.Covers s) (weightsLe : s.cellCount ≤ weights.size)
    (differ : s.DifferUnweighed weights field.scores scores') (fuel : Nat) (tolerance : ℚ)
    (limit : Option Nat) (intercept : Option ℚ) :
    Option.Rel (fun result result' : Result ℚ =>
        result'.convergence = result.convergence ∧
          s.Rescales weights 1 (fun i => scores'.getD i 0 - field.scores.getD i 0)
            result.field.scores result'.field.scores ∧
          result.field.scores.size = field.scores.size ∧
          result'.field.impurities = result.field.impurities ∧
          result'.intercept = result.intercept)
      (run fuel s tolerance limit weights field intercept)
      (run fuel s tolerance limit weights ⟨scores', field.impurities⟩ intercept) := by
  cases weighty : Scalar.isZero (s.totals weights field.scores).weight with
  | true =>
      have weighty' : Scalar.isZero (s.totals weights scores').weight = true := by
        rw [differ.rescales.totals_eq weightsLe covers.cells]
        exact weighty
      rw [run_of_isZero fuel weighty, run_of_isZero fuel weighty']
      exact .some ⟨rfl, differ.rescales, rfl, rfl, rfl⟩
  | false =>
      have runs := run_rescaled one_ne_zero covers weightsLe differ.rescales weighty fuel tolerance
        limit intercept
      generalize ran : run fuel s tolerance limit weights field intercept = first at runs ⊢
      generalize ran' : run fuel s tolerance limit weights _ intercept = second at runs ⊢
      cases runs with
      | none => exact .none
      | @some result result' rescaled =>
          obtain ⟨ended, last, taken⟩ := rescaled
          simp only [abs_one, one_mul] at ended taken
          refine .some ⟨ended, last.scores, (size_of_run ran).1, ?_, ?_⟩
          · -- no pass writes the slots beyond those of the lines
            apply Array.ext_getElem?
            intro slot
            by_cases inside : slot < s.lineCount
            · simp only [last.impurities slot inside, one_mul, Option.map_id_fun', id]
            · have beyond := Nat.le_of_not_lt inside
              rw [← (spares_of_run ran).impurities slot beyond,
                ← (spares_of_run ran').impurities slot beyond]
          · rw [taken]
            exact Option.map_id' ..

/-- The second report is that of a call whose scores differed on cells without weight. It differs
    in the scores of these cells only, and there by as much as the scores of the calls did. -/
structure Report.DiffersUnweighed (s : Shape) (weights scores scores' : Array ℚ)
    (report report' : Report ℚ) : Prop where
  intercept_eq : report'.intercept = report.intercept
  left : ∃ ended last last', report.Leaves ended last ∧ report'.Leaves ended last' ∧
    last'.impurities = last.impurities ∧ s.DifferUnweighed weights last.scores last'.scores ∧
    ∀ cell, last'.scores.getD cell 0 - last.scores.getD cell 0 =
      scores'.getD cell 0 - scores.getD cell 0

/-- What has no weight is inert. Other scores on cells without weight change nothing in how a call
    ends and what it leaves, except that these cells end with other scores too, as far from the
    first ones as they were. A sweep takes nothing out of a line whose weights add up to 0. -/
theorem weightless_inert {call : Call ℚ} {shape : Shape} {weights : Array ℚ} {field : Field ℚ}
    (admitted : call.admission = .ok (.table shape weights field)) (fuel : Nat)
    (limit : Option Nat) :
    (∀ scores', shape.DifferUnweighed weights field.scores scores' →
      Option.Rel (Report.DiffersUnweighed shape weights field.scores scores')
        (call.purify fuel limit) ((call.rescored scores').purify fuel limit)) ∧
    ∀ report c, call.purify fuel limit = some report → report.result = .ok (.purified c) →
      c.stop ≠ .zeroWeight → ∃ impurities, report.impurities = some impurities ∧
        ∀ numbered ∈ shape.lines, numbered.2.mass weights = 0 →
          impurities[numbered.1]? = some 0 := by
  have holds := (Call.admits_of_admission admitted).toHolds
  constructor
  · intro scores' differ
    have admitted' := Call.admission_rescored admitted (differ.size_eq.symm ▸ holds.covers.cells)
    refine Call.rel_purify admitted admitted'
      (Sweep.run_unweighed holds.covers holds.weights_le differ fuel call.tolerance limit
        (call.intercept.map fun _ => 0)) ?_
    rintro result result' report report' ⟨ended, kept, size, slots, taken⟩ tells tells'
    refine ⟨?_, result.convergence, result.field, result'.field, tells.leaves,
      ended ▸ tells'.leaves, slots, differ.of_rescales kept, differ.sub_eq_of_rescales size kept⟩
    rw [tells.intercept_eq, tells'.intercept_eq, taken]
  · intro report c answered purified swept
    obtain ⟨n, -, result, ran, -, leaves, -⟩ :=
      Call.swept_of_stop_ne admitted answered purified swept
    exact ⟨_, leaves.impurities_eq, ran.unburdened holds.covers⟩

def Shape.oblong : Shape := ⟨[3, 2], Shape.representable_of_fault?_eq_none (by decide)⟩

/-- The weights of the uneven square, with a column without weight in between. -/
def patches : Array ℚ := #[9, 0, 1, 1, 0, 9]

def Call.patchy : Call ℚ :=
  { Call.uneven with
    lengths := some #[3, 2]
    weights := some patches
    scores := some #[2, 7, -8, 10, 5, 0]
    impurities := some #[4, 4, 4, 4, 4] }

theorem Call.admission_patchy :
    patchy.admission = .ok (.table .oblong patches ⟨#[2, 7, -8, 10, 5, 0], #[4, 4, 4, 4, 4]⟩) := rfl

theorem Shape.differUnweighed_patches :
    oblong.DifferUnweighed patches #[2, 7, -8, 10, 5, 0] #[2, 100, -8, 10, -5, 0] where
  size_eq := rfl
  same i weighty := by
    match i, weighty with
    | 0, _ | 2, _ | 3, _ | 5, _ => rfl
    | 1, weighty | 4, weighty => exact absurd ⟨by decide, by decide +kernel⟩ weighty
    | _ + 6, _ => rfl

/-- That call, and the same with other scores in the column without weight: both of them stop on
    the plateau of the uneven square, and neither leaves anything in the slot of the column. -/
theorem weightless_inert_patchy :
    ∃ report report' c impurities, Call.patchy.purify 2 none = some report ∧
      (Call.patchy.rescored #[2, 100, -8, 10, -5, 0]).purify 2 none = some report' ∧
      Report.DiffersUnweighed .oblong patches #[2, 7, -8, 10, 5, 0] #[2, 100, -8, 10, -5, 0]
        report report' ∧
      report.result = .ok (.purified c) ∧ c.stop = .plateau ∧
      report.impurities = some impurities ∧ impurities[3]? = some 0 := by
  have stalled : ((Call.patchy.purify 2 none).map fun report =>
      report.result.toOption.bind (·.stop?)) = some (some .plateau) := by decide +kernel
  obtain ⟨report, c, answered, purified, plateau⟩ := Call.exists_of_purify stalled
  obtain ⟨differs, empty⟩ := weightless_inert Call.admission_patchy 2 none
  have reports := differs _ Shape.differUnweighed_patches
  obtain ⟨impurities, himpurities, lines⟩ := empty report c answered purified (plateau ▸ nofun)
  have column := lines (3, ⟨1, 1, 3, 2⟩) (by decide) (by decide +kernel)
  rw [answered] at reports
  generalize (Call.patchy.rescored _).purify 2 none = second at reports ⊢
  cases reports with
  | some differs =>
      exact ⟨report, _, c, impurities, answered, rfl, differs, purified, plateau, himpurities,
        column⟩

end Purification
