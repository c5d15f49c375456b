import Purification.Proofs.Exact.Stopping
import Purification.Proofs.Exact.Weightless
import Purification.Proofs.Sweep.Accumulation
import Purification.Proofs.Sweep.Simultaneous

/-! # Where the energy goes

The mean that is taken from a line is that of its scores just as they are, so centring a line is an
orthogonal projection, however the lines cross. A pass takes from the energy the weight of each line
times the square of the mean that it is met with, and nothing besides. Together the passes of a run
take no more than there was before the first of them.
-/

namespace Purification

namespace Sweep.Setting

/-- What the first `n` passes take from the energy. -/
def spent (g : Setting ℚ) (field : Field ℚ) (n : Nat) : ℚ :=
  ∑ m ∈ Finset.range n, (g.after field m).shed g.weights g.lines

section

variable {s : Shape} {g : Setting ℚ} {field : Field ℚ}
  (within : ∀ numbered ∈ g.lines, numbered ∈ s.lines) (bears : s.Bears g.weights)
  (covers : field.Covers s)

include within bears covers

theorem energy_eq_after_add_spent (n : Nat) :
    field.energy s g.weights = (g.after field n).energy s g.weights + g.spent field n := by
  induction n with
  | zero => exact (add_zero _).symm
  | succ n ih =>
      have pass : (g.after field n).energy s g.weights =
          (g.after field (n + 1)).energy s g.weights +
            (g.after field n).shed g.weights g.lines :=
        Field.energy_pass within bears (covers_after covers n) g.threshold
      have more : g.spent field (n + 1) =
          g.spent field n + (g.after field n).shed g.weights g.lines :=
        Finset.sum_range_succ _ n
      rw [ih, pass, more]
      ring

theorem spent_le (n : Nat) : g.spent field n ≤ field.energy s g.weights := by
  rw [energy_eq_after_add_spent within bears covers n]
  exact le_add_of_nonneg_left (Shape.energy_nonneg bears)

theorem antitone_energy_after : Antitone fun n => (g.after field n).energy s g.weights := by
  apply antitone_nat_of_succ_le
  intro n
  rw [Field.energy_pass within bears (covers_after covers n) g.threshold]
  exact le_add_of_nonneg_right (Field.shed_nonneg within bears)

theorem antitone_energy_reached (n : Nat) :
    Antitone fun k => (g.reached field n k).energy s g.weights := by
  apply antitone_nat_of_succ_le
  intro k
  have covers' : (g.reached field n k).Covers s := (covers_after covers n).foldl_centre _
  rw [reached, List.take_add_one, List.foldl_append]
  cases listed : g.lines[k]? with
  | none => exact le_refl _
  | some numbered =>
      exact Field.energy_remove_le covers' (within _ (List.mem_of_getElem? listed)) bears

end

end Sweep.Setting

/-! ## A run -/

/-- Taking the mean out does not raise the energy, also if there is no weight to take a mean by. -/
theorem Field.energy_opening_le_of_bears {s : Shape} {f : Field ℚ} {weights : Array ℚ}
    (bears : s.Bears weights) (weightsLe : s.cellCount ≤ weights.size) (covers : f.Covers s)
    (intercept : Option ℚ) :
    (f.opening s weights intercept).energy s weights ≤ f.energy s weights := by
  rcases bears.weight_nonneg.eq_or_lt with none | positive
  · rw [energy, energy, bears.energy_of_weightless none.symm, bears.energy_of_weightless none.symm]
  · exact energy_opening_le weightsLe positive covers intercept

theorem Call.energy_eq_of_purified {call : Call ℚ} {fuel : Nat} {limit : Option Nat} {shape : Shape}
    {weights : Array ℚ} {field : Field ℚ} {report : Report ℚ} {c : Convergence ℚ}
    (admitted : call.admission = .ok (.table shape weights field)) (bears : shape.Bears weights)
    (answered : call.purify fuel limit = some report)
    (purified : report.result = .ok (.purified c)) :
    let g := shape.setting call.tolerance limit weights field.scores
    let start := field.opening shape weights (call.intercept.map fun _ => 0)
    ∃ scores, report.scores = some scores ∧
      start.energy shape weights =
        shape.energy weights (scores.getD · 0) + g.spent start c.passes := by
  intro g start
  have holds := (Call.admits_of_admission admitted).toHolds
  have covers : start.Covers shape := holds.covers.opening weights _
  have balance : start.energy shape weights =
      (g.after start c.passes).energy shape weights + g.spent start c.passes :=
    Sweep.Setting.energy_eq_after_add_spent (g := g) (fun _ member => member) bears covers c.passes
  rcases bears.weight_nonneg.eq_or_lt with none | positive
  · -- no scores have energy here, so it does not matter that no pass was made
    obtain ⟨_, _, _, -, result, -, -, hscores, -⟩ := Call.run_of_purified answered purified
    have gone := bears.energy_of_weightless none.symm
    refine ⟨_, hscores, ?_⟩
    rw [balance, Field.energy, gone, gone]
  · obtain ⟨n, -, result, swept, rfl, leaves, -⟩ := Call.swept_of_purified admitted
      (Shape.isZero_totals holds.weights_le holds.covers.cells positive) answered purified
    have passes : result.convergence.passes = n + 1 := by
      rw [swept.convergence_eq]
      rfl
    refine ⟨_, leaves.scores_eq, ?_⟩
    rw [balance, swept.field_eq, passes]
    rfl

/-- Where the energy goes, with exact numbers and weights that are not negative. A pass moves the
    means that it meets, and what it takes from the energy is the weight of each line times the
    square of the mean of that line. So the energy does not rise when an intercept is taken out, nor
    with any line or pass of a run. The passes, however many, take no more than there was before the
    first of them, and a call leaves exactly the rest. -/
theorem energy_accounted :
    (∀ (shape : Shape) (weights : Array ℚ) (f : Field ℚ) (threshold : ℚ), shape.Bears weights →
      f.Covers shape →
      let met := f.means weights shape.lines
      f.pass weights threshold shape.lines =
        (f.removeAll (shape.lines.zip met), met.foldl (·.note threshold ·) Tally.start) ∧
      f.energy shape weights = (f.pass weights threshold shape.lines).1.energy shape weights +
        ((shape.lines.zip met).map fun ((_, line), mean) => line.mass weights * mean ^ 2).sum) ∧
    ∀ (call : Call ℚ) (limit : Option Nat) (shape : Shape) (weights : Array ℚ) (field : Field ℚ),
      call.admission = .ok (.table shape weights field) → shape.Bears weights →
      let g := shape.setting call.tolerance limit weights field.scores
      let start := field.opening shape weights (call.intercept.map fun _ => 0)
      start.energy shape weights ≤ field.energy shape weights ∧
      (∀ n, Antitone fun k => (g.reached start n k).energy shape weights) ∧
      (Antitone fun n => (g.after start n).energy shape weights) ∧
      (∀ n, g.spent start n ≤ start.energy shape weights) ∧
      ∀ fuel report c, call.purify fuel limit = some report → report.result = .ok (.purified c) →
        ∃ scores, report.scores = some scores ∧
          start.energy shape weights =
            shape.energy weights (scores.getD · 0) + g.spent start c.passes := by
  constructor
  · intro shape weights f threshold bears covers met
    refine ⟨Prod.ext (Field.foldl_centre_eq_removeAll threshold f shape.lines Tally.start)
      (Field.tally_foldl f shape.lines Tally.start), ?_⟩
    exact Field.energy_pass (fun _ member => member) bears covers threshold
  · intro call limit shape weights field admitted bears g start
    have holds := (Call.admits_of_admission admitted).toHolds
    have within : ∀ numbered ∈ g.lines, numbered ∈ shape.lines := fun _ member => member
    have covers : start.Covers shape := holds.covers.opening weights _
    exact ⟨Field.energy_opening_le_of_bears bears holds.weights_le holds.covers _,
      Sweep.Setting.antitone_energy_reached within bears covers,
      Sweep.Setting.antitone_energy_after within bears covers,
      Sweep.Setting.spent_le within bears covers,
      fun _ _ _ => Call.energy_eq_of_purified admitted bears⟩

theorem Shape.bears_patches : oblong.Bears patches := by
  unfold Bears
  decide +kernel

/-- The table with a column without weight, once its intercept is out. The first pass finds means on
    two of its five lines, each with a weight of 10, and none on the column. The second pass finds
    four, after which the call stops on its plateau. -/
theorem energy_accounted_patchy :
    let scores : Array ℚ := #[2, 7, -8, 10, 5, 0]
    let start := Field.opening ⟨scores, #[4, 4, 4, 4, 4]⟩ .oblong patches (some 0)
    let g := Shape.oblong.setting (0 : ℚ) none patches scores
    (start.means patches Shape.oblong.lines = [0, 0, 9 / 5, 0, -9 / 5] ∧
      180 = (start.pass patches 0 Shape.oblong.lines).1.energy .oblong patches +
        (10 * (9 / 5) ^ 2 + 10 * (-9 / 5) ^ 2)) ∧
    ∃ report left, Call.patchy.purify 2 none = some report ∧ report.scores = some left ∧
      180 = Shape.oblong.energy patches (left.getD · 0) + g.spent start 2 ∧
      g.spent start 2 = 415044 / 3125 := by
  intro scores start g
  have covers : start.Covers .oblong := ⟨by decide, by decide⟩
  have before : start.energy .oblong patches = 180 := by decide +kernel
  have met : start.means patches Shape.oblong.lines = [0, 0, 9 / 5, 0, -9 / 5] := by
    decide +kernel
  have taken : ((Shape.oblong.lines.zip [0, 0, 9 / 5, 0, -9 / 5]).map
      fun ((_, line), (mean : ℚ)) => line.mass patches * mean ^ 2).sum =
        10 * (9 / 5) ^ 2 + 10 * (-9 / 5) ^ 2 := by decide +kernel
  have stalled : ((Call.patchy.purify 2 none).map fun report =>
      report.result.toOption.bind (·.stop?)) = some (some .plateau) := by decide +kernel
  have twice : ((Call.patchy.purify 2 none).map fun report =>
      (report.result.toOption.bind (·.convergence?)).map (·.passes)) = some (some 2) := by
    decide +kernel
  obtain ⟨report, c, answered, purified, -⟩ := Call.exists_of_purify stalled
  simp only [answered, purified, Option.map_some, Option.some.injEq, Except.toOption,
    Option.bind_some, Outcome.convergence?] at twice
  obtain ⟨-, balance⟩ :=
    energy_accounted.1 .oblong patches start 0 Shape.bears_patches covers
  obtain ⟨-, -, -, -, leaves⟩ :=
    energy_accounted.2 Call.patchy none .oblong patches _ Call.admission_patchy Shape.bears_patches
  obtain ⟨left, hleft, rest⟩ := leaves 2 report c answered purified
  rw [before, met, taken] at balance
  rw [twice] at rest
  exact ⟨⟨met, balance⟩, report, left, answered, hleft, before.symm.trans rest, by decide +kernel⟩

end Purification
