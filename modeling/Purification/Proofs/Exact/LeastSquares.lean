import Purification.Proofs.Exact.Energy
import Purification.Proofs.Exact.Reconstruction

/-! # The converged residual

Without tolerance a sweep converges only when every line is centred, and then the scores
are orthogonal to everything that a constant and one value per line can make up. So they
are what is left of the table by the best such approximation in weighted least squares,
whichever way the sweep has come there.
-/

namespace Purification

/-- What is left of a score when a constant and one value for each line through its cell
    are taken out. -/
def Shape.remainder (s : Shape) (scores : Array ℚ) (constant : ℚ) (held : Nat → ℚ)
    (cell : Nat) : ℚ :=
  scores.getD cell 0 - constant - s.overlay held cell

/-! ## Sums of squares -/

namespace Shape

variable {s : Shape} {weights : Array ℚ} {value value' : Nat → ℚ}

/-- A step away from balanced values, along a constant and the lines, adds the square of
    its length. -/
theorem Balanced.energy_eq (balanced : s.Balanced weights value) (constant : ℚ)
    (held : Nat → ℚ)
    (apart : ∀ cell < s.cellCount, value' cell - value cell = constant + s.overlay held cell) :
    s.energy weights value' =
      s.energy weights value + s.energy weights fun cell => value' cell - value cell := by
  have across : s.weigh weights (fun cell => value cell * (value' cell - value cell)) = 0 := by
    have split : ∀ cell < s.cellCount, value cell * (value' cell - value cell) =
        constant * value cell + value cell * s.overlay held cell := by
      intro cell hc
      rw [apart cell hc]
      ring
    rw [weigh_congr split, weigh_add, weigh_mul_left, balanced.weigh_eq_zero,
      balanced.weigh_mul_overlay, mul_zero, add_zero]
  have square : ∀ cell < s.cellCount, value' cell ^ 2 = value cell ^ 2 +
      (2 * (value cell * (value' cell - value cell)) + (value' cell - value cell) ^ 2) := by
    intro cell _
    ring
  rw [energy, weigh_congr square, weigh_add, weigh_add, weigh_mul_left, across, mul_zero,
    zero_add]
  rfl

end Shape

theorem Shape.remainder_sub {s : Shape} {scores : Array ℚ} {constant constant' : ℚ}
    {held held' : Nat → ℚ} (cell : Nat) :
    s.remainder scores constant' held' cell - s.remainder scores constant held cell =
      (constant - constant') + s.overlay (fun i => held i - held' i) cell := by
  rw [Shape.overlay_sub, Shape.remainder, Shape.remainder]
  ring

/-- Balanced values that are left of a table by some constant and values per line. -/
structure Shape.IsResidual (s : Shape) (weights scores : Array ℚ) (value : Nat → ℚ) : Prop where
  balanced : s.Balanced weights value
  left : ∃ constant held, ∀ cell < s.cellCount, value cell = s.remainder scores constant held cell

namespace Shape.IsResidual

variable {s : Shape} {weights scores : Array ℚ} {value value' : Nat → ℚ}

theorem apart (h : s.IsResidual weights scores value) (constant : ℚ) (held : Nat → ℚ) :
    ∃ constant' held', ∀ cell < s.cellCount,
      s.remainder scores constant held cell - value cell = constant' + s.overlay held' cell := by
  obtain ⟨taken, slots, left⟩ := h.left
  refine ⟨taken - constant, fun i => slots i - held i, fun cell hc => ?_⟩
  rw [left cell hc, remainder_sub]

theorem energy_le (h : s.IsResidual weights scores value) (bears : s.Bears weights)
    (constant : ℚ) (held : Nat → ℚ) :
    s.energy weights value ≤ s.energy weights (s.remainder scores constant held) := by
  obtain ⟨constant', held', apart⟩ := h.apart constant held
  rw [h.balanced.energy_eq constant' held' apart]
  exact le_add_of_nonneg_right (energy_nonneg bears)

theorem eq_of_energy_eq (h : s.IsResidual weights scores value) (bears : s.Bears weights)
    {constant : ℚ} {held : Nat → ℚ}
    (same : s.energy weights value = s.energy weights (s.remainder scores constant held))
    {cell : Nat} (hc : cell < s.cellCount) (weighty : 0 < weights.getD cell 0) :
    s.remainder scores constant held cell = value cell := by
  obtain ⟨constant', held', apart⟩ := h.apart constant held
  rw [h.balanced.energy_eq constant' held' apart] at same
  have zero := left_eq_add.1 same
  exact sub_eq_zero.1 (eq_zero_of_energy_eq_zero bears zero hc weighty)

theorem unique (h : s.IsResidual weights scores value) (h' : s.IsResidual weights scores value')
    (bears : s.Bears weights) {cell : Nat} (hc : cell < s.cellCount)
    (weighty : 0 < weights.getD cell 0) : value' cell = value cell := by
  obtain ⟨constant, held, left⟩ := h.left
  obtain ⟨constant', held', left'⟩ := h'.left
  have least : s.energy weights value = s.energy weights value' := by
    refine le_antisymm ?_ ?_
    · calc s.energy weights value ≤ s.energy weights (s.remainder scores constant' held') :=
            h.energy_le bears constant' held'
        _ = s.energy weights value' :=
            weigh_congr fun cell hc => by rw [left' cell hc]
    · calc s.energy weights value' ≤ s.energy weights (s.remainder scores constant held) :=
            h'.energy_le bears constant held
        _ = s.energy weights value :=
            weigh_congr fun cell hc => by rw [left cell hc]
  rw [left' cell hc]
  refine h.eq_of_energy_eq bears ?_ hc weighty
  rw [least]
  exact weigh_congr fun cell hc => by rw [left' cell hc]

end Shape.IsResidual

/-! ## Convergence without tolerance -/

theorem Tally.of_note_retry_eq_false {t : Tally ℚ} {threshold mean : ℚ}
    (settled : (t.note threshold mean).retry = false) : t.retry = false ∧ |mean| ≤ threshold := by
  obtain ⟨before, within⟩ := Bool.or_eq_false_iff.1 settled
  exact ⟨before, not_lt.1 (of_decide_eq_false within)⟩

namespace Field

theorem remove_zero (f : Field ℚ) (slot : Nat) (line : Line) : f.remove slot line 0 = f := by
  have same : ∀ (values : Array ℚ) (place : Nat) (change : ℚ → ℚ), (∀ x, change x = x) →
      values.modify place change = values := by
    intro values place change keeps
    refine Array.ext_getElem? fun i => ?_
    rw [Array.getElem?_modify]
    split
    · rw [funext keeps, Option.map_id']
    · rfl
  have scores : ∀ (cells : List Nat) (values : Array ℚ),
      cells.foldl (fun values cell => values.modify cell (· - 0)) values = values := by
    intro cells values
    induction cells with
    | nil => rfl
    | cons cell cells ih => rw [List.foldl_cons, same values cell _ sub_zero, ih]
  rw [remove, scores, same f.impurities slot _ add_zero]

theorem pass_settled {f : Field ℚ} {weights : Array ℚ} {lines : List (Nat × Line)}
    (settled : (f.pass weights 0 lines).2.retry = false) :
    (f.pass weights 0 lines).1 = f ∧ ∀ numbered ∈ lines, numbered.2.mean weights f.scores = 0 := by
  -- The lines met before must not have asked for another pass either, so the tally is general.
  suffices ∀ t : Tally ℚ, (lines.foldl (centre weights 0) (f, t)).2.retry = false →
      t.retry = false ∧ (lines.foldl (centre weights 0) (f, t)).1 = f ∧
        ∀ numbered ∈ lines, numbered.2.mean weights f.scores = 0 from
    (this Tally.start settled).2
  clear settled
  induction lines generalizing f with
  | nil => exact fun t settled => ⟨settled, rfl, fun _ member => nomatch member⟩
  | cons numbered lines ih =>
      obtain ⟨slot, line⟩ := numbered
      intro t settled
      obtain ⟨noted, same, rest⟩ := ih _ settled
      obtain ⟨before, within⟩ := Tally.of_note_retry_eq_false noted
      have mean := abs_nonpos_iff.1 within
      rw [mean, remove_zero] at same rest
      refine ⟨before, ?_, fun numbered member => ?_⟩
      · rw [List.foldl_cons, centre, mean, remove_zero]
        exact same
      · rcases List.mem_cons.1 member with rfl | later
        · exact mean
        · exact rest numbered later

end Field

theorem Totals.threshold_zero (t : Totals ℚ) : t.threshold 0 = 0 := by
  unfold Totals.threshold
  split
  · rfl
  · rw [mul_zero, zero_div]

/-- After the last pass of a sweep that has converged at threshold 0 every line is
    balanced, also those that were swept early in it. -/
theorem Sweep.balanced_of_converged {s : Shape} {g : Sweep.Setting ℚ} {f : Field ℚ} {n : Nat}
    (every : ∀ numbered ∈ s.lines, numbered ∈ g.lines) (bears : s.Bears g.weights)
    (strict : g.threshold = 0) (converged : g.decision f n = some .converged) :
    s.Balanced g.weights ((g.after f (n + 1)).scores.getD · 0) := by
  have settled : ((g.after f n).pass g.weights g.threshold g.lines).2.retry = false :=
    stop?_converged converged
  rw [strict] at settled
  obtain ⟨same, centred⟩ := Field.pass_settled settled
  have last : g.after f (n + 1) = g.after f n := by rw [Setting.after, strict, same]
  intro numbered member
  have mean := centred numbered (every numbered member)
  rw [last, ← Line.mass_mul_mean (bears.onLine member), mean, mul_zero]

theorem Sweep.exists_remainder {s : Shape} {f : Field ℚ} (covers : f.Covers s)
    (weights : Array ℚ) (intercept : Option ℚ) {g : Setting ℚ}
    (within : ∀ numbered ∈ g.lines, numbered ∈ s.lines) (n : Nat) :
    ∃ constant held, ∀ cell < s.cellCount,
      (g.after (f.opening s weights intercept) n).scores.getD cell 0 =
        s.remainder f.scores constant held cell := by
  let last := g.after (f.opening s weights intercept) n
  refine ⟨(intercept.map fun _ => (s.totals weights f.scores).mean).getD 0,
    fun i => last.impurities.getD i 0, fun cell hc => ?_⟩
  have kept := Field.whole_after within (covers.opening weights intercept) hc n
  rw [Field.whole_opening covers hc] at kept
  exact eq_sub_of_add_eq kept

theorem Sweep.isResidual_of_converged {s : Shape} {f : Field ℚ} (covers : f.Covers s)
    (intercept : Option ℚ) {g : Setting ℚ}
    (order : ∀ numbered, numbered ∈ g.lines ↔ numbered ∈ s.lines) (bears : s.Bears g.weights)
    (strict : g.threshold = 0) {n : Nat}
    (converged : g.decision (f.opening s g.weights intercept) n = some .converged) :
    s.IsResidual g.weights f.scores
      ((g.after (f.opening s g.weights intercept) (n + 1)).scores.getD · 0) :=
  ⟨balanced_of_converged (fun numbered => (order numbered).2) bears strict converged,
    exists_remainder covers _ intercept (fun numbered => (order numbered).1) _⟩

theorem Call.isResidual_of_converged {fuel : Nat} {limit : Option Nat} {call : Call ℚ}
    {shape : Shape} {weights : Array ℚ} {field : Field ℚ} {report : Report ℚ} {c : Convergence ℚ}
    (admitted : call.admission = .ok (.table shape weights field)) (strict : call.tolerance = 0)
    (bears : shape.Bears weights) (answered : call.purify fuel limit = some report)
    (purified : report.result = .ok (.purified c)) (converged : c.stop = .converged) :
    ∃ scores, report.scores = some scores ∧
      shape.IsResidual weights field.scores (scores.getD · 0) := by
  obtain ⟨n, -, result, swept, rfl, leaves, -⟩ :=
    Call.swept_of_stop_ne admitted answered purified (converged ▸ nofun)
  refine ⟨_, leaves.scores_eq, ?_⟩
  have stops := swept.stopsAt.stops
  rw [converged] at stops
  rw [swept.field_eq]
  refine Sweep.isResidual_of_converged (Call.admits_of_admission admitted).covers _
    (g := shape.setting call.tolerance limit weights field.scores) (fun _ => Iff.rfl) bears ?_
    stops
  rw [Shape.setting, strict, Totals.threshold_zero]

/-- The scores that a call without tolerance has converged to: no other constant and values
    per line leave a smaller weighted sum of squares, none leave as small a one and differ
    where there is weight, and so every sweep of that table that converges, whatever its
    intercept and the order of its lines, ends there. -/
theorem residual_minimal {fuel : Nat} {limit : Option Nat} {call : Call ℚ} {shape : Shape}
    {weights : Array ℚ} {field : Field ℚ} {report : Report ℚ} {c : Convergence ℚ}
    (admitted : call.admission = .ok (.table shape weights field)) (strict : call.tolerance = 0)
    (bears : shape.Bears weights) (answered : call.purify fuel limit = some report)
    (purified : report.result = .ok (.purified c)) (converged : c.stop = .converged) :
    ∃ scores, report.scores = some scores ∧
      (∀ (constant : ℚ) (held : Nat → ℚ),
        shape.energy weights (scores.getD · 0) ≤
            shape.energy weights (shape.remainder field.scores constant held) ∧
          (shape.energy weights (scores.getD · 0) =
              shape.energy weights (shape.remainder field.scores constant held) →
            ∀ cell < shape.cellCount, 0 < weights.getD cell 0 →
              shape.remainder field.scores constant held cell = scores.getD cell 0)) ∧
      (∀ (fuel' : Nat) (limit' : Option Nat) (call' : Call ℚ) (field' : Field ℚ)
          (report' : Report ℚ) (c' : Convergence ℚ) (scores' : Array ℚ),
        call'.admission = .ok (.table shape weights field') → field'.scores = field.scores →
        call'.tolerance = 0 → call'.purify fuel' limit' = some report' →
        report'.result = .ok (.purified c') → c'.stop = .converged →
        report'.scores = some scores' →
        ∀ cell < shape.cellCount, 0 < weights.getD cell 0 →
          scores'.getD cell 0 = scores.getD cell 0) ∧
      (∀ (lines : List (Nat × Line)), (∀ numbered, numbered ∈ lines ↔ numbered ∈ shape.lines) →
        ∀ (fuel' : Nat) (limit' : Option Nat) (intercept : Option ℚ) (c' : Convergence ℚ)
          (last : Field ℚ),
        Sweep.loop ⟨weights, lines, 0, limit'⟩ fuel' 0 none
            (field.opening shape weights intercept) = some (c', last) →
        c'.stop = .converged →
        ∀ cell < shape.cellCount, 0 < weights.getD cell 0 →
          last.scores.getD cell 0 = scores.getD cell 0) := by
  obtain ⟨scores, hscores, residual⟩ :=
    Call.isResidual_of_converged admitted strict bears answered purified converged
  refine ⟨scores, hscores, fun constant held => ⟨residual.energy_le bears constant held,
    fun same cell hc weighty => residual.eq_of_energy_eq bears same hc weighty⟩, ?_, ?_⟩
  · intro fuel' limit' call' field' report' c' scores' admitted' same strict' answered' purified'
      converged' hscores' cell hc weighty
    obtain ⟨_, hscores'', residual'⟩ :=
      Call.isResidual_of_converged admitted' strict' bears answered' purified' converged'
    cases hscores'.symm.trans hscores''
    rw [same] at residual'
    exact residual.unique residual' bears hc weighty
  · intro lines order fuel' limit' intercept c' last ran converged' cell hc weighty
    obtain ⟨n, -, stopsAt, -, rfl⟩ := Sweep.loop_eq_some_iff.1 ran
    rw [converged'] at stopsAt
    have residual' := Sweep.isResidual_of_converged (Call.admits_of_admission admitted).covers
      intercept (g := ⟨weights, lines, 0, limit'⟩) order bears rfl stopsAt.stops
    exact residual.unique residual' bears hc weighty

/-- A table on a square whose weights are products, so that two passes are enough. -/
def Call.tilted : Call ℚ :=
  { tolerance := 0
    dimensionCount := 2
    lengths := some #[2, 2]
    weights := some #[1, 2, 3, 6]
    scores := some #[2, -8, 10, 0]
    impurities := some #[0, 0, 0, 0]
    intercept := some 0 }

def Call.tiltedOnly : Call ℚ := { tilted with intercept := none }

/-- That table with an intercept, without one, and with the lines in reverse. -/
theorem residual_minimal_tilted :
    ∃ report report' scores scores', Call.tilted.purify 2 none = some report ∧
      Call.tiltedOnly.purify 2 none = some report' ∧ report.scores = some scores ∧
      report'.scores = some scores' ∧ scores'.getD 3 0 = scores.getD 3 0 ∧
      Shape.square.energy #[1, 2, 3, 6] (scores.getD · 0) ≤ Shape.square.energy #[1, 2, 3, 6]
        (Shape.square.remainder #[2, -8, 10, 0] 1 fun slot => slot) ∧
      ∃ c last, Sweep.loop ⟨#[1, 2, 3, 6], Shape.square.lines.reverse, 0, none⟩ 2 0 none
          (Field.opening ⟨#[2, -8, 10, 0], #[0, 0, 0, 0]⟩ .square #[1, 2, 3, 6] none) =
            some (c, last) ∧ last.scores.getD 3 0 = scores.getD 3 0 := by
  have with_intercept : ((Call.tilted.purify 2 none).map fun report =>
      report.result.toOption.bind (·.stop?)) = some (some .converged) := by decide +kernel
  have without : ((Call.tiltedOnly.purify 2 none).map fun report =>
      report.result.toOption.bind (·.stop?)) = some (some .converged) := by decide +kernel
  have reversed : (Sweep.loop ⟨#[1, 2, 3, 6], Shape.square.lines.reverse, (0 : ℚ), none⟩ 2 0 none
      (Field.opening ⟨#[2, -8, 10, 0], #[0, 0, 0, 0]⟩ .square #[1, 2, 3, 6] none)).map
        (·.1.stop) = some .converged := by decide +kernel
  obtain ⟨report, c, answered, purified, converged⟩ := Call.exists_of_purify with_intercept
  obtain ⟨report', c', answered', purified', converged'⟩ := Call.exists_of_purify without
  obtain ⟨⟨c'', last⟩, ran, converged''⟩ := Option.map_eq_some_iff.1 reversed
  have bears : Shape.square.Bears #[1, 2, 3, 6] := by
    unfold Shape.Bears
    decide +kernel
  have admitted : Call.tilted.admission =
      .ok (.table .square #[1, 2, 3, 6] ⟨#[2, -8, 10, 0], #[0, 0, 0, 0]⟩) := rfl
  have admitted' : Call.tiltedOnly.admission =
      .ok (.table .square #[1, 2, 3, 6] ⟨#[2, -8, 10, 0], #[0, 0, 0, 0]⟩) := rfl
  obtain ⟨scores', hscores', -⟩ :=
    residual_minimal admitted' rfl bears answered' purified' converged'
  obtain ⟨scores, hscores, least, runs, orders⟩ :=
    residual_minimal admitted rfl bears answered purified converged
  refine ⟨report, report', scores, scores', answered, answered', hscores, hscores', ?_,
    (least 1 fun slot => slot).1, c'', last, ran, ?_⟩
  · exact runs 2 none _ _ report' c' scores' admitted' rfl rfl answered' purified' converged'
      hscores' 3 (by decide) (by decide +kernel)
  · exact orders _ (fun _ => List.mem_reverse) 2 none none c'' last ran converged'' 3 (by decide)
      (by decide +kernel)

end Purification
