import Mathlib.Order.Interval.Finset.Nat
import Purification.Proofs.Exact.LeastSquares
import Purification.Proofs.Exact.Plateau
import Purification.Proofs.Shape.Numbering
import Purification.Proofs.Sweep.Block

/-! # What convergence leaves on a line

A line is centred when it is swept, and what comes later in the same pass disturbs it again: the
lines of its own dimension have no cell in common with it, but each of its cells lies on one line
of every later dimension. If the pass met no mean above the threshold, each of these took at most
the threshold from its cells.
-/

namespace Purification

/-! ## The order of the slots of a cell -/

namespace Shape

variable {s : Shape} {d e cell slot : Nat}

theorem slot_lt_slot (less : d < e) (he : e < s.rank) (hc : cell < s.cellCount) :
    s.slot d cell < s.slot e cell := by
  have inside := surface_lt (Nat.lt_trans less he) hc
  have before := offset_mono less (Nat.le_of_lt he)
  rw [offset_succ (Nat.lt_trans less he)] at before
  simp only [slot]
  omega

theorem slot_lt_slot_iff (hd : d < s.rank) (he : e < s.rank) (hc : cell < s.cellCount) :
    s.slot d cell < s.slot e cell ↔ d < e := by
  constructor
  · intro later
    by_contra earlier
    rcases Nat.lt_or_eq_of_le (Nat.le_of_not_lt earlier) with less | rfl
    · exact Nat.lt_asymm later (slot_lt_slot less hd hc)
    · exact Nat.lt_irrefl _ later
  · intro less
    exact slot_lt_slot less he hc

theorem slot_mem_after_iff {line : Line} {before after : List (Nat × Line)} {i : Nat}
    (cut : s.lines = before ++ (slot, line) :: after) (hi : i < s.lineCount) :
    i ∈ after.map (·.1) ↔ slot < i := by
  have numbers : before.map (·.1) ++ slot :: after.map (·.1) = List.range s.lineCount := by
    rw [← map_fst_lines, cut, List.map_append, List.map_cons]
  have sorted := numbers ▸ List.pairwise_lt_range (n := s.lineCount)
  obtain ⟨-, rest, apart⟩ := List.pairwise_append.1 sorted
  constructor
  · intro later
    exact (List.pairwise_cons.1 rest).1 i later
  · intro greater
    have listed : i ∈ before.map (·.1) ++ slot :: after.map (·.1) :=
      numbers ▸ List.mem_range.2 hi
    rcases List.mem_append.1 listed with earlier | here
    · exact absurd (apart i earlier slot List.mem_cons_self) (Nat.lt_asymm greater)
    · rcases List.mem_cons.1 here with rfl | later
      · exact absurd greater (Nat.lt_irrefl i)
      · exact later

theorem nodup_after {line : Line} {before after : List (Nat × Line)}
    (cut : s.lines = before ++ (slot, line) :: after) : (after.map (·.1)).Nodup := by
  have distinct : (s.lines.map (·.1)).Nodup := nodup_map_fst_lines
  rw [cut, List.map_append, List.map_cons] at distinct
  exact (List.nodup_cons.1 (List.nodup_append.1 distinct).2.1).2

end Shape

/-! ## What a stretch of lines adds to the slots -/

namespace Field

variable {s : Shape} {f : Field ℚ} {t : Tally ℚ} {weights : Array ℚ} {threshold : ℚ}
  {lines : List (Nat × Line)} {i : Nat}

theorem retry_eq_false_of_foldl
    (settled : (lines.foldl (centre weights threshold) (f, t)).2.retry = false) :
    t.retry = false := by
  induction lines generalizing f t with
  | nil => exact settled
  | cons numbered lines ih => exact (Tally.of_note_retry_eq_false (ih settled)).1

theorem abs_impurities_foldl_le (hi : i < f.impurities.size) (member : i ∈ lines.map (·.1))
    (distinct : (lines.map (·.1)).Nodup)
    (settled : (lines.foldl (centre weights threshold) (f, t)).2.retry = false) :
    |(lines.foldl (centre weights threshold) (f, t)).1.impurities.getD i 0 -
      f.impurities.getD i 0| ≤ threshold := by
  induction lines generalizing f t with
  | nil => cases member
  | cons numbered lines ih =>
      obtain ⟨slot, line⟩ := numbered
      obtain ⟨fresh, distinct⟩ := List.nodup_cons.1 distinct
      rw [List.foldl_cons, centre] at settled ⊢
      have hi' : i < (f.remove slot line (line.mean weights f.scores)).impurities.size := by
        simpa using hi
      by_cases here : slot = i
      · subst here
        -- no later line has the same slot, so this mean is all that the slot gets
        have within := (Tally.of_note_retry_eq_false (retry_eq_false_of_foldl settled)).2
        rw [getD_impurities_foldl fresh, getD_impurities_remove _ _ hi, if_pos rfl,
          add_sub_cancel_left]
        exact within
      · have later : i ∈ lines.map (·.1) := by
          rcases List.mem_cons.1 member with same | later
          · exact absurd same.symm here
          · exact later
        have rest := ih hi' later distinct settled
        rwa [getD_impurities_remove _ _ hi, if_neg here] at rest

theorem whole_foldl (within : ∀ numbered ∈ lines, numbered ∈ s.lines) (covers : f.Covers s)
    {cell : Nat} (hc : cell < s.cellCount) :
    (lines.foldl (centre weights threshold) (f, t)).1.whole s cell = f.whole s cell := by
  induction lines generalizing f t with
  | nil => rfl
  | cons numbered lines ih =>
      obtain ⟨slot, line⟩ := numbered
      rw [List.foldl_cons, centre,
        ih (fun numbered later => within numbered (List.mem_cons_of_mem _ later))
          (covers.remove slot _),
        whole_remove covers (within _ List.mem_cons_self) hc]

end Field

/-! ## Sums over one line -/

namespace Line

variable {s : Shape} {f : Field ℚ} {weights : Array ℚ} {slot : Nat} {line : Line}

theorem weigh_remove (covers : f.Covers s) (member : (slot, line) ∈ s.lines)
    (bears : s.Bears weights) :
    line.weigh weights ((f.remove slot line (line.mean weights f.scores)).scores.getD · 0) = 0 := by
  apply weigh_of_lowered (bears.onLine member) f.scores
  intro cell on
  have bound := Nat.lt_of_lt_of_le (Shape.cell_lt_of_mem_lines member on) covers.cells
  rw [Field.getD_scores_remove slot _ (Shape.cells_nodup_of_mem_lines member) bound, if_pos on]

theorem abs_weigh_le {value : Nat → ℚ} {bound : ℚ}
    (nonneg : ∀ cell ∈ line.cells, 0 ≤ weights.getD cell 0)
    (small : ∀ cell ∈ line.cells, |value cell| ≤ bound) :
    |line.weigh weights value| ≤ bound * line.mass weights := by
  unfold mass weigh
  generalize line.cells = cells at nonneg small
  induction cells with
  | nil => simp
  | cons cell cells ih =>
      have rest := ih (fun c on => nonneg c (List.mem_cons_of_mem _ on))
        (fun c on => small c (List.mem_cons_of_mem _ on))
      have weight := nonneg cell List.mem_cons_self
      have here : |weights.getD cell 0 * value cell| ≤ bound * (weights.getD cell 0 * 1) := by
        rw [abs_mul, abs_of_nonneg weight, mul_one, mul_comm bound]
        exact mul_le_mul_of_nonneg_left (small cell List.mem_cons_self) weight
      simp only [List.map_cons, List.sum_cons, mul_add]
      exact le_trans (abs_add_le _ _) (add_le_add here rest)

end Line

/-- If what is held differs by at most a bound in the slots along the later dimensions, and not
    at all along the others, it adds up to as many bounds as there are later dimensions. -/
theorem Shape.abs_overlay_le {s : Shape} {held : Nat → ℚ} {bound : ℚ} {d cell : Nat}
    (earlier : ∀ e < s.rank, e ≤ d → held (s.slot e cell) = 0)
    (later : ∀ e < s.rank, d < e → |held (s.slot e cell)| ≤ bound) :
    |s.overlay held cell| ≤ (s.rank - 1 - d : ℕ) * bound := by
  have each : ∀ e ∈ Finset.range s.rank,
      |held (s.slot e cell)| ≤ if d < e then bound else 0 := by
    intro e he
    by_cases less : d < e
    · rw [if_pos less]
      exact later e (Finset.mem_range.1 he) less
    · rw [if_neg less, earlier e (Finset.mem_range.1 he) (Nat.le_of_not_lt less), abs_zero]
  have count : ((Finset.range s.rank).filter (d < ·)).card = s.rank - 1 - d := by
    have interval : (Finset.range s.rank).filter (d < ·) = Finset.Ioo d s.rank := by
      ext e
      simp [and_comm]
    rw [interval, Nat.card_Ioo]
    omega
  calc |s.overlay held cell|
      ≤ ∑ e ∈ Finset.range s.rank, |held (s.slot e cell)| := Finset.abs_sum_le_sum_abs _ _
    _ ≤ ∑ e ∈ Finset.range s.rank, if d < e then bound else 0 := Finset.sum_le_sum each
    _ = (s.rank - 1 - d : ℕ) * bound := by
      rw [← Finset.sum_filter, Finset.sum_const, count, nsmul_eq_mul]

/-! ## The last pass -/

namespace Field

variable {s : Shape} {f : Field ℚ} {weights : Array ℚ} {threshold : ℚ} {slot : Nat} {line : Line}

/-- What a pass that met no mean above the threshold leaves on a line: the lines of each later
    dimension have put back at most the threshold. -/
theorem abs_weigh_pass_le (covers : f.Covers s) (bears : s.Bears weights)
    (settled : (f.pass weights threshold s.lines).2.retry = false)
    (member : (slot, line) ∈ s.lines) :
    |line.weigh weights ((f.pass weights threshold s.lines).1.scores.getD · 0)| ≤
      (s.rank - 1 - line.dimension : ℕ) * threshold * line.mass weights := by
  obtain ⟨before, after, cut⟩ := List.append_of_mem member
  have within : ∀ numbered ∈ after, numbered ∈ s.lines := by
    intro numbered later
    rw [cut]
    exact List.mem_append_right _ (List.mem_cons_of_mem _ later)
  -- the pass up to the line, the line itself, and what comes after it
  let upTo := before.foldl (centre weights threshold) (f, Tally.start)
  let mean := line.mean weights upTo.1.scores
  let centred := upTo.1.remove slot line mean
  let last := after.foldl (centre weights threshold) (centred, upTo.2.note threshold mean)
  have whole : f.pass weights threshold s.lines = last := by
    rw [pass, cut, List.foldl_append, List.foldl_cons]
    rfl
  rw [whole] at settled ⊢
  have coversUpTo : upTo.1.Covers s := covers.foldl_centre _
  have coversCentred : centred.Covers s := coversUpTo.remove slot mean
  have zero : line.weigh weights (centred.scores.getD · 0) = 0 :=
    Line.weigh_remove coversUpTo member bears
  have left : ∀ cell ∈ line.cells, last.1.scores.getD cell 0 = centred.scores.getD cell 0 + -1 *
      s.overlay (fun i => last.1.impurities.getD i 0 - centred.impurities.getD i 0) cell := by
    intro cell on
    have kept : last.1.whole s cell = centred.whole s cell :=
      whole_foldl within coversCentred (Shape.cell_lt_of_mem_lines member on)
    rw [Field.whole, Field.whole] at kept
    rw [Shape.overlay_sub]
    linarith
  have moved : ∀ cell ∈ line.cells,
      |s.overlay (fun i => last.1.impurities.getD i 0 - centred.impurities.getD i 0) cell| ≤
        (s.rank - 1 - line.dimension : ℕ) * threshold := by
    intro cell on
    have hc := Shape.cell_lt_of_mem_lines member on
    have hd := Shape.dimension_lt_of_mem_lines member
    have own : s.slot line.dimension cell = slot := (Shape.slot_eq_iff member hd hc).2 ⟨rfl, on⟩
    have comesAfter : ∀ e < s.rank,
        s.slot e cell ∈ after.map (·.1) ↔ line.dimension < e := fun e he => by
      rw [Shape.slot_mem_after_iff cut (Shape.slot_lt he hc), ← own,
        Shape.slot_lt_slot_iff hd he hc]
    have inside : ∀ e < s.rank, s.slot e cell < centred.impurities.size := fun e he =>
      Nat.lt_of_lt_of_le (Shape.slot_lt he hc) coversCentred.lines
    apply Shape.abs_overlay_le
    · intro e he earlier
      have absent : s.slot e cell ∉ after.map (·.1) := by
        rw [comesAfter e he]
        exact Nat.not_lt.2 earlier
      rw [getD_impurities_foldl absent, sub_self]
    · intro e he later
      exact abs_impurities_foldl_le (inside e he) ((comesAfter e he).2 later)
        (Shape.nodup_after cut) settled
  rw [Line.weigh_congr left, Line.weigh_add, zero, zero_add, Line.weigh_mul_left, neg_one_mul,
    abs_neg]
  exact Line.abs_weigh_le (bears.onLine member) moved

end Field

theorem Sweep.Swept.abs_weigh_le {s : Shape} {tolerance : ℚ} {limit : Option Nat}
    {weights : Array ℚ} {field : Field ℚ} {intercept : Option ℚ} {n : Nat} {result : Result ℚ}
    (h : Swept s tolerance limit weights field intercept n result) (covers : field.Covers s)
    (bears : s.Bears weights) (converged : result.convergence.stop = .converged) {slot : Nat}
    {line : Line} (member : (slot, line) ∈ s.lines) :
    |line.weigh weights (result.field.scores.getD · 0)| ≤
      (s.rank - 1 - line.dimension : ℕ) * result.convergence.threshold * line.mass weights := by
  have stops := h.stopsAt.stops
  rw [converged] at stops
  have threshold : result.convergence.threshold =
      (s.setting tolerance limit weights field.scores).threshold := by
    rw [h.convergence_eq]
    rfl
  rw [threshold, h.field_eq]
  exact Field.abs_weigh_pass_le (Setting.covers_after (covers.opening weights intercept) n) bears
    (stop?_converged stops) member

/-- When a call has converged, the weighted sum that is left on a line along dimension `d` is at
    most the threshold times the weight of the line, once for each dimension after `d`. So the
    lines along the last dimension are centred exactly, and without tolerance all lines are. -/
theorem abs_weigh_le_of_converged {fuel : Nat} {limit : Option Nat} {call : Call ℚ} {shape : Shape}
    {weights : Array ℚ} {field : Field ℚ} {report : Report ℚ} {c : Convergence ℚ}
    (admitted : call.admission = .ok (.table shape weights field)) (bears : shape.Bears weights)
    (answered : call.purify fuel limit = some report)
    (purified : report.result = .ok (.purified c)) (converged : c.stop = .converged) :
    ∃ scores, report.scores = some scores ∧
      ∀ d i line, shape.lineAlong? d i = some line →
        |line.weigh weights (scores.getD · 0)| ≤
          (shape.rank - 1 - d : ℕ) * c.threshold * line.mass weights ∧
        (d + 1 = shape.rank → line.weigh weights (scores.getD · 0) = 0) ∧
        (call.tolerance = 0 → line.weigh weights (scores.getD · 0) = 0) := by
  obtain ⟨shape', weights', field', admitted', result, ran, rfl, hscores, -⟩ :=
    Call.run_of_purified answered purified
  cases admitted.symm.trans admitted'
  refine ⟨_, hscores, ?_⟩
  intro d i line along
  rcases Sweep.run_eq_some ran with weightless | ⟨n, -, swept⟩
  · rw [weightless] at converged
    cases converged
  obtain ⟨inside, rfl⟩ := Shape.lineAlong?_eq_some_iff.1 along
  have hd : d < shape.rank := Shape.lt_rank_of_lt_linesAlong inside
  have bound := swept.abs_weigh_le (Call.admits_of_admission admitted).covers bears converged
    (Shape.mem_lines_iff.2 ⟨d, hd, i, inside, rfl, rfl⟩)
  rw [Shape.dimension_lineAt] at bound
  refine ⟨bound, ?_, ?_⟩
  · intro last
    have highest : shape.rank - 1 - d = 0 := by omega
    rw [highest, Nat.cast_zero, zero_mul, zero_mul] at bound
    exact abs_nonpos_iff.1 bound
  · intro strict
    have threshold : result.convergence.threshold = 0 := by
      rw [swept.convergence_eq]
      show (shape.totals weights field.scores).threshold call.tolerance = 0
      rw [strict]
      exact Totals.threshold_zero _
    rw [threshold, mul_zero, zero_mul] at bound
    exact abs_nonpos_iff.1 bound

/-- The uneven table with a tolerance that its first pass just meets. -/
def Call.loose : Call ℚ := { uneven with tolerance := 1 }

/-- One pass over that table leaves a mean on the lines along its first dimension, below the
    threshold, and none along its second. -/
theorem abs_weigh_le_of_converged_loose :
    ∃ report scores, Call.loose.purify 1 none = some report ∧ report.scores = some scores ∧
      Line.weigh ⟨0, 0, 1, 2⟩ diagonal (scores.getD · 0) = -72 / 5 ∧
      |Line.weigh ⟨0, 0, 1, 2⟩ diagonal (scores.getD · 0)| ≤ 1 * (9 / 5) * 10 ∧
      Line.weigh ⟨1, 1, 2, 2⟩ diagonal (scores.getD · 0) = 0 := by
  have stopped : ((Call.loose.purify 1 none).map fun report =>
      report.result.toOption.bind (·.stop?)) = some (some .converged) := by decide +kernel
  have left : ((Call.loose.purify 1 none).map fun report =>
      Line.weigh ⟨0, 0, 1, 2⟩ diagonal (((report.scores).getD #[]).getD · 0)) =
        some (-72 / 5) := by decide +kernel
  have met : ((Call.loose.purify 1 none).map fun report => (report.result.toOption.bind
      (·.convergence?)).map (·.threshold)) = some (some (9 / 5)) := by decide +kernel
  obtain ⟨report, c, answered, purified, converged⟩ := Call.exists_of_purify stopped
  have admitted : Call.loose.admission =
      .ok (.table .square diagonal ⟨#[2, -8, 10, 0], #[0, 0, 0, 0]⟩) := rfl
  obtain ⟨scores, hscores, bound⟩ :=
    abs_weigh_le_of_converged admitted Shape.bears_diagonal answered purified converged
  simp only [answered, hscores, purified, Option.map_some, Option.getD_some, Option.some.injEq,
    Except.toOption, Option.bind_some, Outcome.convergence?] at left met
  have mass : Line.mass ⟨0, 0, 1, 2⟩ diagonal = 10 := by decide +kernel
  have rank : ((Shape.square.rank - 1 - 0 : ℕ) : ℚ) = 1 := rfl
  have first := (bound 0 0 ⟨0, 0, 1, 2⟩ (by decide)).1
  have last := (bound 1 1 ⟨1, 1, 2, 2⟩ (by decide)).2.1 rfl
  rw [rank, met, mass] at first
  exact ⟨report, scores, answered, hscores, left, first, last⟩

end Purification
