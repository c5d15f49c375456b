import Purification.Document
import Purification.Proofs.Exact.Balance
import Purification.Proofs.Exact.Rest
import Purification.Proofs.Shape.Moves
import Purification.Proofs.Sweep.Cap

/-! # Weights that are products

If the weight of a cell is a product of factors, one for each of its coordinates, the means taken
along one dimension are balanced along every other dimension along which the scores were. So a
pass keeps what it has balanced and balances the whole table at once, and a second pass finds
nothing to do. Equal weights are such products.
-/

namespace Purification

/-- The weight of a cell is the product of one factor for each coordinate, and no factor is
    below 0. -/
structure Shape.Separable (s : Shape) (weights : Array ℚ) (factors : Nat → Nat → ℚ) : Prop where
  nonneg : ∀ d < s.rank, ∀ k < s.axis d, 0 ≤ factors d k
  weight_eq : ∀ cell < s.cellCount, ∀ coords, s.decode cell = some coords →
    weights.getD cell 0 = ∏ d ∈ Finset.range s.rank, factors d (coords.getD d 0)

namespace Shape

variable {s : Shape} {d e cell : Nat} {weights : Array ℚ} {factors : Nat → Nat → ℚ}

theorem weigh_lineAt_surface (value : Nat → ℚ) :
    (s.lineAt d (s.surface d cell)).weigh weights value =
      ∑ k ∈ Finset.range (s.axis d),
        weights.getD (s.moved d k cell) 0 * value (s.moved d k cell) := by
  rw [Line.weigh, cells_lineAt_surface, List.map_map]
  rfl

theorem separable_of_equal {weight : ℚ} (nonneg : 0 ≤ weight)
    (equal : ∀ cell < s.cellCount, weights.getD cell 0 = weight) :
    s.Separable weights fun d _ => if d = 0 then weight else 1 where
  nonneg d _ k _ := by
    split
    · exact nonneg
    · exact zero_le_one
  weight_eq cell hc coords _ := by
    have first : 0 ∈ Finset.range s.rank := Finset.mem_range.2 s.representable.rank_pos
    rw [equal cell hc, Finset.prod_ite_eq' (Finset.range s.rank) 0, if_pos first]

theorem weigh_pos_of_equal {weight : ℚ} (positive : 0 < weight)
    (equal : ∀ cell < s.cellCount, weights.getD cell 0 = weight) :
    0 < s.weigh weights fun _ => 1 := by
  apply Finset.sum_pos
  · intro cell hc
    rw [equal cell (Finset.mem_range.1 hc), mul_one]
    exact positive
  · exact Finset.nonempty_range_iff.2 s.cellCount_pos.ne'

namespace Separable

variable (h : s.Separable weights factors)

include h

theorem getD_eq (hc : cell < s.cellCount) :
    weights.getD cell 0 = ∏ d ∈ Finset.range s.rank, factors d (s.coordinate d cell) := by
  rw [h.weight_eq cell hc _ (decode_eq hc)]
  apply Finset.prod_congr rfl
  intro d hd
  rw [List.getD_eq_getElem?_getD, getElem?_coords (Finset.mem_range.1 hd), Option.getD_some]

theorem bears : s.Bears weights := by
  intro cell hc
  rw [h.getD_eq hc]
  apply Finset.prod_nonneg
  intro d hd
  exact h.nonneg d (Finset.mem_range.1 hd) _ coordinate_lt

theorem weight_mul_factor (hd : d < s.rank) {k : Nat} (hk : k < s.axis d)
    (hc : cell < s.cellCount) :
    weights.getD cell 0 * factors d k =
      factors d (s.coordinate d cell) * weights.getD (s.moved d k cell) 0 := by
  have listed := Finset.mem_range.2 hd
  have others : ∏ e ∈ (Finset.range s.rank).erase d, factors e (s.coordinate e (s.moved d k cell)) =
      ∏ e ∈ (Finset.range s.rank).erase d, factors e (s.coordinate e cell) := by
    apply Finset.prod_congr rfl
    intro e he
    obtain ⟨other, he⟩ := Finset.mem_erase.1 he
    rw [coordinate_moved_of_ne hd hk hc (Finset.mem_range.1 he) other]
  rw [h.getD_eq hc, h.getD_eq (moved_lt hd hk hc), ← Finset.mul_prod_erase _ _ listed,
    ← Finset.mul_prod_erase (Finset.range s.rank) _ listed, others, coordinate_moved hk]
  ring

theorem weight_mul_factors (hd : d < s.rank) (hc : cell < s.cellCount) :
    weights.getD cell 0 * ∑ k ∈ Finset.range (s.axis d), factors d k =
      factors d (s.coordinate d cell) * (s.lineAt d (s.surface d cell)).mass weights := by
  rw [Line.mass, weigh_lineAt_surface, Finset.mul_sum, Finset.mul_sum]
  apply Finset.sum_congr rfl
  intro k hk
  rw [mul_one, h.weight_mul_factor hd (Finset.mem_range.1 hk) hc]

/-- What a cell loses along `d`, counted with its weight, by the scores on its line. -/
theorem factors_mul_mean (hd : d < s.rank) (hc : cell < s.cellCount) (scores : Array ℚ) :
    (∑ k ∈ Finset.range (s.axis d), factors d k) *
        (weights.getD cell 0 * (s.lineAt d (s.surface d cell)).mean weights scores) =
      factors d (s.coordinate d cell) * ∑ j ∈ Finset.range (s.axis d),
        weights.getD (s.moved d j cell) 0 * scores.getD (s.moved d j cell) 0 := by
  have onLine := h.bears.onLine (slot_mem_lines hd hc)
  rw [← mul_assoc, mul_comm _ (weights.getD cell 0), h.weight_mul_factors hd hc, mul_assoc,
    Line.mass_mul_mean onLine, weigh_lineAt_surface]

theorem factors_pos (positive : 0 < s.weigh weights fun _ => 1) (hd : d < s.rank) :
    0 < ∑ k ∈ Finset.range (s.axis d), factors d k := by
  have each : ∀ k ∈ Finset.range (s.axis d), 0 ≤ factors d k := by
    intro k hk
    exact h.nonneg d hd k (Finset.mem_range.1 hk)
  -- without a factor along this dimension no cell would have weight
  by_contra vanished
  have vanished := le_antisymm (not_lt.1 vanished) (Finset.sum_nonneg each)
  have zero := (Finset.sum_eq_zero_iff_of_nonneg each).1 vanished
  have weightless : s.weigh weights (fun _ => 1) = 0 := by
    apply Finset.sum_eq_zero
    intro cell hc
    have vanishes : factors d (s.coordinate d cell) = 0 :=
      zero _ (Finset.mem_range.2 coordinate_lt)
    rw [h.getD_eq (Finset.mem_range.1 hc), Finset.prod_eq_zero (Finset.mem_range.2 hd) vanishes,
      zero_mul]
  exact positive.ne' weightless

/-- The means along dimension `d` are balanced along another dimension if the scores are: summed
    along a line of `e`, they are sums over lines of `d`, and the two sums can be exchanged. -/
theorem balancedAlong_mean (positive : 0 < s.weigh weights fun _ => 1) (hd : d < s.rank)
    (he : e < s.rank) (other : d ≠ e) {scores : Array ℚ}
    (balanced : s.BalancedAlong e weights (scores.getD · 0)) :
    s.BalancedAlong e weights fun cell =>
      (s.lineAt d (s.surface d cell)).mean weights scores := by
  intro i inside
  have member := mem_lines_iff.2 ⟨e, he, i, inside, rfl, rfl⟩
  obtain ⟨cell, on⟩ := List.exists_mem_of_ne_nil _ (cells_ne_nil_of_mem_lines member)
  have hc := cell_lt_of_mem_lines member on
  obtain rfl := surface_of_mem on
  let total := ∑ k ∈ Finset.range (s.axis d), factors d k
  let factor := factors d (s.coordinate d cell)
  let value := fun cell => weights.getD cell 0 * scores.getD cell 0
  have each : ∀ k ∈ Finset.range (s.axis e),
      total * (weights.getD (s.moved e k cell) 0 *
          (s.lineAt d (s.surface d (s.moved e k cell))).mean weights scores) =
        factor * ∑ j ∈ Finset.range (s.axis d), value (s.moved e k (s.moved d j cell)) := by
    intro k hk
    have hk := Finset.mem_range.1 hk
    have exchanged : ∀ j ∈ Finset.range (s.axis d),
        value (s.moved d j (s.moved e k cell)) = value (s.moved e k (s.moved d j cell)) := by
      intro j hj
      rw [moved_comm hd he other (Finset.mem_range.1 hj) hk hc]
    rw [h.factors_mul_mean hd (moved_lt he hk hc), coordinate_moved_of_ne he hk hc hd other,
      Finset.sum_congr rfl exchanged]
  have without : ∀ j ∈ Finset.range (s.axis d),
      ∑ k ∈ Finset.range (s.axis e), value (s.moved e k (s.moved d j cell)) = 0 := by
    intro j hj
    have hm := moved_lt hd (Finset.mem_range.1 hj) hc
    exact (weigh_lineAt_surface (scores.getD · 0)).symm.trans (balanced _ (surface_lt he hm))
  have product : total * (s.lineAt e (s.surface e cell)).weigh weights (fun cell =>
      (s.lineAt d (s.surface d cell)).mean weights scores) = 0 := by
    rw [weigh_lineAt_surface, Finset.mul_sum, Finset.sum_congr rfl each, ← Finset.mul_sum,
      Finset.sum_comm, Finset.sum_eq_zero without, mul_zero]
  exact (mul_eq_zero.1 product).resolve_left (h.factors_pos positive hd).ne'

end Separable

end Shape

/-! ## A pass -/

namespace Field

variable {s : Shape} {d e : Nat} {f : Field ℚ} {weights : Array ℚ} {threshold : ℚ}
  {factors : Nat → Nat → ℚ} (product : s.Separable weights factors)
  (positive : 0 < s.weigh weights fun _ => 1) (covers : f.Covers s)

include product positive covers

theorem balancedAlong_block_of_ne (hd : d < s.rank) (he : e < s.rank) (other : d ≠ e)
    (balanced : s.BalancedAlong e weights (f.scores.getD · 0)) (t : Tally ℚ) :
    s.BalancedAlong e weights
      (((s.linesOf d).foldl (centre weights threshold) (f, t)).1.scores.getD · 0) := by
  intro i inside
  have lowered : ∀ cell ∈ (s.lineAt e i).cells,
      ((s.linesOf d).foldl (centre weights threshold) (f, t)).1.scores.getD cell 0 =
        f.scores.getD cell 0 + -1 * (s.lineAt d (s.surface d cell)).mean weights f.scores := by
    intro cell on
    have hc : cell < s.cellCount := (Shape.surface_lt_iff he).1 (Shape.surface_of_mem on ▸ inside)
    rw [getD_scores_block covers hd hc]
    ring
  have means := product.balancedAlong_mean positive hd he other balanced
  rw [Line.weigh_congr lowered, Line.weigh_add, Line.weigh_mul_left, balanced i inside,
    means i inside, mul_zero, add_zero]

theorem balancedAlong_blocks (t : Tally ℚ) {n : Nat} (within : n ≤ s.rank) :
    ∀ e < n, s.BalancedAlong e weights
      ((((List.range n).flatMap s.linesOf).foldl (centre weights threshold)
        (f, t)).1.scores.getD · 0) := by
  induction n with
  | zero => nofun
  | succ n ih =>
      intro e he
      rw [Shape.flatMap_linesOf_succ, List.foldl_append]
      rcases Nat.lt_succ_iff_lt_or_eq.1 he with earlier | rfl
      · have before := ih (Nat.le_of_succ_le within) e earlier
        exact balancedAlong_block_of_ne product positive (covers.foldl_centre _) within (by omega)
          (by omega) before _
      · exact balancedAlong_block (covers.foldl_centre _) product.bears within _

theorem balanced_pass :
    s.Balanced weights ((f.pass weights threshold s.lines).1.scores.getD · 0) := by
  apply Shape.balanced_iff.2
  exact balancedAlong_blocks product positive covers Tally.start (Nat.le_refl _)

end Field

/-! ## A run -/

namespace Sweep.Setting

variable {s : Shape} {g : Setting ℚ} {field : Field ℚ} (lines : g.lines = s.lines)
  (nonneg : 0 ≤ g.threshold)
  (balanced : s.Balanced g.weights ((g.after field 1).scores.getD · 0))

include lines nonneg balanced

theorem after_succ_of_balanced (n : Nat) : g.after field (n + 1) = g.after field 1 := by
  rw [Nat.add_comm, after_add]
  exact (after_of_balanced lines nonneg balanced n).1

/-- If the first pass balances the table, the second one meets nothing, so it is the last. -/
theorem exists_stopsAt_of_balanced :
    ∃ n < 2, ∃ stop, g.StopsAt field n stop ∧
      ((∀ m, g.limit = some m → 2 ≤ m) → stop = .converged) := by
  have settled : (g.tally field 1).retry = false := by
    rw [tally_add 1 0, (after_of_balanced lines nonneg balanced 0).2]
    rfl
  have second : g.decision field 1 = some .converged := stop?_of_settled settled
  obtain ⟨k, hk, stop, stopsAt⟩ := exists_stopsAt (second ▸ nofun : g.decision field 1 ≠ none)
  refine ⟨k, Nat.lt_succ_of_le hk, stop, stopsAt, ?_⟩
  intro roomy
  have stops := stopsAt.stops
  rcases Nat.le_one_iff_eq_zero_or_eq_one.1 hk with rfl | rfl
  · -- no summed impurity is infinite, so only the cap could have been in the way
    have unlimited : g.limit.any (· ≤ 1) = false := by
      cases limited : g.limit with
      | none => rfl
      | some m => exact decide_eq_false (Nat.not_le.2 (roomy m limited))
    cases retry : (g.tally field 0).retry with
    | false =>
        rw [decision, stop?_of_settled retry] at stops
        exact (Option.some.inj stops).symm
    | true => simp [decision, stop?, previous, Scalar.isTop, retry, unlimited] at stops
  · exact (Option.some.inj (second.symm.trans stops)).symm

end Sweep.Setting

/-! ## A call -/

/-- The field of a call after so many passes. A cap ends the run but does not change the passes. -/
def Call.after (call : Call ℚ) (shape : Shape) (weights : Array ℚ) (field : Field ℚ) (n : Nat) :
    Field ℚ :=
  (shape.setting call.tolerance none weights field.scores).after
    (field.opening shape weights (call.intercept.map fun _ => 0)) n

/-- The first pass balances the table of a call and later ones change nothing. If the cap lets a
    second one be made, the call converges with it or before. -/
structure Call.SettlesAtOnce (call : Call ℚ) (shape : Shape) (weights : Array ℚ)
    (field : Field ℚ) : Prop where
  balanced : shape.Balanced weights ((call.after shape weights field 1).scores.getD · 0)
  kept : ∀ n, call.after shape weights field (n + 1) = call.after shape weights field 1
  answered : ∀ limit fuel, 2 ≤ fuel → ∃ report c, call.purify fuel limit = some report ∧
    report.Leaves c (call.after shape weights field 1) ∧ c.passes ≤ 2 ∧
    ((∀ m, limit = some m → 2 ≤ m) → c.stop = .converged)

theorem Shape.Separable.settlesAtOnce {shape : Shape} {weights : Array ℚ}
    {factors : Nat → Nat → ℚ} (product : shape.Separable weights factors)
    (positive : 0 < shape.weigh weights fun _ => 1) {call : Call ℚ} {field : Field ℚ}
    (admitted : call.admission = .ok (.table shape weights field))
    (nonneg : 0 ≤ call.tolerance) : call.SettlesAtOnce shape weights field := by
  have holds := (Call.admits_of_admission admitted).toHolds
  have weighty := Shape.isZero_totals holds.weights_le holds.covers.cells positive
  have above := Shape.threshold_nonneg holds.weights_le holds.covers.cells product.bears nonneg
  have balanced : shape.Balanced weights ((call.after shape weights field 1).scores.getD · 0) :=
    Field.balanced_pass product positive (holds.covers.opening weights _)
  have kept : ∀ n, call.after shape weights field (n + 1) = call.after shape weights field 1 :=
    Sweep.Setting.after_succ_of_balanced rfl above balanced
  refine ⟨balanced, kept, ?_⟩
  intro limit fuel enough
  let g := shape.setting call.tolerance limit weights field.scores
  let start := field.opening shape weights (call.intercept.map fun _ => 0)
  have same : ∀ n, g.after start n = call.after shape weights field n :=
    Sweep.Setting.after_capped (g := shape.setting call.tolerance none weights field.scores) limit
  have balanced' : shape.Balanced g.weights ((g.after start 1).scores.getD · 0) := by
    rw [same]
    exact balanced
  obtain ⟨n, early, stop, stopsAt, roomy⟩ :=
    Sweep.Setting.exists_stopsAt_of_balanced (g := g) rfl above balanced'
  obtain ⟨report, answered, leaves, -⟩ :
      ∃ report, call.purify fuel limit = some report ∧
        report.Leaves (g.ending start n stop) (g.after start (n + 1)) ∧ report.intercept = _ :=
    Call.exists_report_of_swept admitted (Nat.lt_of_lt_of_le early enough)
      (Sweep.swept_of_stopsAt weighty stopsAt)
  rw [same, kept] at leaves
  exact ⟨report, _, answered, leaves, early, roomy⟩

/-- A table whose weights are products is done after one pass, which a second one confirms. Equal
    weights are such, and a document that has none stands for weights of 1. -/
theorem product_weights_settle_at_once {call : Call ℚ} {shape : Shape} {weights : Array ℚ}
    {field : Field ℚ} (admitted : call.admission = .ok (.table shape weights field))
    (nonneg : 0 ≤ call.tolerance) :
    (∀ factors, shape.Separable weights factors → 0 < shape.weigh weights (fun _ => 1) →
      call.SettlesAtOnce shape weights field) ∧
    (∀ weight, 0 < weight → (∀ cell < shape.cellCount, weights.getD cell 0 = weight) →
      call.SettlesAtOnce shape weights field) ∧
    ∀ x : TableDocument, x.weights = none → Shape.ofLengths x.lengths = .ok shape →
      x.usedWeights = List.replicate shape.cellCount 1.0 := by
  refine ⟨?_, ?_, ?_⟩
  · intro factors product positive
    exact product.settlesAtOnce positive admitted nonneg
  · intro weight heavy equal
    exact (Shape.separable_of_equal heavy.le equal).settlesAtOnce
      (Shape.weigh_pos_of_equal heavy equal) admitted nonneg
  · intro x omitted made
    rw [TableDocument.usedWeights, omitted, Option.getD_none, TableDocument.uniformCount, made]

/-- The square with a weightless line along its second dimension. -/
def Call.striped : Call ℚ := { tilted with weights := some #[0, 0, 3, 6] }

/-- The striped table, and the square of a document without weights. -/
theorem product_weights_settle_at_once_striped :
    Call.striped.SettlesAtOnce .square #[0, 0, 3, 6] ⟨#[2, -8, 10, 0], #[0, 0, 0, 0]⟩ ∧
      TableDocument.usedWeights ⟨[2, 2], none, [2, -8, 10, 0]⟩ = [1, 1, 1, 1] := by
  have admitted : Call.striped.admission =
      .ok (.table .square #[0, 0, 3, 6] ⟨#[2, -8, 10, 0], #[0, 0, 0, 0]⟩) := rfl
  have product : Shape.square.Separable #[0, 0, 3, 6]
      fun d k => if d = 0 then (k : ℚ) + 1 else 3 * k := by
    refine ⟨by decide +kernel, ?_⟩
    have each : ∀ cell < Shape.square.cellCount, (#[0, 0, 3, 6] : Array ℚ).getD cell 0 =
        ∏ d ∈ Finset.range Shape.square.rank, if d = 0
          then ((((Shape.square.decode cell).getD []).getD d 0 : Nat) : ℚ) + 1
          else 3 * (((Shape.square.decode cell).getD []).getD d 0 : Nat) := by decide +kernel
    intro cell hc coords found
    have value := each cell hc
    rwa [found] at value
  obtain ⟨separable, -, documents⟩ :=
    product_weights_settle_at_once admitted (le_refl (0 : ℚ))
  exact ⟨separable _ product (by decide +kernel), documents _ rfl rfl⟩

end Purification
