import Purification.Proofs.Sweep.Trajectory

/-! # How a run begins and ends

Before its first pass a run scans the table once, takes out the mean if an intercept is
asked for, and clears the slots. Unless the table has no weight, it then ends where the
passes from there on end.
-/

namespace Purification

variable {α : Type} [Scalar α]

def Shape.totals (s : Shape) (weights scores : Array α) : Totals α :=
  .scan (weights.toList.take s.cellCount) (scores.toList.take s.cellCount)

def Shape.setting (s : Shape) (tolerance : α) (limit : Option Nat) (weights scores : Array α) :
    Sweep.Setting α :=
  { weights, lines := s.lines, threshold := (s.totals weights scores).threshold tolerance, limit }

/-- The field from which the run of a table makes its first pass. -/
def Field.opening (f : Field α) (s : Shape) (weights : Array α) (intercept : Option α) : Field α :=
  { scores := match intercept with
      | some _ => Sweep.mapFirst s.cellCount (· - (s.totals weights f.scores).mean) f.scores
      | none => f.scores
    impurities := Sweep.mapFirst s.lineCount (fun _ => 0) f.impurities }

namespace Sweep

theorem getD_mapFirst {n i : Nat} (change : α → α) {values : Array α} (less : i < n)
    (bound : i < values.size) :
    (mapFirst n change values).getD i 0 = change (values.getD i 0) := by
  simp [mapFirst, Array.getD_eq_getD_getElem?, bound, less]

end Sweep

@[simp] theorem Field.size_scores_opening (f : Field α) (s : Shape) (weights : Array α)
    (intercept : Option α) : (f.opening s weights intercept).scores.size = f.scores.size := by
  cases intercept with
  | none => rfl
  | some _ => exact Sweep.size_mapFirst _ _ _

@[simp] theorem Field.size_impurities_opening (f : Field α) (s : Shape) (weights : Array α)
    (intercept : Option α) : (f.opening s weights intercept).impurities.size = f.impurities.size :=
  Sweep.size_mapFirst _ _ _

theorem Field.Covers.opening {s : Shape} {f : Field α} (h : f.Covers s) (weights : Array α)
    (intercept : Option α) : (f.opening s weights intercept).Covers s :=
  ⟨by simpa using h.cells, by simpa using h.lines⟩

namespace Sweep

variable {shape : Shape} {tolerance : α} {limit : Option Nat} {weights : Array α}
  {field : Field α} {intercept : Option α}

theorem run_of_isZero (fuel : Nat)
    (weightless : Scalar.isZero (shape.totals weights field.scores).weight = true) :
    run fuel shape tolerance limit weights field intercept =
      some { convergence := ⟨.zeroWeight, 0, 0, 0⟩, field, intercept } := if_pos weightless

theorem run_of_not_isZero (fuel : Nat)
    (weighty : Scalar.isZero (shape.totals weights field.scores).weight = false) :
    run fuel shape tolerance limit weights field intercept =
      (loop (shape.setting tolerance limit weights field.scores) fuel 0 none
        (field.opening shape weights intercept)).map fun (convergence, last) =>
          { convergence, field := last,
            intercept := intercept.map fun _ => (shape.totals weights field.scores).mean } :=
  if_neg (by rw [Bool.not_eq_true]; exact weighty)

/-- The ends of the runs of a table that were not stopped for want of weight. -/
structure Swept (shape : Shape) (tolerance : α) (limit : Option Nat) (weights : Array α)
    (field : Field α) (intercept : Option α) (n : Nat) (result : Result α) : Prop where
  weighty : Scalar.isZero (shape.totals weights field.scores).weight = false
  stopsAt : (shape.setting tolerance limit weights field.scores).StopsAt
    (field.opening shape weights intercept) n result.convergence.stop
  convergence_eq : result.convergence =
    (shape.setting tolerance limit weights field.scores).ending
      (field.opening shape weights intercept) n result.convergence.stop
  field_eq : result.field = (shape.setting tolerance limit weights field.scores).after
    (field.opening shape weights intercept) (n + 1)
  intercept_eq : result.intercept =
    intercept.map fun _ => (shape.totals weights field.scores).mean

theorem swept_of_stopsAt
    (weighty : Scalar.isZero (shape.totals weights field.scores).weight = false)
    {n : Nat} {stop : StopReason}
    (h : (shape.setting tolerance limit weights field.scores).StopsAt
      (field.opening shape weights intercept) n stop) :
    Swept shape tolerance limit weights field intercept n
      { convergence := (shape.setting tolerance limit weights field.scores).ending
          (field.opening shape weights intercept) n stop
        field := (shape.setting tolerance limit weights field.scores).after
          (field.opening shape weights intercept) (n + 1)
        intercept := intercept.map fun _ => (shape.totals weights field.scores).mean } :=
  ⟨weighty, h, rfl, rfl, rfl⟩

theorem Swept.size_scores {n : Nat} {result : Result α}
    (h : Swept shape tolerance limit weights field intercept n result) :
    result.field.scores.size = field.scores.size := by
  rw [h.field_eq, Setting.size_scores_after, Field.size_scores_opening]

theorem Swept.size_impurities {n : Nat} {result : Result α}
    (h : Swept shape tolerance limit weights field intercept n result) :
    result.field.impurities.size = field.impurities.size := by
  rw [h.field_eq, Setting.size_impurities_after, Field.size_impurities_opening]

theorem Swept.stop_ne {n : Nat} {result : Result α}
    (h : Swept shape tolerance limit weights field intercept n result) :
    result.convergence.stop ≠ .zeroWeight := by
  intro weightless
  have stops := h.stopsAt.stops
  rw [weightless] at stops
  exact stop?_ne_zeroWeight stops

theorem run_eq_some_iff {fuel : Nat} {result : Result α}
    (weighty : Scalar.isZero (shape.totals weights field.scores).weight = false) :
    run fuel shape tolerance limit weights field intercept = some result ↔
      ∃ n < fuel, Swept shape tolerance limit weights field intercept n result := by
  rw [run_of_not_isZero fuel weighty, Option.map_eq_some_iff]
  constructor
  · rintro ⟨⟨c, last⟩, h, rfl⟩
    obtain ⟨n, enough, stopsAt, ends, rfl⟩ := loop_eq_some_iff.1 h
    exact ⟨n, enough, weighty, stopsAt, ends, rfl, rfl⟩
  · rintro ⟨n, enough, h⟩
    refine ⟨(result.convergence, result.field), loop_eq_some_iff.2
      ⟨n, enough, h.stopsAt, h.convergence_eq, h.field_eq⟩, ?_⟩
    rw [← h.intercept_eq]

theorem run_eq_some {fuel : Nat} {result : Result α}
    (h : run fuel shape tolerance limit weights field intercept = some result) :
    result = { convergence := ⟨.zeroWeight, 0, 0, 0⟩, field, intercept } ∨
      ∃ n < fuel, Swept shape tolerance limit weights field intercept n result := by
  cases weighty : Scalar.isZero (shape.totals weights field.scores).weight with
  | true =>
      rw [run_of_isZero fuel weighty] at h
      exact .inl (Option.some.inj h).symm
  | false => exact .inr ((run_eq_some_iff weighty).1 h)

end Sweep

end Purification
