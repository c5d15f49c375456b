import Mathlib.Data.List.Basic
import Purification.Proofs.Sweep.Parallel

/-! # Runs that read the same

A run reads the weights and scores of the cells of its table, and the slots only after it has
cleared them. Two runs that agree there meet the same means pass by pass, stop for the same
reason, and agree again on what they leave behind.
-/

namespace Purification

/-- The first `n` entries are the same. -/
def AgreeUpTo {α : Type} (n : Nat) (xs ys : Array α) : Prop := ∀ i < n, xs[i]? = ys[i]?

namespace AgreeUpTo

variable {α : Type} {n : Nat} {xs ys : Array α}

theorem refl (n : Nat) (xs : Array α) : AgreeUpTo n xs xs := fun _ _ => rfl

theorem getD [Zero α] (h : AgreeUpTo n xs ys) {i : Nat} (hi : i < n) :
    xs.getD i 0 = ys.getD i 0 := by
  rw [Array.getD_eq_getD_getElem?, Array.getD_eq_getD_getElem?, h i hi]

theorem take_eq (h : AgreeUpTo n xs ys) : xs.toList.take n = ys.toList.take n := by
  apply List.ext_getElem?
  intro i
  rw [List.getElem?_take, List.getElem?_take]
  split
  · rename_i less
    simpa only [Array.getElem?_toList] using h i less
  · rfl

theorem modify (h : AgreeUpTo n xs ys) (place : Nat) (change : α → α) :
    AgreeUpTo n (xs.modify place change) (ys.modify place change) := by
  intro i hi
  rw [Array.getElem?_modify, Array.getElem?_modify, h i hi]

theorem foldl_modify (h : AgreeUpTo n xs ys) (places : List Nat) (change : α → α) :
    AgreeUpTo n (places.foldl (fun values place => values.modify place change) xs)
      (places.foldl (fun values place => values.modify place change) ys) := by
  induction places generalizing xs ys with
  | nil => exact h
  | cons place places ih => exact ih (h.modify place change)

theorem mapFirst (h : AgreeUpTo n xs ys) (k : Nat) (change : α → α) :
    AgreeUpTo n (Sweep.mapFirst k change xs) (Sweep.mapFirst k change ys) := by
  intro i hi
  rw [Sweep.mapFirst, Sweep.mapFirst, Array.getElem?_mapIdx, Array.getElem?_mapIdx, h i hi]

theorem cleared (enough : n ≤ xs.size) (enough' : n ≤ ys.size) (value : α) :
    AgreeUpTo n (Sweep.mapFirst n (fun _ => value) xs)
      (Sweep.mapFirst n (fun _ => value) ys) := by
  intro i hi
  have inside : i < xs.size := Nat.lt_of_lt_of_le hi enough
  have inside' : i < ys.size := Nat.lt_of_lt_of_le hi enough'
  simp [Sweep.mapFirst, hi, inside, inside']

end AgreeUpTo

variable {α : Type} [Scalar α] {s : Shape}

/-! ## One line -/

/-- The fields agree on the cells and the slots of a shape. -/
structure Field.Agrees (s : Shape) (f f' : Field α) : Prop where
  scores : AgreeUpTo s.cellCount f.scores f'.scores
  impurities : AgreeUpTo s.lineCount f.impurities f'.impurities

theorem Field.Agrees.remove {f f' : Field α} (h : Agrees s f f') (slot : Nat) (line : Line)
    (mean : α) : Agrees s (f.remove slot line mean) (f'.remove slot line mean) where
  scores := h.scores.foldl_modify line.cells (· - mean)
  impurities := h.impurities.modify slot (· + mean)

/-! ## A whole run -/

section

variable {weights weights' scores scores' : Array α} {field field' : Field α}

theorem Shape.totals_congr (hweights : AgreeUpTo s.cellCount weights weights')
    (hscores : AgreeUpTo s.cellCount scores scores') :
    s.totals weights scores = s.totals weights' scores' := by
  rw [totals, totals, hweights.take_eq, hscores.take_eq]

/-- Once the slots are cleared it no longer matters what they held. -/
theorem Field.agrees_opening (covers : field.Covers s) (covers' : field'.Covers s)
    (hweights : AgreeUpTo s.cellCount weights weights')
    (hscores : AgreeUpTo s.cellCount field.scores field'.scores) (intercept : Option α) :
    Agrees s (field.opening s weights intercept) (field'.opening s weights' intercept) := by
  constructor
  · cases intercept with
    | none => exact hscores
    | some _ =>
        simp only [opening, Shape.totals_congr hweights hscores]
        exact hscores.mapFirst _ _
  · exact .cleared covers.lines covers'.lines 0

namespace Sweep

theorem parallel_of_agree (hweights : AgreeUpTo s.cellCount weights weights')
    (hscores : AgreeUpTo s.cellCount scores scores') (tolerance : α) (limit : Option Nat) :
    (s.setting tolerance limit weights scores).Parallel
      (s.setting tolerance limit weights' scores') id (Field.Agrees s) := by
  have totals := Shape.totals_congr hweights hscores
  refine ⟨rfl, congrArg (·.threshold tolerance) totals.symm, Scalar.unnoticed_id, ?_⟩
  intro f f' agree
  refine Field.pass_parallel rfl ?_ agree
  intro f f' slot line member agree
  have inside : ∀ cell ∈ line.cells, cell < s.cellCount := fun cell on =>
    Shape.cell_lt_of_mem_lines member on
  have mean : line.mean weights f.scores = line.mean weights' f'.scores :=
    Line.mean_congr (fun cell on => hweights.getD (inside cell on))
      fun cell on => agree.scores.getD (inside cell on)
  simp only [Shape.setting, mean, totals]
  exact ⟨agree.remove slot line _, fun t => rfl⟩

/-- What two runs leave behind is the same, but for slots that were never cleared. -/
structure Result.Agrees (s : Shape) (result result' : Result α) : Prop where
  convergence : result.convergence = result'.convergence
  intercept : result.intercept = result'.intercept
  scores : AgreeUpTo s.cellCount result.field.scores result'.field.scores
  impurities : result.convergence.stop ≠ .zeroWeight →
    AgreeUpTo s.lineCount result.field.impurities result'.field.impurities

/-- Runs that agree on the cells of the table stop with the same fuel or not at all. -/
theorem run_agrees (covers : field.Covers s) (covers' : field'.Covers s)
    (hweights : AgreeUpTo s.cellCount weights weights')
    (hscores : AgreeUpTo s.cellCount field.scores field'.scores) (fuel : Nat) (tolerance : α)
    (limit : Option Nat) (intercept : Option α) :
    Option.Rel (Result.Agrees s) (run fuel s tolerance limit weights field intercept)
      (run fuel s tolerance limit weights' field' intercept) := by
  have totals := Shape.totals_congr hweights hscores
  cases weighty : Scalar.isZero (s.totals weights field.scores).weight with
  | true =>
      rw [run_of_isZero fuel weighty, run_of_isZero fuel (totals ▸ weighty)]
      exact .some ⟨rfl, rfl, hscores, fun swept => absurd rfl swept⟩
  | false =>
      refine rel_imp (run_parallel id weighty (totals ▸ weighty)
        (parallel_of_agree hweights hscores tolerance limit)
        (Field.agrees_opening covers covers' hweights hscores intercept)
        (congrArg Totals.mean totals.symm) fuel) ?_
      rintro result result' ⟨ended, last, taken⟩
      rw [Option.map_id, id] at taken
      exact ⟨ended.symm, taken.symm, last.scores, fun _ => last.impurities⟩

theorem size_of_run {fuel : Nat} {tolerance : α} {limit : Option Nat} {intercept : Option α}
    {result : Result α} (h : run fuel s tolerance limit weights field intercept = some result) :
    result.field.scores.size = field.scores.size ∧
      result.field.impurities.size = field.impurities.size := by
  rcases run_eq_some h with weightless | ⟨n, -, swept⟩
  · rw [weightless]
    exact ⟨rfl, rfl⟩
  · exact ⟨swept.size_scores, swept.size_impurities⟩

theorem isSome_intercept_of_run {fuel : Nat} {tolerance : α} {limit : Option Nat}
    {intercept : Option α} {result : Result α}
    (h : run fuel s tolerance limit weights field intercept = some result) :
    result.intercept.isSome = intercept.isSome := by
  rcases run_eq_some h with weightless | ⟨n, -, swept⟩
  · rw [weightless]
  · rw [swept.intercept_eq, Option.isSome_map]

end Sweep

end

end Purification
