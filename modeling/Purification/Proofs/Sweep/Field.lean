import Mathlib.Data.List.Basic
import Purification.Proofs.Shape.Incidence
import Purification.Sweep.Pass

/-! # What centring one line changes

Centring writes the cells of one line and the slot of that line. Whatever every such
step preserves, a pass preserves.
-/

namespace Purification

section

variable {α : Type} (change : α → α)

@[simp] theorem size_foldl_modify (places : List Nat) (values : Array α) :
    (places.foldl (fun values place => values.modify place change) values).size = values.size := by
  induction places generalizing values with
  | nil => rfl
  | cons place places ih => rw [List.foldl_cons, ih, Array.size_modify]

theorem getElem?_foldl_modify {places : List Nat} (distinct : places.Nodup) (values : Array α)
    (i : Nat) :
    (places.foldl (fun values place => values.modify place change) values)[i]? =
      if i ∈ places then values[i]?.map change else values[i]? := by
  induction places generalizing values with
  | nil => simp
  | cons place places ih =>
      obtain ⟨absent, rest⟩ := List.nodup_cons.1 distinct
      rw [List.foldl_cons, ih rest, Array.getElem?_modify]
      by_cases here : place = i
      · subst here
        simp [absent]
      · simp [here, Ne.symm here]

theorem Field.eq_of_parts {f f' : Field α} (scores : f.scores = f'.scores)
    (impurities : f.impurities = f'.impurities) : f = f' := by
  cases f
  cases f'
  cases scores
  cases impurities
  rfl

end

variable {α : Type} [Scalar α]

namespace Line

variable (line : Line) (weights scores : Array α)

/-- The scores of a line added up, each multiplied by its weight. -/
def weightedSum : α :=
  line.cells.foldl (fun sum cell => sum + scores.getD cell 0 * weights.getD cell 0) 0

def weightSum : α := line.cells.foldl (fun sum cell => sum + weights.getD cell 0) 0

theorem mean_eq_sums :
    line.mean weights scores =
      if Scalar.isZero (line.weightSum weights) then 0
      else line.weightedSum weights scores / line.weightSum weights := by
  have apart : ∀ (cells : List Nat) (weighted weight : α),
      cells.foldl (fun (sums : α × α) cell =>
        (sums.1 + scores.getD cell 0 * weights.getD cell 0, sums.2 + weights.getD cell 0))
        (weighted, weight) =
      (cells.foldl (fun sum cell => sum + scores.getD cell 0 * weights.getD cell 0) weighted,
        cells.foldl (fun sum cell => sum + weights.getD cell 0) weight) := by
    intro cells
    induction cells with
    | nil => exact fun _ _ => rfl
    | cons cell cells ih => exact fun _ _ => ih _ _
  unfold mean
  dsimp only
  rw [apart]
  rfl

variable {line weights scores}

theorem mean_congr {weights' scores' : Array α}
    (hweights : ∀ cell ∈ line.cells, weights.getD cell 0 = weights'.getD cell 0)
    (hscores : ∀ cell ∈ line.cells, scores.getD cell 0 = scores'.getD cell 0) :
    line.mean weights scores = line.mean weights' scores' := by
  have weight : line.weightSum weights = line.weightSum weights' :=
    List.foldl_ext _ _ _ fun sum cell on => by rw [hweights cell on]
  have weighted : line.weightedSum weights scores = line.weightedSum weights' scores' :=
    List.foldl_ext _ _ _ fun sum cell on => by rw [hweights cell on, hscores cell on]
  rw [mean_eq_sums, mean_eq_sums, weight, weighted]

end Line

namespace Field

variable (f : Field α) (slot : Nat) (line : Line) (mean : α)

@[simp] theorem size_scores_remove : (f.remove slot line mean).scores.size = f.scores.size :=
  size_foldl_modify _ _ _

@[simp] theorem size_impurities_remove :
    (f.remove slot line mean).impurities.size = f.impurities.size := Array.size_modify ..

variable {f line}

theorem getElem?_scores_remove (distinct : line.cells.Nodup) (cell : Nat) :
    (f.remove slot line mean).scores[cell]? =
      if cell ∈ line.cells then f.scores[cell]?.map (· - mean) else f.scores[cell]? :=
  getElem?_foldl_modify (· - mean) distinct f.scores cell

theorem getElem?_impurities_remove (i : Nat) :
    (f.remove slot line mean).impurities[i]? =
      if slot = i then f.impurities[i]?.map (· + mean) else f.impurities[i]? :=
  Array.getElem?_modify

theorem getD_scores_remove (distinct : line.cells.Nodup) {cell : Nat}
    (bound : cell < f.scores.size) :
    (f.remove slot line mean).scores.getD cell 0 =
      if cell ∈ line.cells then f.scores.getD cell 0 - mean else f.scores.getD cell 0 := by
  simp only [Array.getD_eq_getD_getElem?, getElem?_scores_remove slot mean distinct]
  split
  · simp [bound]
  · rfl

theorem getD_impurities_remove {i : Nat} (bound : i < f.impurities.size) :
    (f.remove slot line mean).impurities.getD i 0 =
      if slot = i then f.impurities.getD i 0 + mean else f.impurities.getD i 0 := by
  simp only [Array.getD_eq_getD_getElem?, getElem?_impurities_remove]
  split
  · simp [bound]
  · rfl

/-- There is a score for each cell and a slot for each line. -/
structure Covers (f : Field α) (s : Shape) : Prop where
  cells : s.cellCount ≤ f.scores.size
  lines : s.lineCount ≤ f.impurities.size

theorem Covers.remove {s : Shape} (h : f.Covers s) : (f.remove slot line mean).Covers s :=
  ⟨by simpa using h.cells, by simpa using h.lines⟩

end Field

section

variable {weights : Array α} {threshold : α} {lines : List (Nat × Line)} {f : Field α}

/-- A property that every step of a pass preserves holds of the field after it. -/
theorem Field.pass_preserves {P : Field α → Prop}
    (step : ∀ f slot line, (slot, line) ∈ lines → P f →
      P (f.remove slot line (line.mean weights f.scores)))
    (start : P f) : P (f.pass weights threshold lines).1 := by
  suffices ∀ tally, P (lines.foldl (centre weights threshold) (f, tally)).1 from this Tally.start
  induction lines generalizing f with
  | nil => exact fun _ => start
  | cons numbered lines ih =>
      intro tally
      have first := step f numbered.1 numbered.2 List.mem_cons_self start
      exact ih (fun f slot line member => step f slot line (List.mem_cons_of_mem _ member)) first _

theorem Field.Covers.foldl_centre {s : Shape} (h : f.Covers s) (t : Tally α) :
    (lines.foldl (centre weights threshold) (f, t)).1.Covers s := by
  induction lines generalizing f t with
  | nil => exact h
  | cons numbered lines ih => exact ih (h.remove numbered.1 _) _

theorem Field.Covers.pass {s : Shape} (h : f.Covers s) :
    (f.pass weights threshold lines).1.Covers s :=
  Field.pass_preserves (P := (·.Covers s)) (fun _ slot _ _ covers => covers.remove slot _) h

end

end Purification
