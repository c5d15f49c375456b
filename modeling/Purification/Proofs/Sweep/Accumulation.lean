import Purification.Proofs.Shape.Numbering
import Purification.Proofs.Sweep.Block
import Purification.Proofs.Sweep.Opening

/-! # What a slot gathers

A pass comes to each line once, and puts the mean that the line has just then into the slot with
the line's number; no other line writes there. A run clears the slots before its first pass. So
what it leaves in a slot are the means of that one line, one from each pass, added up in turn.
-/

namespace Purification

variable {α : Type} [Scalar α]

/-- A pass puts into the slot of a line the mean that the lines before it have left. -/
theorem Field.getElem?_impurities_pass {f : Field α} {weights : Array α} {threshold : α}
    {before after : List (Nat × Line)} {slot : Nat} {line : Line}
    (once : ((before ++ (slot, line) :: after).map (·.1)).Nodup) :
    (f.pass weights threshold (before ++ (slot, line) :: after)).1.impurities[slot]? =
      f.impurities[slot]?.map (· + line.mean weights (before.foldl (centre weights threshold)
        (f, Tally.start)).1.scores) := by
  rw [List.map_append, List.map_cons, List.nodup_middle, List.nodup_cons, List.mem_append,
    not_or] at once
  obtain ⟨⟨notBefore, notAfter⟩, -⟩ := once
  rw [pass, List.foldl_append, List.foldl_cons, centre, getElem?_impurities_foldl notAfter,
    getElem?_impurities_remove, if_pos rfl, getElem?_impurities_foldl notBefore]

namespace Sweep

namespace Setting

variable (g : Setting α) (field : Field α)

/-- The field in pass `n + 1` when `k` lines have been centred. -/
def reached (n k : Nat) : Field α :=
  ((g.lines.take k).foldl (centre g.weights g.threshold) (g.after field n, Tally.start)).1

/-- The means with which the first `n` passes come to line `i`, added up. -/
def gathered (i : Nat) (line : Line) : Nat → α
  | 0 => 0
  | n + 1 => gathered i line n + line.mean g.weights (g.reached field n i).scores

variable {g field} {i : Nat} {line : Line}

theorem getElem?_impurities_after_succ (once : (g.lines.map (·.1)).Nodup)
    (listed : g.lines[i]? = some (i, line)) (n : Nat) :
    (g.after field (n + 1)).impurities[i]? =
      (g.after field n).impurities[i]?.map
        (· + line.mean g.weights (g.reached field n i).scores) := by
  obtain ⟨within, same⟩ := List.getElem?_eq_some_iff.1 listed
  have cut : g.lines = g.lines.take i ++ (i, line) :: g.lines.drop (i + 1) := by
    rw [← same, List.getElem_cons_drop, List.take_append_drop]
  rw [after, reached]
  -- only the lines of this pass are cut, not those of the passes before
  generalize g.after field n = f
  conv_lhs => rw [cut]
  exact Field.getElem?_impurities_pass (cut ▸ once)

theorem getElem?_impurities_after (once : (g.lines.map (·.1)).Nodup)
    (listed : g.lines[i]? = some (i, line)) (cleared : field.impurities[i]? = some 0) (n : Nat) :
    (g.after field n).impurities[i]? = some (g.gathered field i line n) := by
  induction n with
  | zero => exact cleared
  | succ n ih =>
      rw [getElem?_impurities_after_succ once listed, ih]
      rfl

end Setting

variable {shape : Shape} {tolerance : α} {limit : Option Nat} {weights : Array α}
  {field : Field α} {intercept : Option α} {n : Nat} {result : Result α}

theorem getElem?_impurities_opening {i : Nat} (inside : i < shape.lineCount)
    (covers : field.Covers shape) :
    (field.opening shape weights intercept).impurities[i]? = some 0 := by
  have there : i < field.impurities.size := Nat.lt_of_lt_of_le inside covers.lines
  show (mapFirst shape.lineCount (fun _ => 0) field.impurities)[i]? = some 0
  rw [mapFirst, Array.getElem?_mapIdx, Array.getElem?_eq_getElem there, Option.map_some,
    if_pos inside]

theorem Swept.getElem?_impurities
    (h : Swept shape tolerance limit weights field intercept n result)
    (covers : field.Covers shape) {i : Nat} {line : Line}
    (listed : shape.lines[i]? = some (i, line)) :
    result.field.impurities[i]? =
      some ((shape.setting tolerance limit weights field.scores).gathered
        (field.opening shape weights intercept) i line result.convergence.passes) := by
  have inside : i < shape.lineCount := by
    rw [← Shape.length_lines]
    exact (List.getElem?_eq_some_iff.1 listed).1
  have passes : result.convergence.passes = n + 1 := by
    rw [h.convergence_eq]
    rfl
  rw [h.field_eq, passes]
  exact Setting.getElem?_impurities_after Shape.nodup_map_fst_lines listed
    (getElem?_impurities_opening inside covers) (n + 1)

end Sweep

end Purification
