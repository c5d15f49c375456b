import Purification.Proofs.Shape.Numbering
import Purification.Proofs.Sweep.Block

/-! # One dimension at once

A sweep works in place: it reads the scores that it has been writing. Along one dimension that makes
no difference. Sweeping its lines in place, in whatever order, leaves the scores and the slots that
one gets by working out all means first and moving them afterwards. A pass is then one such
simultaneous move for each dimension, and nothing is rearranged or rounded in saying so.
-/

namespace Purification

variable {α : Type} [Scalar α]

namespace Field

/-- The field after all lines along dimension `d` have lost their means at once. Each cell loses
    the mean of its own line, and each slot of the dimension gains the mean of the line that it
    belongs to, the means being those of the field as it is. -/
def atOnce (f : Field α) (s : Shape) (d : Nat) (weights : Array α) : Field α :=
  let mean := fun i => (s.lineAt d i).mean weights f.scores
  { scores := f.scores.mapIdx fun cell x =>
      if cell < s.cellCount then x - mean (s.surface d cell) else x
    impurities := f.impurities.mapIdx fun slot x =>
      if s.offset d ≤ slot ∧ slot < s.offset (d + 1) then x + mean (slot - s.offset d) else x }

/-- The field after given means have moved, whatever the means have become meanwhile. -/
def removeAll (f : Field α) (taken : List ((Nat × Line) × α)) : Field α :=
  taken.foldl (fun f ((slot, line), mean) => f.remove slot line mean) f

variable {s : Shape} {d : Nat} {f : Field α} {weights : Array α} {threshold : α}
  {order : List (Nat × Line)}

/-- Sweeping in place moves the means that are met. -/
theorem foldl_centre_eq_removeAll (threshold : α) (f : Field α) (lines : List (Nat × Line))
    (t : Tally α) :
    (lines.foldl (centre weights threshold) (f, t)).1 =
      f.removeAll (lines.zip (f.means weights lines)) := by
  induction lines generalizing f t with
  | nil => rfl
  | cons numbered lines ih => exact ih _ _

/-! ## A block in any order -/

section

variable (any : order.Perm (s.linesOf d))

include any

theorem means_of_perm :
    f.means weights order = order.map fun numbered => numbered.2.mean weights f.scores :=
  means_along (fun _ => any.mem_iff.1) (any.nodup_iff.2 Shape.nodup_linesOf)

theorem foldl_centre_of_perm (hd : d < s.rank) (t : Tally α) :
    (order.foldl (centre weights threshold) (f, t)).1 = f.atOnce s d weights := by
  have along : ∀ numbered ∈ order, numbered ∈ s.linesOf d := fun _ => any.mem_iff.1
  have distinct : order.Nodup := any.nodup_iff.2 Shape.nodup_linesOf
  apply eq_of_parts
  · apply Array.ext_getElem?
    intro cell
    -- the cells of the lines that are swept are those of the table
    have listed : (s.slot d cell, s.lineAt d (s.surface d cell)) ∈ order ↔
        cell < s.cellCount := by
      rw [any.mem_iff, Shape.mem_linesOf_iff, ← Shape.surface_lt_iff hd]
      constructor
      · rintro ⟨i, inside, same, -⟩
        rwa [Nat.add_left_cancel same]
      · intro inside
        exact ⟨_, inside, rfl, rfl⟩
    rw [getElem?_scores_foldl_along along distinct, atOnce, Array.getElem?_mapIdx]
    simp only [listed]
    split
    · rfl
    · exact Option.map_id_apply.symm
  · apply Array.ext_getElem?
    intro slot
    rw [atOnce, Array.getElem?_mapIdx]
    by_cases own : s.offset d ≤ slot ∧ slot < s.offset (d + 1)
    · obtain ⟨i, rfl⟩ := Nat.exists_eq_add_of_le own.1
      have inside : i < s.linesAlong d := by
        have := own.2
        rw [Shape.offset_succ hd] at this
        omega
      have listed : (s.offset d + i, s.lineAt d i) ∈ order :=
        any.mem_iff.2 (Shape.mem_linesOf_iff.2 ⟨i, inside, rfl, rfl⟩)
      simp only [own, and_self, if_true, Nat.add_sub_cancel_left]
      rw [getElem?_impurities_foldl_along along distinct, if_pos listed]
    · have absent : slot ∉ order.map (·.1) := by
        intro listed
        obtain ⟨⟨_, line⟩, member, rfl⟩ := List.mem_map.1 listed
        obtain ⟨i, inside, rfl, -⟩ := Shape.mem_linesOf_iff.1 (along _ member)
        rw [Shape.offset_succ hd] at own
        exact own ⟨Nat.le_add_right _ _, Nat.add_lt_add_left inside _⟩
      simp only [own, if_false]
      rw [getElem?_impurities_foldl absent]
      exact Option.map_id_apply.symm

end

/-- The lines along one dimension can be swept in place in any order. The field is the one that
    gets all means at once, which is also what comes of taking all means at the start and moving
    them one after the other. The means met are those of the start, and so are the magnitudes that
    are compared with the threshold, and what is found. -/
theorem block_at_once (hd : d < s.rank) (any : order.Perm (s.linesOf d)) (f : Field α)
    (weights : Array α) (threshold : α) (t : Tally α) :
    let mean := fun numbered : Nat × Line => numbered.2.mean weights f.scores
    let swept := order.foldl (centre weights threshold) (f, t)
    swept.1 = f.atOnce s d weights ∧
    f.removeAll (order.map fun numbered => (numbered, mean numbered)) = f.atOnce s d weights ∧
    swept.2 = (f.means weights order).foldl (·.note threshold ·) t ∧
    ((f.means weights order).map Scalar.abs).Perm
      ((s.linesOf d).map fun numbered => Scalar.abs (mean numbered)) ∧
    swept.2.retry = (t.retry || (s.linesOf d).any fun numbered =>
      Scalar.lt threshold (Scalar.abs (mean numbered))) := by
  intro mean swept
  have met : f.means weights order = order.map mean := means_of_perm any
  have tally : swept.2 = (f.means weights order).foldl (·.note threshold ·) t :=
    tally_foldl f order t
  have pairs : order.zip (f.means weights order) =
      order.map fun numbered => (numbered, mean numbered) := by
    have zipped : (order.map id).zip (order.map mean) = _ := List.zip_map'
    rwa [List.map_id, ← met] at zipped
  have field : swept.1 = f.atOnce s d weights := foldl_centre_of_perm any hd t
  refine ⟨field, ?_, tally, ?_, ?_⟩
  · rw [← pairs, ← foldl_centre_eq_removeAll threshold f order t]
    exact field
  · rw [met, List.map_map]
    exact any.map _
  · rw [tally, Tally.retry_foldl_note, met, List.any_map, any.any_eq]
    rfl

/-- The lines along the last dimension of a slab, swept in doubles from the last one to the first.
    One of them has no weight. -/
theorem block_at_once_reversed :
    let weights : Array Float := #[1, 0, 2, 0, 1, 0]
    let f : Field Float := ⟨#[1, 5, 4, 1e16, -5, 0.1], Array.replicate 11 0.1⟩
    let order := (Shape.slab.linesOf 2).reverse
    let swept := order.foldl (centre weights 0.25) (f, Tally.start)
    order.Perm (Shape.slab.linesOf 2) ∧ swept.1 = f.atOnce Shape.slab 2 weights ∧
    swept.1.scores = #[0, 5, 3, 1e16, -6, 0.1] ∧ swept.1.impurities.getD 9 0 = 1.1 ∧
    swept.2.retry = true := by
  intro weights f order swept
  have any : order.Perm (Shape.slab.linesOf 2) := List.reverse_perm _
  obtain ⟨same, -, -, -, retry⟩ :=
    block_at_once (by decide) any f weights 0.25 Tally.start
  refine ⟨any, same, ?_, ?_, ?_⟩
  · rw [same]
    decide +kernel
  · rw [same]
    decide +kernel
  · rw [retry]
    decide +kernel

/-! ## A pass -/

/-- Dimension after dimension, a pass moves the means of all lines at once. -/
theorem pass_eq_foldl_atOnce (f : Field α) (s : Shape) (weights : Array α) (threshold : α) :
    (f.pass weights threshold s.lines).1 =
      (List.range s.rank).foldl (fun f d => f.atOnce s d weights) f := by
  suffices ∀ n ≤ s.rank, ∀ t,
      (((List.range n).flatMap s.linesOf).foldl (centre weights threshold) (f, t)).1 =
        (List.range n).foldl (fun f d => f.atOnce s d weights) f from
    this s.rank (Nat.le_refl _) Tally.start
  intro n within t
  induction n with
  | zero => rfl
  | succ n ih =>
      rw [Shape.flatMap_linesOf_succ, List.foldl_append, List.range_succ, List.foldl_append,
        ← ih (Nat.le_of_succ_le within)]
      exact foldl_centre_of_perm (.refl _) within _

end Field

end Purification
