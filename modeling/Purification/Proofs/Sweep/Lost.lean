import Purification.Proofs.Sweep.Trajectory

/-! # What is lost in a sweep

Some results carry a mark on to everything that is computed from them, as NaN does among
doubles. Once the mean of a line has such a mark, all scores of the line have it, and no
later step takes it off; and the summed impurity of a pass has the mark only if the mean of
a line had. So from the first pass on whose summed impurity is lost, that of every pass is.
-/

namespace Purification

variable {α : Type} [Scalar α]

/-- A mark that results inherit from what they are computed from. The numbers it never comes
    from by adding up, magnitudes among them, are called sound. -/
structure Scalar.Inherits (lost : α → Bool) (sound : α → Prop) : Prop where
  add : ∀ {x y : α}, lost x = true ∨ lost y = true → lost (x + y) = true
  sub : ∀ {x y : α}, lost x = true ∨ lost y = true → lost (x - y) = true
  mul : ∀ {x y : α}, lost x = true ∨ lost y = true → lost (x * y) = true
  div : ∀ {x y : α}, lost x = true ∨ lost y = true → lost (x / y) = true
  abs : ∀ {x : α}, lost x = true → lost (Scalar.abs x) = true
  not_lost : ∀ {x : α}, sound x → lost x = false
  zero : sound 0
  magnitude : ∀ {x : α}, lost x = false → sound (Scalar.abs x)
  sum : ∀ {x y : α}, sound x → sound y → sound (x + y)

variable {lost : α → Bool} {sound : α → Prop} {s : Shape} {f : Field α} {weights : Array α}
  {line line' : Line} {slot slot' : Nat}

/-- The line has weight and cells, and the scores of all of these are lost. -/
structure Field.Lost (lost : α → Bool) (f : Field α) (weights : Array α) (line : Line) : Prop where
  weighty : Scalar.isZero (line.weightSum weights) = false
  cells : line.cells ≠ []
  scores : ∀ cell ∈ line.cells, lost (f.scores.getD cell 0) = true

namespace Scalar.Inherits

variable (h : Inherits lost sound)

include h

theorem foldl {scores : Array α} {cells : List Nat} {sum : α}
    (met : lost sum = true ∨ ∃ cell ∈ cells, lost (scores.getD cell 0) = true) :
    lost (cells.foldl (fun sum cell => sum + scores.getD cell 0 * weights.getD cell 0) sum) =
      true := by
  induction cells generalizing sum with
  | nil =>
      rcases met with met | ⟨cell, on, -⟩
      · exact met
      · cases on
  | cons cell cells ih =>
      refine ih ?_
      rcases met with met | ⟨cell', on, met⟩
      · exact .inl (h.add (.inl met))
      · rcases List.mem_cons.1 on with rfl | later
        · exact .inl (h.add (.inr (h.mul (.inl met))))
        · exact .inr ⟨cell', later, met⟩

theorem mean_of_lost (gone : f.Lost lost weights line) :
    lost (line.mean weights f.scores) = true := by
  obtain ⟨cell, on⟩ := List.exists_mem_of_ne_nil _ gone.cells
  rw [Line.mean_eq_sums, gone.weighty]
  exact h.div (.inl (h.foldl (.inr ⟨cell, on, gone.scores cell on⟩)))

theorem weighty_of_mean {scores : Array α} (met : lost (line.mean weights scores) = true) :
    Scalar.isZero (line.weightSum weights) = false := by
  rw [Line.mean_eq_sums] at met
  split at met
  · cases (h.not_lost h.zero).symm.trans met
  · rename_i weighty
    exact Bool.eq_false_iff.2 weighty

/-! ## One step -/

theorem lost_remove (covers : f.Covers s) (member : (slot, line) ∈ s.lines)
    (met : lost (line.mean weights f.scores) = true) :
    (f.remove slot line (line.mean weights f.scores)).Lost lost weights line := by
  refine ⟨h.weighty_of_mean met, Shape.cells_ne_nil_of_mem_lines member, fun cell on => ?_⟩
  rw [f.getD_scores_remove slot _ (Shape.cells_nodup_of_mem_lines member)
    (Nat.lt_of_lt_of_le (Shape.cell_lt_of_mem_lines member on) covers.cells), if_pos on]
  exact h.sub (.inr met)

theorem remove_of_lost (gone : f.Lost lost weights line) (covers : f.Covers s)
    (member : (slot, line) ∈ s.lines) (member' : (slot', line') ∈ s.lines) (mean : α) :
    (f.remove slot' line' mean).Lost lost weights line := by
  refine ⟨gone.weighty, gone.cells, fun cell on => ?_⟩
  rw [f.getD_scores_remove slot' mean (Shape.cells_nodup_of_mem_lines member')
    (Nat.lt_of_lt_of_le (Shape.cell_lt_of_mem_lines member on) covers.cells)]
  split
  · exact h.sub (.inl (gone.scores cell on))
  · exact gone.scores cell on

/-! ## One pass -/

variable {threshold : α} {lines : List (Nat × Line)} {t : Tally α}

theorem foldl_centre_of_lost (gone : f.Lost lost weights line) (covers : f.Covers s)
    (member : (slot, line) ∈ s.lines) (within : ∀ numbered ∈ lines, numbered ∈ s.lines) :
    (lines.foldl (centre weights threshold) (f, t)).1.Lost lost weights line := by
  induction lines generalizing f t with
  | nil => exact gone
  | cons numbered lines ih =>
      have first := h.remove_of_lost gone covers member (within _ List.mem_cons_self)
        (numbered.2.mean weights f.scores)
      exact ih first (covers.remove numbered.1 _) fun numbered later =>
        within numbered (List.mem_cons_of_mem _ later)

theorem exists_lost (covers : f.Covers s) (within : ∀ numbered ∈ lines, numbered ∈ s.lines)
    (before : sound t.impurity)
    (met : lost (lines.foldl (centre weights threshold) (f, t)).2.impurity = true) :
    ∃ numbered ∈ lines,
      (lines.foldl (centre weights threshold) (f, t)).1.Lost lost weights numbered.2 := by
  induction lines generalizing f t with
  | nil => cases (h.not_lost before).symm.trans met
  | cons numbered lines ih =>
      obtain ⟨slot, line⟩ := numbered
      have member := within _ List.mem_cons_self
      have later : ∀ numbered ∈ lines, numbered ∈ s.lines := fun numbered later =>
        within numbered (List.mem_cons_of_mem _ later)
      have covers' : (f.remove slot line (line.mean weights f.scores)).Covers s :=
        covers.remove slot _
      cases mean : lost (line.mean weights f.scores) with
      | true =>
          refine ⟨(slot, line), List.mem_cons_self, ?_⟩
          rw [List.foldl_cons]
          exact h.foldl_centre_of_lost (h.lost_remove covers member mean) covers' member later
      | false =>
          obtain ⟨numbered, on, gone⟩ := ih covers' later (h.sum before (h.magnitude mean)) met
          exact ⟨numbered, List.mem_cons_of_mem _ on, gone⟩

/-- Centring a line that is lost, along with others, adds up to something that is lost. -/
theorem impurity_of_lost (covers : f.Covers s) (within : ∀ numbered ∈ lines, numbered ∈ s.lines)
    (met : lost t.impurity = true ∨ ∃ numbered ∈ lines, f.Lost lost weights numbered.2) :
    lost (lines.foldl (centre weights threshold) (f, t)).2.impurity = true := by
  induction lines generalizing f t with
  | nil =>
      rcases met with met | ⟨numbered, on, -⟩
      · exact met
      · cases on
  | cons numbered lines ih =>
      obtain ⟨slot, line⟩ := numbered
      have member := within _ List.mem_cons_self
      refine ih (covers.remove slot _)
        (fun numbered later => within numbered (List.mem_cons_of_mem _ later)) ?_
      rcases met with met | ⟨numbered, on, gone⟩
      · exact .inl (h.add (.inl met))
      · rcases List.mem_cons.1 on with rfl | later
        · exact .inl (h.add (.inr (h.abs (h.mean_of_lost gone))))
        · exact .inr ⟨numbered, later,
            h.remove_of_lost gone covers (within _ on) member _⟩

theorem tally_succ {g : Sweep.Setting α} {field : Field α} (covers : field.Covers s)
    (within : ∀ numbered ∈ g.lines, numbered ∈ s.lines) {n : Nat}
    (met : lost (g.tally field n).impurity = true) :
    lost (g.tally field (n + 1)).impurity = true := by
  have covers' := g.covers_after covers
  obtain ⟨numbered, on, gone⟩ := h.exists_lost (covers' n) within h.zero met
  exact h.impurity_of_lost (covers' (n + 1)) within (.inr ⟨numbered, on, gone⟩)

end Scalar.Inherits

end Purification
