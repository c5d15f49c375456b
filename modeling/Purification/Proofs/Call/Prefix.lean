import Purification.Proofs.Call.Order
import Purification.Proofs.Sweep.Agreement

/-! # Only the prefix matters

The buffers of a call may be longer than its table. What lies beyond the cells and the slots of
the table is neither read nor written, and neither is what the slots and the intercept output
held before. So two calls whose buffers agree on the table itself are answered alike, and each
of them leaves the rest of its buffers alone.
-/

namespace Purification

/-- The entries from `n` on are the same. -/
def AgreeFrom {α : Type} (n : Nat) (xs ys : Array α) : Prop := ∀ i, n ≤ i → xs[i]? = ys[i]?

namespace AgreeFrom

variable {α : Type} {n : Nat} {xs ys : Array α}

theorem refl (n : Nat) (xs : Array α) : AgreeFrom n xs xs := fun _ _ => rfl

theorem modify (h : AgreeFrom n xs ys) {place : Nat} (before : place < n) (change : α → α) :
    AgreeFrom n xs (ys.modify place change) := by
  intro i hi
  rw [Array.getElem?_modify, if_neg (by omega)]
  exact h i hi

theorem foldl_modify (h : AgreeFrom n xs ys) {places : List Nat}
    (before : ∀ place ∈ places, place < n) (change : α → α) :
    AgreeFrom n xs (places.foldl (fun values place => values.modify place change) ys) := by
  induction places generalizing ys with
  | nil => exact h
  | cons place places ih =>
      exact ih (h.modify (before place List.mem_cons_self) change)
        fun place later => before place (List.mem_cons_of_mem _ later)

theorem mapFirst (xs : Array α) (change : α → α) :
    AgreeFrom n xs (Sweep.mapFirst n change xs) := by
  intro i hi
  have beyond : ¬ i < n := Nat.not_lt.2 hi
  simp [Sweep.mapFirst, beyond]

end AgreeFrom

/-! ## Two calls for one table -/

variable {α : Type}

namespace Call

/-- The calls declare the same table, ask for the same accuracy, and both or neither of them
    want the intercept. -/
structure Alike (call call' : Call α) : Prop where
  tolerance : call.tolerance = call'.tolerance
  dimensionCount : call.dimensionCount = call'.dimensionCount
  counted : call.counted = call'.counted
  intercept : call.intercept.isSome = call'.intercept.isSome

theorem ofLengths_extents {call : Call α} {shape : Shape} {weights : Array α} {field : Field α}
    (admitted : call.admission = .ok (.table shape weights field)) :
    Shape.ofLengths call.extents = .ok shape := by
  obtain ⟨lengths, given, made⟩ := (admits_of_admission admitted).lengths_eq
  rw [extents, counted, given]
  exact made

variable {call call' : Call α} {shape shape' : Shape} {weights weights' : Array α}
  {field field' : Field α}

theorem Alike.shape_eq (alike : call.Alike call')
    (admitted : call.admission = .ok (.table shape weights field))
    (admitted' : call'.admission = .ok (.table shape' weights' field')) : shape' = shape := by
  have made := ofLengths_extents admitted
  rw [extents, alike.counted] at made
  exact Except.ok.inj ((ofLengths_extents admitted').symm.trans made)

theorem Alike.cleared [Zero α] (alike : call.Alike call') :
    (call'.intercept.map fun _ => (0 : α)) = call.intercept.map fun _ => 0 := by
  have both := alike.intercept
  cases given : call.intercept <;> cases given' : call'.intercept <;> simp_all

end Call

/-! ## What a run leaves alone -/

variable [Scalar α]

/-- The second field is the first but for the cells and the slots of a shape. -/
structure Field.Spares (s : Shape) (f f' : Field α) : Prop where
  scores : AgreeFrom s.cellCount f.scores f'.scores
  impurities : AgreeFrom s.lineCount f.impurities f'.impurities

namespace Field

variable {s : Shape} {f f' : Field α}

theorem Spares.remove (h : Spares s f f') {slot : Nat} {line : Line}
    (member : (slot, line) ∈ s.lines) (mean : α) : Spares s f (f'.remove slot line mean) where
  scores := h.scores.foldl_modify (fun _ on => Shape.cell_lt_of_mem_lines member on) (· - mean)
  impurities := h.impurities.modify (Shape.slot_lt_of_mem_lines member) (· + mean)

theorem spares_opening (f : Field α) (s : Shape) (weights : Array α) (intercept : Option α) :
    Spares s f (f.opening s weights intercept) where
  scores := by
    cases intercept with
    | none => exact .refl _ _
    | some _ => exact .mapFirst _ _
  impurities := .mapFirst _ _

end Field

theorem Sweep.spares_of_run {s : Shape} {fuel : Nat} {tolerance : α} {limit : Option Nat}
    {weights : Array α} {field : Field α} {intercept : Option α} {result : Result α}
    (h : run fuel s tolerance limit weights field intercept = some result) :
    field.Spares s result.field := by
  rcases run_eq_some h with weightless | ⟨n, -, swept⟩
  · rw [weightless]
    exact ⟨.refl _ _, .refl _ _⟩
  · rw [swept.field_eq]
    exact Setting.after_preserves (fun _ _ _ member spared => spared.remove member _)
      (field.spares_opening s weights intercept) (n + 1)

/-! ## Two reports -/

/-- The reports of two calls for a table of this shape, which found these fields in their
    buffers, are the same as far as the table goes, and beyond it nothing has changed. -/
structure Report.Alike (s : Shape) (field field' : Field α) (report report' : Report α) : Prop where
  intercept : report.intercept = report'.intercept
  left : ∃ c last last', report.Leaves c last ∧ report'.Leaves c last' ∧
    AgreeUpTo s.cellCount last.scores last'.scores ∧
    (c.stop ≠ .zeroWeight → AgreeUpTo s.lineCount last.impurities last'.impurities) ∧
    field.Spares s last ∧ field'.Spares s last'

/-- Two calls for one table whose weights and scores agree on its cells are both answered with
    the same fuel or neither is: with one outcome, one intercept, and the same scores and slots
    of the table, the slots of a table without weight excepted. Whatever else the buffers held
    has no effect, and what they held beyond the table they still hold. -/
theorem Call.only_prefix_matters {call call' : Call α} {shape shape' : Shape}
    {weights weights' : Array α} {field field' : Field α} (alike : call.Alike call')
    (admitted : call.admission = .ok (.table shape weights field))
    (admitted' : call'.admission = .ok (.table shape' weights' field'))
    (hweights : AgreeUpTo shape.cellCount weights weights')
    (hscores : AgreeUpTo shape.cellCount field.scores field'.scores) (fuel : Nat)
    (limit : Option Nat) :
    shape' = shape ∧ Option.Rel (Report.Alike shape field field') (call.purify fuel limit)
      (call'.purify fuel limit) := by
  obtain rfl := alike.shape_eq admitted admitted'
  have runs := Sweep.run_agrees (admits_of_admission admitted).covers
    (admits_of_admission admitted').covers hweights hscores fuel call.tolerance limit
    (call.intercept.map fun _ => 0)
  refine ⟨rfl, ?_⟩
  rw [purify_of_admission admitted, purify_of_admission admitted', ← alike.tolerance,
    alike.cleared]
  generalize ran : Sweep.run _ _ _ _ weights field _ = first at runs ⊢
  generalize ran' : Sweep.run _ _ _ _ weights' field' _ = second at runs ⊢
  cases runs with
  | none => exact .none
  | @some result result' agrees =>
      refine .some ⟨agrees.intercept, result.convergence, result.field, result'.field,
        ⟨rfl, rfl, rfl⟩, ⟨?_, rfl, rfl⟩, agrees.scores, agrees.impurities,
        Sweep.spares_of_run ran, Sweep.spares_of_run ran'⟩
      rw [agrees.convergence]

/-- A call whose buffers are as long as its table needs them. -/
def Call.snug : Call Float :=
  { tolerance := 0
    dimensionCount := 1
    lengths := some #[2]
    weights := some #[1, 3]
    scores := some #[5, 2]
    impurities := some #[0]
    intercept := some 0 }

/-- The same table in longer buffers, where other things were before. -/
def Call.roomy : Call Float :=
  { Call.snug with
    lengths := some #[2, -7]
    weights := some #[1, 3, 0.0 / 0.0]
    scores := some #[5, 2, 9]
    impurities := some #[0.0 / 0.0, 1.0 / 0.0]
    intercept := some 7 }

/-- Both calls are answered, and alike. -/
theorem Call.only_prefix_matters_roomy :
    ∃ shape report report', Shape.ofLengths [2] = .ok shape ∧
      Call.snug.purify 2 none = some report ∧ Call.roomy.purify 2 none = some report' ∧
      Report.Alike shape ⟨#[5, 2], #[0]⟩ ⟨#[5, 2, 9], #[0.0 / 0.0, 1.0 / 0.0]⟩ report report' := by
  have alike : Call.snug.Alike Call.roomy := ⟨rfl, rfl, rfl, rfl⟩
  have admitted : Call.snug.admission = .ok (.table ⟨[2], Shape.representable_of_fault?_eq_none
      (by decide)⟩ #[1, 3] ⟨#[5, 2], #[0]⟩) := rfl
  have admitted' : Call.roomy.admission = .ok (.table ⟨[2], Shape.representable_of_fault?_eq_none
      (by decide)⟩ #[1, 3, 0.0 / 0.0] ⟨#[5, 2, 9], #[0.0 / 0.0, 1.0 / 0.0]⟩) := rfl
  have hweights : AgreeUpTo 2 (#[1, 3] : Array Float) #[1, 3, 0.0 / 0.0] :=
    fun | 0, _ => rfl | 1, _ => rfl
  have hscores : AgreeUpTo 2 (#[5, 2] : Array Float) #[5, 2, 9] := fun | 0, _ => rfl | 1, _ => rfl
  obtain ⟨-, reports⟩ := only_prefix_matters alike admitted admitted' hweights hscores 2 none
  have answered : (Call.snug.purify 2 none).isSome = true := by decide +kernel
  obtain ⟨report, answered⟩ := Option.isSome_iff_exists.1 answered
  rw [answered] at reports
  generalize Call.roomy.purify 2 none = second at reports ⊢
  cases reports with
  | some agree => exact ⟨_, _, _, rfl, answered, rfl, agree⟩

end Purification
