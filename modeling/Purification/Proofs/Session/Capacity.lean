import Purification.Capacity
import Purification.Proofs.Session.Request
import Purification.Proofs.Shape.Overflow

/-! # When vectors cannot be had

Every shape whose cells and lines can be numbered is accepted, and the owned entry points ask for
vectors of these sizes before they look at a buffer. So they are left without an answer exactly
for the tables that have more lines, or for want of weights more cells, than a vector can have
entries, although a call in place refuses such a table for its buffers.
-/

namespace Purification

theorem lt_capacity_iff {entries : Nat} : capacity < entries ↔ 2 ^ 63 - 1 < 8 * entries := by
  have same : capacity = 1152921504606846975 := rfl
  omega

theorem excess?_eq_some_iff {entries n : Nat} :
    excess? entries = some n ↔ 2 ^ 63 - 1 < 8 * entries ∧ n = entries := by
  rw [← lt_capacity_iff, excess?]
  split
  · rename_i beyond
    simp [beyond, eq_comm]
  · rename_i within
    simp [within]

/-- A count that the lengths decide if they have a shape, and that is small without one. -/
theorem excess?_eq_some_iff_of_count {lengths : List Nat} {entries size n : Nat}
    (fit : Shape.Representable lengths → entries = size)
    (unfit : ¬ Shape.Representable lengths → entries ≤ capacity) :
    excess? entries = some n ↔
      (Shape.Representable lengths ∧ 2 ^ 63 - 1 < 8 * size) ∧ n = size := by
  rw [excess?_eq_some_iff, ← lt_capacity_iff]
  by_cases fits : Shape.Representable lengths
  · rw [fit fits, ← lt_capacity_iff]
    simp only [fits, true_and]
  · constructor
    · rintro ⟨beyond, -⟩
      exact absurd beyond (Nat.not_lt.2 (unfit fits))
    · rintro ⟨⟨fits', -⟩, -⟩
      exact absurd fits' fits

/-! ## What is asked for in vain -/

/-- The slots for these lengths are asked for, and are more than a vector can have. -/
structure Decomposition.Outsized (lengths : List Nat) : Prop where
  declarable : declarable lengths = true
  fits : Shape.Representable lengths
  beyond : 2 ^ 63 - 1 < 8 * Shape.lineTotal lengths

theorem Decomposition.slotCount_of_representable {lengths : List Nat}
    (fits : Shape.Representable lengths) : slotCount lengths = Shape.lineTotal lengths := by
  obtain ⟨shape, made, same⟩ := Shape.exists_ofLengths fits
  simp [slotCount, made, Shape.lineCount, same]

theorem Decomposition.slotCount_of_not_representable {lengths : List Nat}
    (unfit : ¬ Shape.Representable lengths) : slotCount lengths = 0 := by
  obtain ⟨fault, made⟩ := Shape.ofLengths_eq_error unfit
  simp [slotCount, made]

theorem Decomposition.excess?_eq_some_iff {lengths : List Nat} {n : Nat} :
    excess? lengths = some n ↔ Outsized lengths ∧ n = Shape.lineTotal lengths := by
  unfold excess?
  cases declared : declare lengths with
  | error fault =>
      have refused := (not_declarable_of_declare declared).1
      constructor
      · intro found
        cases found
      · rintro ⟨outsized, -⟩
        rw [outsized.declarable] at refused
        cases refused
  | ok lengths' =>
      dsimp only
      have small : ¬ Shape.Representable lengths → slotCount lengths ≤ capacity := by
        intro unfit
        rw [slotCount_of_not_representable unfit]
        exact Nat.zero_le _
      rw [excess?_eq_some_iff_of_count slotCount_of_representable small]
      constructor
      · rintro ⟨⟨fits, beyond⟩, rfl⟩
        exact ⟨⟨declarable_of_declare declared, fits, beyond⟩, rfl⟩
      · rintro ⟨outsized, rfl⟩
        exact ⟨⟨outsized.fits, outsized.beyond⟩, rfl⟩

namespace TableDocument

/-- The weights for this document are made up, and are more than a vector can have. -/
structure Overweighted (x : TableDocument) : Prop where
  omitted : x.weights = none
  fits : Shape.Representable x.lengths
  beyond : 2 ^ 63 - 1 < 8 * Shape.product x.lengths

theorem uniformCount_of_representable {lengths : List Nat} (fits : Shape.Representable lengths)
    (scores : Nat) : uniformCount lengths scores = Shape.product lengths := by
  obtain ⟨shape, made, same⟩ := Shape.exists_ofLengths fits
  simp [uniformCount, made, Shape.cellCount, same]

theorem uniformCount_of_not_representable {lengths : List Nat}
    (unfit : ¬ Shape.Representable lengths) (scores : Nat) :
    uniformCount lengths scores = scores := by
  obtain ⟨fault, made⟩ := Shape.ofLengths_eq_error unfit
  simp [uniformCount, made]

variable {x : TableDocument} {n : Nat}

/-- The scores of a document are a vector already, and so there can be as many weights. -/
theorem weightExcess?_eq_some_iff (held : x.scores.length ≤ capacity) :
    x.weightExcess? = some n ↔ x.Overweighted ∧ n = Shape.product x.lengths := by
  unfold weightExcess?
  cases omitted : x.weights with
  | some weights =>
      constructor
      · intro found
        cases found
      · rintro ⟨overweighted, -⟩
        rw [overweighted.omitted] at omitted
        cases omitted
  | none =>
      dsimp only
      have small : ¬ Shape.Representable x.lengths →
          uniformCount x.lengths x.scores.length ≤ capacity := by
        intro unfit
        rwa [uniformCount_of_not_representable unfit]
      rw [excess?_eq_some_iff_of_count (uniformCount_of_representable · _) small]
      constructor
      · rintro ⟨⟨fits, beyond⟩, rfl⟩
        exact ⟨⟨omitted, fits, beyond⟩, rfl⟩
      · rintro ⟨overweighted, rfl⟩
        exact ⟨⟨overweighted.fits, overweighted.beyond⟩, rfl⟩

theorem excess?_eq_some_iff (held : x.scores.length ≤ capacity) :
    x.excess? = some n ↔
      (x.Overweighted ∧ n = Shape.product x.lengths) ∨
      (¬ x.Overweighted ∧ Decomposition.Outsized x.lengths ∧ n = Shape.lineTotal x.lengths) := by
  rw [excess?, Option.or_eq_some_iff, weightExcess?_eq_some_iff held,
    Decomposition.excess?_eq_some_iff]
  have fits : x.weightExcess? = none ↔ ¬ x.Overweighted := by
    rw [Option.eq_none_iff_forall_ne_some]
    constructor
    · intro never overweighted
      exact never _ ((weightExcess?_eq_some_iff held).2 ⟨overweighted, rfl⟩)
    · intro light m found
      exact light ((weightExcess?_eq_some_iff held).1 found).1
  rw [fits]

end TableDocument

/-! ## The answers -/

namespace Session

variable {s : Session Float} {fuel : Nat} {lengths : List Nat} {weights scores : Array Float}

theorem decomposeOwned_eq_exhausted_iff {n : Nat} :
    s.decomposeOwned fuel lengths weights scores = some (.exhausted n) ↔
      Decomposition.excess? lengths = some n := by
  unfold decomposeOwned
  cases Decomposition.excess? lengths with
  | some entries => simp
  | none => simp

theorem runOwned_eq_exhausted_iff {x : TableDocument} {n : Nat} :
    s.runOwned fuel x = some (.exhausted n) ↔ x.excess? = some n := by
  unfold runOwned
  cases x.excess? with
  | some entries => simp
  | none => simp

/-- What a decomposition and the run of a document are left without, and when. In all other
    cases they are answered as they would be without a limit on vectors. -/
theorem exhausted_iff (s : Session Float) (fuel : Nat) (lengths : List Nat)
    (weights scores : Array Float) (x : TableDocument) (held : x.scores.length ≤ capacity) :
    ((∀ n, s.decomposeOwned fuel lengths weights scores = some (.exhausted n) ↔
        Decomposition.Outsized lengths ∧ n = Shape.lineTotal lengths) ∧
      (¬ Decomposition.Outsized lengths →
        s.decomposeOwned fuel lengths weights scores =
          (s.decompose fuel lengths weights scores).map .answered)) ∧
    (∀ n, s.runOwned fuel x = some (.exhausted n) ↔
        (x.Overweighted ∧ n = Shape.product x.lengths) ∨
        (¬ x.Overweighted ∧ Decomposition.Outsized x.lengths ∧
          n = Shape.lineTotal x.lengths)) ∧
      (¬ x.Overweighted → ¬ Decomposition.Outsized x.lengths →
        s.runOwned fuel x = (s.run fuel x).map .answered) := by
  refine ⟨⟨?_, ?_⟩, ?_, ?_⟩
  · intro n
    rw [decomposeOwned_eq_exhausted_iff, Decomposition.excess?_eq_some_iff]
  · intro fitting
    have fits : Decomposition.excess? lengths = none := by
      rw [Option.eq_none_iff_forall_ne_some]
      intro n found
      exact fitting (Decomposition.excess?_eq_some_iff.1 found).1
    rw [decomposeOwned, fits]
  · intro n
    rw [runOwned_eq_exhausted_iff, TableDocument.excess?_eq_some_iff held]
  · intro light fitting
    have fits : x.excess? = none := by
      rw [Option.eq_none_iff_forall_ne_some]
      intro n found
      rcases (TableDocument.excess?_eq_some_iff held).1 found with ⟨heavy, -⟩ | ⟨-, outsized, -⟩
      · exact light heavy
      · exact fitting outsized
    rw [runOwned, fits]

end Session

/-! ## Tables out of all proportion -/

def Session.unobserved : Session Float := { config := .standard, observer := { sink := .silent } }

theorem Decomposition.outsized_flat : Outsized [1, 2 ^ 61] where
  declarable := by decide
  fits := ⟨by decide, by decide, by decide, by decide, by decide⟩
  beyond := by decide

/-- A document with one dimension, and neither weights nor scores. -/
def TableDocument.bare : TableDocument := { lengths := [2 ^ 60], weights := none, scores := [] }

theorem TableDocument.overweighted_bare : bare.Overweighted where
  omitted := rfl
  fits := ⟨by decide, by decide, by decide, by decide, by decide⟩
  beyond := by decide

/-- A decomposition asks for more slots than a vector can have, and a document for more weights,
    where a call in place is told that its weights are too few. -/
theorem Session.exhausted_iff_silent :
    unobserved.decomposeOwned 0 [1, 2 ^ 61] #[] #[] = some (.exhausted (2 ^ 61 + 1)) ∧
    unobserved.runOwned 0 .bare = some (.exhausted (2 ^ 60)) ∧
    (unobserved.purifyBuffers 0 #[1, 2 ^ 61] #[] #[] #[] 0).map (fun answer => answer.1.result) =
      some (.error (.bufferTooSmall .weights (2 ^ 61) 0)) := by
  have held : TableDocument.bare.scores.length ≤ capacity := Nat.zero_le _
  obtain ⟨⟨slots, -⟩, weights, -⟩ := exhausted_iff unobserved 0 [1, 2 ^ 61] #[] #[] .bare held
  refine ⟨(slots _).2 ⟨Decomposition.outsized_flat, rfl⟩,
    (weights _).2 (.inl ⟨TableDocument.overweighted_bare, rfl⟩), ?_⟩
  rfl

/-- Neither entry point answers whatever it is given. -/
theorem Session.not_forall_answered :
    (¬ ∀ (config : Config Float) (sink : Sink) (s : Session Float) (fuel : Nat)
        (lengths : List Nat) (weights scores : Array Float) (n : Nat),
      Session.start config sink = .ok s →
      s.decomposeOwned fuel lengths weights scores ≠ some (.exhausted n)) ∧
    ¬ ∀ (config : Config Float) (sink : Sink) (s : Session Float) (fuel : Nat)
        (x : TableDocument) (n : Nat),
      Session.start config sink = .ok s → x.scores.length ≤ capacity →
      s.runOwned fuel x ≠ some (.exhausted n) := by
  constructor
  · intro answered
    apply answered .standard .silent unobserved 0 [1, 2 ^ 61] #[] #[] (2 ^ 61 + 1)
      (start_standard .silent)
    rw [decomposeOwned_eq_exhausted_iff, Decomposition.excess?_eq_some_iff]
    exact ⟨Decomposition.outsized_flat, rfl⟩
  · intro answered
    apply answered .standard .silent unobserved 0 .bare (2 ^ 60) (start_standard .silent)
      (Nat.zero_le _)
    rw [runOwned_eq_exhausted_iff, TableDocument.excess?_eq_some_iff (Nat.zero_le _)]
    exact .inl ⟨TableDocument.overweighted_bare, rfl⟩

end Purification
