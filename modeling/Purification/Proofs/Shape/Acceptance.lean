import Mathlib.Algebra.BigOperators.Group.List.Lemmas
import Purification.Proofs.Guarded.Layout

/-! # Which lengths make a shape

Lengths are accepted if each is positive, their number is one a shape can have, and the cells and
the lines of the table come to numbers of 64 bits. All other lengths are refused, for the first
reason in one list: their number, then the first dimension at which multiplying them up meets a zero
or gets out of range, then the first block at which counting the lines does.
-/

namespace Purification.Shape

/-! ## Reasons -/

/-- Multiplying up the lengths cannot go on after dimension `k`. -/
def CellsStop (lengths : List Nat) (k : Nat) : Prop :=
  lengths[k]? = some 0 ∨ CellsOverflow lengths k

/-- What can be wrong with lengths, in the order in which it is looked for. -/
def refusals (lengths : List Nat) : List (Fault → Prop) :=
  [fun fault => lengths.length = 0 ∧ fault = .emptyShape,
   fun fault => 30 < lengths.length ∧ fault = .tooManyDimensions lengths.length 30,
   fun fault => ∃ k, IsLeast {k | CellsStop lengths k} k ∧
     fault = if lengths[k]? = some 0 then .zeroDimensionLength k else .cellCountOverflow k,
   fun fault => ∃ k, IsLeast {k | LinesOverflow lengths k} k ∧ fault = .cellCountOverflow k]

variable {lengths : List Nat}

theorem single_of_mem_refusals {rule : Fault → Prop} (member : rule ∈ refusals lengths) :
    ∀ fault fault', rule fault → rule fault' → fault = fault' := by
  simp only [refusals, List.mem_cons, List.not_mem_nil, or_false] at member
  rcases member with rfl | rfl | rfl | rfl
  · rintro _ _ ⟨-, rfl⟩ ⟨-, rfl⟩
    rfl
  · rintro _ _ ⟨-, rfl⟩ ⟨-, rfl⟩
    rfl
  · rintro _ _ ⟨k, least, rfl⟩ ⟨k', least', rfl⟩
    rw [least.unique least']
  · rintro _ _ ⟨k, least, rfl⟩ ⟨k', least', rfl⟩
    rw [least.unique least']

theorem not_cellsStop (passed : cellFault? 0 1 lengths = none) (k : Nat) :
    ¬ CellsStop lengths k := by
  obtain ⟨positive, within⟩ := of_cellFault?_eq_none (by decide) passed
  rw [Nat.one_mul] at within
  rintro (zero | overflow)
  · exact Nat.lt_irrefl 0 (positive 0 (List.mem_of_getElem? zero))
  · exact not_cellsOverflow positive within k overflow

/-- What is found wrong with lengths is the first thing that is. -/
theorem first_refusals (lengths : List Nat) : First (refusals lengths) (fault? lengths) := by
  unfold refusals fault?
  split
  · rename_i empty
    exact .here ⟨empty, rfl⟩
  rename_i nonempty
  refine .later (fun _ empty => nonempty empty.1) ?_
  split
  · rename_i high
    exact .here ⟨high, rfl⟩
  rename_i low
  refine .later (fun _ high => low high.1) ?_
  cases cells : cellFault? 0 1 lengths with
  | some fault =>
      obtain ⟨k, least, rfl⟩ := isLeast_of_cellFault? cells
      refine .here ⟨k, ?_, by rw [Nat.zero_add]⟩
      simpa only [CellsStop, CellsOverflow, Nat.one_mul, product_eq_prod, wordBound_eq] using least
  | none =>
      refine .later ?_ ?_
      · rintro _ ⟨k, least, -⟩
        exact not_cellsStop cells k least.1
      · rw [Option.none_or]
        cases lines : lineFault? (product lengths) 0 0 lengths with
        | some fault =>
            obtain ⟨k, least, rfl⟩ := isLeast_of_lineFault? lines
            refine .here ⟨k, ?_, by rw [Nat.zero_add]⟩
            simpa only [LinesOverflow, Nat.zero_add, product_eq_prod, total_eq_sum, wordBound_eq]
              using least
        | none =>
            have within := of_lineFault?_eq_none (by decide) lines
            rw [Nat.zero_add] at within
            refine .later ?_ .silent
            rintro _ ⟨k, least, -⟩
            exact not_linesOverflow within k least.1

theorem ofLengths_eq_error_iff {fault : Fault} :
    ofLengths lengths = .error fault ↔ First (refusals lengths) (some fault) := by
  constructor
  · intro refused
    rw [← fault?_eq_some_of_ofLengths refused]
    exact first_refusals lengths
  · intro first
    exact ofLengths_of_fault?
      ((first_refusals lengths).unique (fun _ => single_of_mem_refusals) first)

/-! ## The numbers of a shape -/

theorem representable_iff :
    Representable lengths ↔
      1 ≤ lengths.length ∧ lengths.length ≤ 30 ∧ (∀ l ∈ lengths, 0 < l) ∧
        lengths.prod < 2 ^ 64 ∧ (lengths.map (lengths.prod / ·)).sum < 2 ^ 64 := by
  rw [← product_eq_prod, ← total_eq_sum]
  constructor
  · intro fits
    exact ⟨fits.rank_pos, fits.rank_le, fits.length_pos, fits.cells_lt, fits.lines_lt⟩
  · rintro ⟨nonempty, few, positive, cells, lines⟩
    exact ⟨nonempty, few, positive, cells, lines⟩

theorem exists_ofLengths_iff : (∃ s, ofLengths lengths = .ok s) ↔ Representable lengths := by
  constructor
  · rintro ⟨s, made⟩
    rw [← lengths_of_ofLengths made]
    exact s.representable
  · intro fits
    obtain ⟨s, made, -⟩ := exists_ofLengths fits
    exact ⟨s, made⟩

theorem offset_eq_sum {s : Shape} {d : Nat} (hd : d ≤ s.rank) :
    s.offset d = ((List.range d).map s.linesAlong).sum := by
  induction d with
  | zero => rfl
  | succ d ih =>
      rw [offset_succ hd, ih (Nat.le_of_succ_le hd), List.range_succ, List.map_append,
        List.sum_append, List.map_singleton, List.sum_singleton]

/-- The numbers of a shape are those of a table with these lengths. Each dimension's block has a
    line for every setting of the other coordinates: no line is lost in dividing. -/
structure Measured (s : Shape) (lengths : List Nat) : Prop where
  lengths_eq : s.lengths = lengths
  cellCount_eq : s.cellCount = lengths.prod
  lineCount_eq : s.lineCount = ((List.range lengths.length).map s.linesAlong).sum
  stride_eq : ∀ d < lengths.length, s.stride d = (lengths.take d).prod
  linesAlong_eq : ∀ d l, lengths[d]? = some l →
    s.linesAlong d = lengths.prod / l ∧ s.linesAlong d * l = lengths.prod
  offset_eq : ∀ d < lengths.length, s.offset d = ((List.range d).map s.linesAlong).sum
  linesAlong_beyond : ∀ d, lengths.length ≤ d → s.linesAlong d = 0
  offset_beyond : ∀ d, lengths.length ≤ d → s.offset d = s.lineCount

theorem measured (s : Shape) : s.Measured s.lengths where
  lengths_eq := rfl
  cellCount_eq := product_eq_prod _
  lineCount_eq := by
    rw [← offset_rank]
    exact offset_eq_sum (Nat.le_refl _)
  stride_eq d _ := product_eq_prod _
  linesAlong_eq d l there := by
    have divides : l ∣ s.lengths.prod := List.dvd_prod (List.mem_of_getElem? there)
    have lines : s.linesAlong d = s.lengths.prod / l := by
      simp only [linesAlong, there, cellCount, product_eq_prod]
    rw [lines]
    exact ⟨rfl, Nat.div_mul_cancel divides⟩
  offset_eq d hd := offset_eq_sum (Nat.le_of_lt hd)
  linesAlong_beyond d beyond := by
    simp only [linesAlong, List.getElem?_eq_none beyond]
  offset_beyond d beyond := by
    rw [offset, List.take_of_length_le beyond]
    rfl

/-- Lengths make a shape exactly if its cells and lines can be numbered, and otherwise they are
    refused for the first reason there is. Counting in words of 64 bits and in as many slots as
    there can be dimensions comes to the same shape, or to the same refusal. -/
theorem ofLengths_follows_rules (lengths : List Nat) :
    ((∃ s, ofLengths lengths = .ok s) ↔
      1 ≤ lengths.length ∧ lengths.length ≤ 30 ∧ (∀ l ∈ lengths, 0 < l) ∧
        lengths.prod < 2 ^ 64 ∧ (lengths.map (lengths.prod / ·)).sum < 2 ^ 64) ∧
    (∀ s, ofLengths lengths = .ok s → s.Measured lengths) ∧
    (∀ fault, ofLengths lengths = .error fault ↔ First (refusals lengths) (some fault)) ∧
    Layout.measure lengths = some ((ofLengths lengths).map Layout.ofShape) := by
  refine ⟨exists_ofLengths_iff.trans representable_iff, ?_, ?_, Layout.measure_eq lengths⟩
  · intro s made
    rw [← lengths_of_ofLengths made]
    exact s.measured
  · exact fun fault => ofLengths_eq_error_iff

/-- A table with nearly as many cells as there are words, and half as many lines; lengths whose
    lines get out of range at the second block, though the cells do not; and a zero that is behind
    or ahead of a product that is out of range. -/
theorem ofLengths_follows_rules_long :
    (∃ s, ofLengths [2 ^ 63 - 2, 2] = .ok s ∧ s.lineCount = 2 ^ 63) ∧
    First (refusals [1, 1, 2 ^ 63]) (some (.cellCountOverflow 1)) ∧
    First (refusals [2 ^ 32, 2 ^ 32, 0]) (some (.cellCountOverflow 1)) ∧
    First (refusals [2 ^ 32, 0, 2 ^ 63]) (some (.zeroDimensionLength 1)) := by
  obtain ⟨accepted, numbers, -, -⟩ := ofLengths_follows_rules [2 ^ 63 - 2, 2]
  refine ⟨?_, ?_, ?_, ?_⟩
  · obtain ⟨s, made⟩ := accepted.2 (by decide)
    refine ⟨s, made, ?_⟩
    have measured := numbers s made
    have first := (measured.linesAlong_eq 0 (2 ^ 63 - 2) rfl).1
    have second := (measured.linesAlong_eq 1 2 rfl).1
    rw [measured.lineCount_eq]
    simp [List.range_succ, first, second]
  · exact ((ofLengths_follows_rules _).2.2.1 _).1 rfl
  · exact ((ofLengths_follows_rules _).2.2.1 _).1 rfl
  · exact ((ofLengths_follows_rules _).2.2.1 _).1 rfl

end Purification.Shape
