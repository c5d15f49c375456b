import Purification.Document
import Purification.Proofs.Call.Decomposition
import Purification.Proofs.Shape.Overflow
import Purification.Proofs.Sweep.Accumulation

/-! # The marginals in a document

A decomposition keeps its marginals in one list, and a document gives a list for each dimension.
These are cut out of the one list by offsets and counts that are worked out anew from the lengths,
and where the cut does not fit the list is left empty. It fits whenever the marginals are as many
as the lines: then the lists of a document are the marginals again, and each value stands where the
line stands that it was taken out of.
-/

namespace Purification

namespace Decomposition

section

variable {α : Type} {x : Decomposition α}

/-- Up to any dimension, the lists before it are the marginals before its offset. -/
theorem flatten_marginal_range {shape : Shape} (made : Shape.ofLengths x.lengths = .ok shape)
    (all : x.marginals.length = shape.lineCount) {n : Nat} (hn : n ≤ shape.rank) :
    ((List.range n).map x.marginal).flatten = x.marginals.take (shape.offset n) := by
  induction n with
  | zero => simp [Shape.offset]
  | succ n ih =>
      rw [List.range_succ, List.map_append, List.flatten_append, ih (Nat.le_of_succ_le hn),
        List.map_singleton, List.flatten_singleton, (marginal_eq made hn all).1,
        Shape.offset_succ hn, List.take_add]

theorem flatten_marginal {shape : Shape} (made : Shape.ofLengths x.lengths = .ok shape)
    (all : x.marginals.length = shape.lineCount) :
    ((List.range x.lengths.length).map x.marginal).flatten = x.marginals := by
  have rank : x.lengths.length = shape.rank := by
    rw [← Shape.lengths_of_ofLengths made, Shape.rank]
  rw [rank, flatten_marginal_range made all (Nat.le_refl _), Shape.offset_rank, ← all,
    List.take_length]

theorem marginal_of_nil (empty : x.marginals = []) (d : Nat) : x.marginal d = [] := by
  unfold marginal
  rw [empty]
  cases Shape.ofLengths x.lengths with
  | error fault => rfl
  | ok shape => simp

end

variable {α : Type} [Scalar α]

theorem lengths_of_ofReport {lengths : List Nat} {report : Report α} {x : Decomposition α}
    (told : ofReport lengths report = .ok x) :
    x.lengths = lengths ∧ (x.outcome.isNoOp = true → x.marginals = []) := by
  obtain ⟨outcome, -, told⟩ := bind_eq_ok told
  cases told
  exact ⟨rfl, fun noOp => if_pos noOp⟩

/-- What the passes of a decomposition gather from line `i` of its shape. -/
def gathered (config : Config α) (shape : Shape) (weights scores : Array α) (passes i : Nat)
    (line : Line) : α :=
  (shape.setting config.tolerance config.maxPasses weights scores).gathered
    ((ready shape scores).opening shape weights (output config)) i line passes

end Decomposition

theorem Outcome.exists_of_not_isNoOp {α : Type} {outcome : Outcome α}
    (swept : outcome.isNoOp = false) : ∃ c, outcome = .purified c ∧ c.stop ≠ .zeroWeight := by
  cases outcome with
  | zeroDimensions => cases swept
  | emptyTensor => cases swept
  | purified c => exact ⟨c, rfl, by simpa [isNoOp, Outcome.swept, stop?, convergence?] using swept⟩

namespace PartsDocument

/-- A document has one list for each of the lengths, and these lists in order are the marginals. -/
structure Splits (doc : PartsDocument) (lengths : List Nat) (marginals : List Float) : Prop where
  length_eq : doc.marginals.length = lengths.length
  flatten_eq : doc.marginals.flatten = marginals

/-- A list with an entry for each line along dimension `d`, in the order of these lines. The entry
    is what the line's slot holds and what was gathered from the line. -/
structure Holds (list : List Float) (shape : Shape) (d : Nat) (slots : Array Float)
    (gathered : Nat → Line → Float) : Prop where
  length_eq : list.length = shape.linesAlong d
  entry : ∀ i line, shape.lineAlong? d i = some line →
    let slot := shape.offset d + i
    shape.lines[slot]? = some (slot, line) ∧ list[i]? = slots[slot]? ∧
      list[i]? = some (gathered slot line)

theorem length_marginals (x : Decomposition Float) :
    (ofDecomposition x).marginals.length = x.lengths.length := by
  rw [ofDecomposition, List.length_map, List.length_range]

theorem splits_of_length {x : Decomposition Float} {shape : Shape}
    (made : Shape.ofLengths x.lengths = .ok shape) (all : x.marginals.length = shape.lineCount) :
    (ofDecomposition x).Splits x.lengths x.marginals where
  length_eq := length_marginals x
  flatten_eq := Decomposition.flatten_marginal made all

theorem eq_nil_of_nil {x : Decomposition Float} (empty : x.marginals = []) :
    ∀ list ∈ (ofDecomposition x).marginals, list = [] := by
  intro list member
  obtain ⟨d, -, rfl⟩ := List.mem_map.1 member
  exact Decomposition.marginal_of_nil empty d

theorem holds_of_swept {x : Decomposition Float} {config : Config Float} {fuel n : Nat}
    {lengths : List Nat} {weights scores : Array Float} {c : Convergence Float} {shape : Shape}
    {result : Sweep.Result Float} (h : x.OfRun config fuel lengths weights scores c shape result)
    (swept : Sweep.Swept shape config.tolerance config.maxPasses weights
      (Decomposition.ready shape scores) (Decomposition.output config) n result)
    {d : Nat} (hd : d < shape.rank) :
    ∃ list, (ofDecomposition x).marginals[d]? = some list ∧
      Holds list shape d result.field.impurities
        (Decomposition.gathered config shape weights scores c.passes) := by
  obtain ⟨listed, all⟩ := h.length_marginals swept
  have made : Shape.ofLengths x.lengths = .ok shape := h.lengths_eq.symm ▸ h.made
  have bound : d < x.lengths.length := by
    rwa [← Shape.lengths_of_ofLengths made]
  refine ⟨x.marginal d, ?_, Decomposition.length_marginal made hd all, ?_⟩
  · rw [ofDecomposition, List.getElem?_map, List.getElem?_range bound, Option.map_some]
  · intro i line along
    obtain ⟨inside, rfl⟩ := Shape.lineAlong?_eq_some_iff.1 along
    have numbered := Shape.getElem?_lines_offset hd inside
    have cut : (x.marginal d)[i]? = result.field.impurities[shape.offset d + i]? := by
      rw [Decomposition.getElem?_marginal made hd all inside, listed, Array.getElem?_toList]
    refine ⟨numbered, cut, ?_⟩
    rw [cut, swept.getElem?_impurities h.covers numbered, h.convergence_eq]
    rfl

end PartsDocument

/-- A document loses no marginal and gives none twice. For every decomposition that is answered it
    has one list for each length, and the lists in order are the marginals. Unless lines were swept
    all of them are empty. Otherwise the list of a dimension has, line by line, what the run has
    gathered from the lines along it. The lists in order are also the marginals of any other
    decomposition with as many of these as its shape has lines, however it came about. -/
theorem Session.document_keeps_marginals :
    (∀ (s s' : Session Float) (fuel : Nat) (lengths : List Nat) (weights scores : Array Float)
        (x : Decomposition Float),
      s.decompose fuel lengths weights scores = some (.ok x, s') →
        let doc := PartsDocument.ofDecomposition x
        doc.Splits lengths x.marginals ∧
        (x.outcome.isNoOp = true → ∀ list ∈ doc.marginals, list = []) ∧
        (x.outcome.isNoOp = false → ∃ c shape result, x.outcome = .purified c ∧
          x.OfRun s.config fuel lengths weights scores c shape result ∧
          ∀ d < shape.rank, ∃ list, doc.marginals[d]? = some list ∧
            PartsDocument.Holds list shape d result.field.impurities
              (Decomposition.gathered s.config shape weights scores c.passes))) ∧
    ∀ (x : Decomposition Float) (shape : Shape), Shape.ofLengths x.lengths = .ok shape →
      x.marginals.length = shape.lineCount →
        (PartsDocument.ofDecomposition x).Splits x.lengths x.marginals := by
  refine ⟨?_, fun x shape => PartsDocument.splits_of_length⟩
  intro s s' fuel lengths weights scores x answered doc
  obtain ⟨_, _, -, -, told⟩ := exists_report_of_decompose answered
  obtain ⟨rfl, emptyOfNoOp⟩ := Decomposition.lengths_of_ofReport told
  cases noOp : x.outcome.isNoOp with
  | true =>
      have empty : x.marginals = [] := emptyOfNoOp noOp
      have idle := PartsDocument.eq_nil_of_nil empty
      refine ⟨⟨PartsDocument.length_marginals x, ?_⟩, fun _ => idle, nofun⟩
      rw [empty, List.flatten_eq_nil_iff]
      exact idle
  | false =>
      obtain ⟨c, purified, weighty⟩ := Outcome.exists_of_not_isNoOp noOp
      obtain ⟨shape, result, h⟩ := ofRun_of_decompose answered purified
      rcases h.weightless_or_swept with ⟨weightless, -, -⟩ | ⟨n, swept⟩
      · exact absurd weightless weighty
      · exact ⟨PartsDocument.splits_of_length h.made (h.length_marginals swept).2, nofun,
          fun _ => ⟨c, shape, result, purified, h, fun d => PartsDocument.holds_of_swept h swept⟩⟩

/-- A table of three rows that is swept, one that has no cells, and values that no sweep has
    given, beside a residual and an outcome that do not go with them. -/
theorem Session.document_keeps_marginals_silent :
    let s : Session Float := { config := .standard, observer := { sink := .silent } }
    let strange : Decomposition Float := ⟨[2, 3], 7, [1, 2, 3, 4, 5], [6], .zeroDimensions⟩
    (∃ x s', s.decompose 2 [3, 2] #[1, 1, 1, 1, 1, 1] #[12, -6, 0, 6, 18, 6] = some (.ok x, s') ∧
      (PartsDocument.ofDecomposition x).Splits [3, 2] [-4, 4, 3, 0, -3] ∧
      ∃ list, (PartsDocument.ofDecomposition x).marginals[1]? = some list ∧ list.length = 3) ∧
    (∃ x s', s.decompose 0 [2, 0] #[] #[3] = some (.ok x, s') ∧
      (PartsDocument.ofDecomposition x).Splits [2, 0] [] ∧
      ∀ list ∈ (PartsDocument.ofDecomposition x).marginals, list = []) ∧
    (PartsDocument.ofDecomposition strange).Splits [2, 3] [1, 2, 3, 4, 5] := by
  intro s strange
  obtain ⟨answered, whole⟩ := document_keeps_marginals
  have made : Shape.ofLengths [2, 3] =
      .ok ⟨[2, 3], Shape.representable_of_fault?_eq_none (by decide)⟩ := rfl
  refine ⟨?_, ?_, whole strange _ made (by decide)⟩
  · have parted : ((s.decompose 2 [3, 2] #[1, 1, 1, 1, 1, 1] #[12, -6, 0, 6, 18, 6]).bind
        (·.1.toOption)).map (fun x => (x.marginals, x.outcome.isNoOp)) =
        some ([-4, 4, 3, 0, -3], false) := by decide +kernel
    obtain ⟨x, parted, same⟩ := Option.map_eq_some_iff.1 parted
    obtain ⟨⟨answer, s'⟩, swept, parted⟩ := Option.bind_eq_some_iff.1 parted
    obtain ⟨marginals, noOp⟩ := Prod.mk.inj same
    cases answer with
    | error fault => cases parted
    | ok x' =>
        obtain rfl : x' = x := Option.some.inj parted
        obtain ⟨splits, -, lists⟩ := answered s s' _ _ _ _ x' swept
        obtain ⟨c, shape, result, -, h, lists⟩ := lists noOp
        obtain rfl : shape = ⟨[3, 2], _⟩ := (Except.ok.inj h.made).symm
        obtain ⟨list, there, holds⟩ := lists 1 (by decide)
        exact ⟨x', s', swept, marginals ▸ splits, list, there, holds.length_eq⟩
  · obtain ⟨splits, empty, -⟩ := answered s _ 0 [2, 0] #[] #[3] _ rfl
    exact ⟨_, _, rfl, splits, empty rfl⟩

end Purification
