import Purification.Document
import Purification.Proofs.Call.Exchange
import Purification.Proofs.Session.EntryPoints

/-! # Documents without weights

A document may leave out its weights, and they are made up then: as many as its shape has cells, or,
if it has no shape, as many as there are scores. That number is never too small, because a table
without a shape is turned down or found empty before anyone looks at its weights. And of weights
that are long enough only those of the cells count, so a document without weights is as good as one
that says that each weight is 1, however many times.
-/

namespace Purification

/-- The fault finds something wrong with the weights. -/
inductive Fault.OfWeights : Fault → Prop where
  | missing : OfWeights (.missingBuffer .weights)
  | short (required actual : Nat) : OfWeights (.bufferTooSmall .weights required actual)

variable {α : Type} {lengths : List Nat} {weights weights' scores : Array α}

/-- The weights are long enough for any table with these lengths. -/
def Fills (lengths : List Nat) (weights : Array α) : Prop :=
  ∀ shape, Shape.ofLengths lengths = .ok shape → shape.cellCount ≤ weights.size

theorem agreeUpTo_replicate {n k k' : Nat} (enough : n ≤ k) (enough' : n ≤ k') (value : α) :
    AgreeUpTo n (List.replicate k value).toArray (List.replicate k' value).toArray := by
  intro i hi
  simp [Nat.lt_of_lt_of_le hi enough, Nat.lt_of_lt_of_le hi enough']

/-- What an accepted call asks for with other weights. -/
def Admission.reweighted (weights : Array α) : Admission α → Admission α
  | .table shape _ field => .table shape weights field
  | idle => idle

/-! ## One call with two arrays of weights -/

namespace Call.Hands

variable {call : Call α} (h : call.Hands lengths weights scores)

include h

theorem reweighted (weights' : Array α) :
    (call.reweighted weights').Hands lengths weights' scores :=
  ⟨h.count_eq, h.lengths_eq, rfl, h.scores_eq, h.room⟩

theorem admission_reweighted (fills : Fills lengths weights) (fills' : Fills lengths weights') :
    (call.reweighted weights').admission =
      call.admission.map (Admission.reweighted weights') := by
  have h' := h.reweighted weights'
  by_cases empty : lengths = []
  · rw [h.admission_of_nil empty, h'.admission_of_nil empty]
    rfl
  by_cases high : Shape.maxRank < lengths.length
  · rw [h.admission_of_rank high, h'.admission_of_rank high]
    rfl
  rw [h.admission_eq empty (Nat.not_lt.1 high), h'.admission_eq empty (Nat.not_lt.1 high)]
  split
  · rfl
  · cases made : Shape.ofLengths lengths with
    | error fault => rfl
    | ok shape =>
        obtain ⟨impurities, given, room⟩ := h.room
        change (call.reweighted weights').table shape =
          (call.table shape).map (Admission.reweighted weights')
        rw [h'.table_eq given (room shape made), h.table_eq given (room shape made),
          if_neg (Nat.not_lt.2 (fills shape made)), if_neg (Nat.not_lt.2 (fills' shape made))]
        split
        · rfl
        · rfl

theorem ofLengths_of_admission {shape : Shape} {held : Array α} {field : Field α}
    (admitted : call.admission = .ok (.table shape held field)) :
    Shape.ofLengths lengths = .ok shape := by
  have meet := h.meet h
  rw [admitted] at meet
  cases meet with
  | table nonempty made covers covers' => exact made

theorem not_ofWeights (fills : Fills lengths weights) {fault : Fault}
    (refused : call.admission = .error fault) : ¬ fault.OfWeights := by
  have meet := h.meet h
  rw [refused] at meet
  cases meet with
  | refused nonempty refusal =>
      intro wrong
      cases refusal with
      | rank => cases wrong
      | size => cases wrong
      | weights made short => exact absurd (fills _ made) (Nat.not_le.2 short)
      | scores => cases wrong

end Call.Hands

variable [Scalar α]

theorem Sweep.run_eq_of_agreeUpTo {s : Shape} {field : Field α}
    (same : AgreeUpTo s.cellCount weights' weights) (fuel : Nat) (tolerance : α)
    (limit : Option Nat) (intercept : Option α) :
    run fuel s tolerance limit weights' field intercept =
      run fuel s tolerance limit weights field intercept := by
  have totals := Shape.totals_congr same (.refl s.cellCount field.scores)
  apply run_eq_of_weights
  · intro slot line member scores
    exact Line.mean_congr (fun cell on => same.getD (Shape.cell_lt_of_mem_lines member on))
      fun _ _ => rfl
  · rw [totals]
  · rw [totals]
  · rw [totals]

/-- The report without what was told of the call. -/
def Report.untold (report : Report α) : Report α := { report with events := [] }

theorem Call.Hands.purify_reweighted {call : Call α} (h : call.Hands lengths weights scores)
    (fills : Fills lengths weights) (fills' : Fills lengths weights')
    (same : ∀ shape, Shape.ofLengths lengths = .ok shape →
      AgreeUpTo shape.cellCount weights' weights) (fuel : Nat) (limit : Option Nat) :
    ((call.reweighted weights').purify fuel limit).map Report.untold =
      (call.purify fuel limit).map Report.untold := by
  have admissions := h.admission_reweighted fills fills'
  cases admitted : call.admission with
  | error fault =>
      rw [admitted] at admissions
      simp only [purify, admitted, admissions]
      rfl
  | ok admission =>
      rw [admitted] at admissions
      cases admission with
      | zeroDimensions =>
          simp only [purify, admitted, admissions]
          rfl
      | emptyTensor =>
          simp only [purify, admitted, admissions]
          rfl
      | table shape held field =>
          have held_eq : weights = held := Option.some.inj <|
            h.weights_eq.symm.trans (Call.admits_of_admission admitted).weights_eq
          have made := h.ofLengths_of_admission admitted
          subst held_eq
          have runs : Sweep.run fuel shape call.tolerance limit weights' field
              (call.intercept.map fun _ => 0) = Sweep.run fuel shape call.tolerance limit weights
              field (call.intercept.map fun _ => 0) :=
            Sweep.run_eq_of_agreeUpTo (same shape made) ..
          rw [purify_of_admission admissions, purify_of_admission admitted, Option.map_map,
            Option.map_map]
          exact congrArg (Option.map _) runs

theorem Call.admission_of_refused {call : Call α} {fuel : Nat} {limit : Option Nat}
    {report : Report α} {fault : Fault} (answered : call.purify fuel limit = some report)
    (refused : report.result = .error fault) : call.admission = .error fault := by
  unfold purify at answered
  split at answered
  · rename_i admitted
    cases answered
    cases refused
    exact admitted
  · cases answered
    cases refused
  · cases answered
    cases refused
  · obtain ⟨swept, ran, told⟩ := Option.bind_eq_some_iff.1 answered
    cases told
    cases refused

/-! ## One decomposition with two arrays of weights -/

theorem Decomposition.callOf_reweighted (config : Config α) (lengths : List Nat)
    (weights weights' scores : Array α) :
    callOf config lengths weights' scores =
      (callOf config lengths weights scores).map (·.reweighted weights') := by
  unfold callOf
  cases declare lengths with
  | error fault => rfl
  | ok declared => rfl

namespace Session

variable {s s' : Session α}

theorem decompose_reweighted (s : Session α) (fills : Fills lengths weights)
    (fills' : Fills lengths weights')
    (same : ∀ shape, Shape.ofLengths lengths = .ok shape →
      AgreeUpTo shape.cellCount weights' weights) (fuel : Nat) (scores : Array α) :
    (s.decompose fuel lengths weights' scores).map (·.1) =
      (s.decompose fuel lengths weights scores).map (·.1) := by
  unfold decompose
  rw [Decomposition.callOf_reweighted s.config lengths weights]
  cases called : Decomposition.callOf s.config lengths weights scores with
  | error fault => rfl
  | ok call =>
      have reports := (Decomposition.hands_of_callOf called).purify_reweighted fills fills' same
        fuel s.config.maxPasses
      have answers := congrArg (Option.map (Decomposition.ofReport lengths)) reports
      rw [Option.map_map, Option.map_map] at answers
      simp only [Except.map, purify, Option.map_map]
      exact answers

theorem not_ofWeights_of_decompose (fills : Fills lengths weights) {fuel : Nat} {fault : Fault}
    (refused : s.decompose fuel lengths weights scores = some (.error fault, s')) :
    ¬ fault.OfWeights := by
  unfold decompose at refused
  cases called : Decomposition.callOf s.config lengths weights scores with
  | error fault' =>
      rw [called] at refused
      cases refused
      have uncalled : (Request.decompose lengths weights scores).call? s.config = .error fault :=
        called
      obtain ⟨-, d, rfl⟩ := Request.not_declarable_of_call? uncalled
      nofun
  | ok call =>
      rw [called] at refused
      obtain ⟨⟨report, later⟩, noted, told⟩ := Option.map_eq_some_iff.1 refused
      have decomposed : Decomposition.ofReport lengths report = .error fault :=
        congrArg Prod.fst told
      have result : report.result = .error fault := by
        rw [← map_outcome_ofReport lengths report, decomposed]
        rfl
      exact (Decomposition.hands_of_callOf called).not_ofWeights fills
        (Call.admission_of_refused (purify_eq_some noted).1 result)

end Session

/-! ## Documents -/

theorem TableDocument.uniformCount_of_ofLengths {shape : Shape}
    (made : Shape.ofLengths lengths = .ok shape) (scores : Nat) :
    uniformCount lengths scores = shape.cellCount := by
  rw [uniformCount, made]

/-- A document without weights stands for one whose weights are all 1. Run under whatever session,
    it has the parts, or is refused for the fault, of the same document with any number of such
    weights, as long as there are as many as cells; and that number does not matter if there is no
    shape. In particular, no document without weights is refused for its weights. -/
theorem Session.run_without_weights (s : Session Float) {x : TableDocument}
    (omitted : x.weights = none) (fuel : Nat) :
    (∀ count, (∀ shape, Shape.ofLengths x.lengths = .ok shape → shape.cellCount ≤ count) →
      (s.run fuel x).map (·.1) =
        (s.run fuel { x with weights := some (List.replicate count 1.0) }).map (·.1)) ∧
    ∀ failure s', s.run fuel x = some (.error failure, s') →
      ∃ fault, failure = .run x.lengths fault ∧ ¬ fault.OfWeights := by
  have used : x.usedWeights =
      List.replicate (TableDocument.uniformCount x.lengths x.scores.length) 1.0 := by
    rw [TableDocument.usedWeights, omitted, Option.getD_none]
  have fills : Fills x.lengths x.usedWeights.toArray := by
    intro shape made
    rw [used, List.size_toArray, List.length_replicate,
      TableDocument.uniformCount_of_ofLengths made]
  constructor
  · intro count enough
    have fills' : Fills x.lengths (List.replicate count (1.0 : Float)).toArray := by
      intro shape made
      rw [List.size_toArray, List.length_replicate]
      exact enough shape made
    have same : ∀ shape, Shape.ofLengths x.lengths = .ok shape →
        AgreeUpTo shape.cellCount x.usedWeights.toArray
          (List.replicate count (1.0 : Float)).toArray := by
      intro shape made
      rw [used]
      exact agreeUpTo_replicate (TableDocument.uniformCount_of_ofLengths made _).ge
        (enough shape made) 1.0
    have answers := congrArg (Option.map fun answer =>
        (answer.mapError (Failure.run x.lengths)).map PartsDocument.ofDecomposition) <|
      s.decompose_reweighted fills' fills same fuel x.scores.toArray
    rw [Option.map_map, Option.map_map] at answers
    simp only [run, Option.map_map]
    exact answers
  · intro failure s' refused
    obtain ⟨⟨answer, later⟩, answered, told⟩ := Option.map_eq_some_iff.1 refused
    cases answer with
    | ok parts => cases told
    | error fault =>
        cases told
        exact ⟨fault, rfl, not_ofWeights_of_decompose fills answered⟩

/-- A square without weights is swept as one with seven weights of 1; and a table with too many
    cells is refused for their number, with or without weights. -/
theorem Session.run_without_weights_silent :
    let s : Session Float := { config := .standard, observer := { sink := .silent } }
    ∃ parts, (s.run 2 ⟨[2, 2], none, [2, -8, 10, 0]⟩).map (·.1) = some (.ok parts) ∧
      (s.run 2 ⟨[2, 2], some (List.replicate 7 1.0), [2, -8, 10, 0]⟩).map (·.1) =
        some (.ok parts) ∧
      (s.run 0 ⟨[2 ^ 32, 2 ^ 32], some [], [3]⟩).map (·.1) =
        some (.error (.run [2 ^ 32, 2 ^ 32] (.cellCountOverflow 1))) ∧
      ¬ (Fault.cellCountOverflow 1).OfWeights := by
  intro s
  have parted : ((s.run 2 ⟨[2, 2], none, [2, -8, 10, 0]⟩).map (·.1)).bind (·.toOption) ≠ none := by
    decide +kernel
  obtain ⟨parts, parted⟩ := Option.ne_none_iff_exists'.1 parted
  obtain ⟨answer, answered, parted⟩ := Option.bind_eq_some_iff.1 parted
  cases answer with
  | error failure => cases parted
  | ok parts' =>
      obtain rfl : parts' = parts := Option.some.inj parted
      have square := (s.run_without_weights (x := ⟨[2, 2], none, [2, -8, 10, 0]⟩) rfl 2).1 7 <| by
        rintro _ ⟨⟩
        decide
      obtain ⟨vast, rightly⟩ := s.run_without_weights (x := ⟨[2 ^ 32, 2 ^ 32], none, [3]⟩) rfl 0
      have refused : s.run 0 ⟨[2 ^ 32, 2 ^ 32], none, [3]⟩ =
          some (.error (.run [2 ^ 32, 2 ^ 32] (.cellCountOverflow 1)), _) := rfl
      refine ⟨parts', answered, square.symm.trans answered, ?_, ?_⟩
      · exact (vast 0 nofun).symm.trans (congrArg (Option.map (·.1)) refused)
      · obtain ⟨fault, same, fine⟩ := rightly _ _ refused
        cases same
        exact fine

end Purification
