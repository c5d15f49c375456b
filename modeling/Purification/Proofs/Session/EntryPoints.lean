import Purification.Proofs.Call.Decomposition
import Purification.Proofs.Call.Kept
import Purification.Proofs.Exact.Reconstruction
import Purification.Proofs.Session.Request
import Purification.Proofs.Shape.Overflow
import Purification.Proofs.Sweep.Agreement
import Purification.Proofs.Sweep.Parallel

/-! # The owned entry point and the one in place

A decomposition makes its own slots for the shape that it works out for itself, and declares at
most as many lengths as there are ranks. A call in place is handed slots by its caller, and the
boundary works out the shape. Both come to the same answer, and the decomposition shows exactly
what the call in place leaves in its buffers.
-/

namespace Purification

variable {α : Type} {lengths : List Nat} {weights scores : Array α}

/-! ## Calls for one table -/

/-- What a table with lengths that can be declared is refused for. -/
inductive Refusal (lengths : List Nat) (weights scores : Array α) : Fault → Prop where
  | rank (beyond : Shape.maxRank < lengths.length) :
      Refusal lengths weights scores (.tooManyDimensions lengths.length Shape.maxRank)
  | size (dimension : Nat) : Refusal lengths weights scores (.cellCountOverflow dimension)
  | weights {shape : Shape} (made : Shape.ofLengths lengths = .ok shape)
      (short : weights.size < shape.cellCount) :
      Refusal lengths weights scores (.bufferTooSmall .weights shape.cellCount weights.size)
  | scores {shape : Shape} (made : Shape.ofLengths lengths = .ok shape)
      (short : scores.size < shape.cellCount) :
      Refusal lengths weights scores (.bufferTooSmall .scores shape.cellCount scores.size)

namespace Call

/-- The call declares these lengths, hands over these buffers, and has room for the slots. -/
structure Hands (call : Call α) (lengths : List Nat) (weights scores : Array α) : Prop where
  count_eq : call.dimensionCount = lengths.length
  /-- Beyond the largest rank it does not matter what is declared. -/
  lengths_eq : lengths.length ≤ Shape.maxRank →
    call.lengths = some (lengths.map Int.ofNat).toArray
  weights_eq : call.weights = some weights
  scores_eq : call.scores = some scores
  room : ∃ impurities, call.impurities = some impurities ∧
    ∀ shape, Shape.ofLengths lengths = .ok shape → shape.lineCount ≤ impurities.size

theorem shape?_ofNat (lengths : List Nat) :
    shape? (lengths.map Int.ofNat) =
      if 0 ∈ lengths then .ok none else (Shape.ofLengths lengths).map some := by
  have nonneg : ∀ l ∈ lengths.map Int.ofNat, 0 ≤ l := by
    intro l image
    obtain ⟨n, -, rfl⟩ := List.mem_map.1 image
    exact Int.natCast_nonneg n
  have zero : (0 : Int) ∈ lengths.map Int.ofNat ↔ 0 ∈ lengths := by simp
  have back : (lengths.map Int.ofNat).map (·.toNat) = lengths := by
    rw [List.map_map]
    exact List.map_id lengths
  rw [shape?_of_nonneg nonneg, back]
  simp only [zero]

namespace Hands

variable {call : Call α}

theorem admission_of_nil (h : call.Hands lengths weights scores) (empty : lengths = []) :
    call.admission = .ok .zeroDimensions := by
  rw [admission, h.count_eq, empty]
  rfl

theorem admission_of_rank (h : call.Hands lengths weights scores)
    (high : Shape.maxRank < lengths.length) :
    call.admission = .error (.tooManyDimensions lengths.length Shape.maxRank) := by
  rw [admission, h.count_eq, if_neg (by omega), if_neg (by omega), if_pos (by omega)]

theorem admission_eq (h : call.Hands lengths weights scores) (nonempty : lengths ≠ [])
    (low : lengths.length ≤ Shape.maxRank) :
    call.admission =
      if 0 ∈ lengths then .ok .emptyTensor else Shape.ofLengths lengths >>= call.table := by
  have positive : 0 < lengths.length := List.length_pos_iff.2 nonempty
  have supplied : Buffer.dimensionLengths.require lengths.length
      (some (lengths.map Int.ofNat).toArray) = .ok (lengths.map Int.ofNat).toArray := by
    simp [Buffer.require]
  have counted : (lengths.map Int.ofNat).toArray.toList.take lengths.length =
      lengths.map Int.ofNat := List.take_of_length_le (by simp)
  rw [admission, h.count_eq, if_neg (by omega), if_neg (by omega), if_neg (by omega),
    Int.toNat_natCast, h.lengths_eq low]
  simp only [supplied, bind, Except.bind, counted, shape?_ofNat]
  by_cases zero : 0 ∈ lengths
  · simp only [if_pos zero]
    rfl
  · simp only [if_neg zero]
    cases Shape.ofLengths lengths with
    | error fault => rfl
    | ok shape => rfl

theorem table_eq (h : call.Hands lengths weights scores) {shape : Shape} {impurities : Array α}
    (given : call.impurities = some impurities) (room : shape.lineCount ≤ impurities.size) :
    call.table shape =
      if weights.size < shape.cellCount then
        .error (.bufferTooSmall .weights shape.cellCount weights.size)
      else if scores.size < shape.cellCount then
        .error (.bufferTooSmall .scores shape.cellCount scores.size)
      else .ok (.table shape weights { scores, impurities }) := by
  rw [table, h.weights_eq, h.scores_eq, given]
  simp only [Buffer.require, if_neg (Nat.not_lt.2 room)]
  split
  · rfl
  · split
    · rfl
    · rfl

end Hands

/-- What two calls for one table come to before any line is swept. -/
inductive Meet (lengths : List Nat) (weights scores : Array α) :
    Except Fault (Admission α) → Except Fault (Admission α) → Prop where
  | zeroDimensions (empty : lengths = []) :
      Meet lengths weights scores (.ok .zeroDimensions) (.ok .zeroDimensions)
  | refused {fault : Fault} (nonempty : lengths ≠ [])
      (refusal : Refusal lengths weights scores fault) :
      Meet lengths weights scores (.error fault) (.error fault)
  | emptyTensor (nonempty : lengths ≠ []) :
      Meet lengths weights scores (.ok .emptyTensor) (.ok .emptyTensor)
  | table {shape : Shape} {impurities impurities' : Array α} (nonempty : lengths ≠ [])
      (made : Shape.ofLengths lengths = .ok shape)
      (covers : Field.Covers ⟨scores, impurities⟩ shape)
      (covers' : Field.Covers ⟨scores, impurities'⟩ shape) :
      Meet lengths weights scores (.ok (.table shape weights ⟨scores, impurities⟩))
        (.ok (.table shape weights ⟨scores, impurities'⟩))

theorem Hands.meet {call call' : Call α} (h : call.Hands lengths weights scores)
    (h' : call'.Hands lengths weights scores) :
    Meet lengths weights scores call.admission call'.admission := by
  by_cases empty : lengths = []
  · rw [h.admission_of_nil empty, h'.admission_of_nil empty]
    exact .zeroDimensions empty
  -- the lengths are only looked at once the rank has been, so there they need not agree
  by_cases high : Shape.maxRank < lengths.length
  · rw [h.admission_of_rank high, h'.admission_of_rank high]
    exact .refused empty (.rank high)
  rw [h.admission_eq empty (Nat.not_lt.1 high), h'.admission_eq empty (Nat.not_lt.1 high)]
  split
  · exact .emptyTensor empty
  rename_i nonzero
  have positive : ∀ l ∈ lengths, 0 < l := by
    intro l member
    exact Nat.pos_of_ne_zero fun zero => nonzero (zero ▸ member)
  cases made : Shape.ofLengths lengths with
  | error fault =>
      apply Meet.refused empty
      rcases Shape.overflow_of_ofLengths (List.length_pos_iff.2 empty) (Nat.not_lt.1 high) positive
        made with ⟨k, -, rfl⟩ | ⟨-, k, -, rfl⟩
      · exact .size k
      · exact .size k
  | ok shape =>
      obtain ⟨impurities, given, room⟩ := h.room
      obtain ⟨impurities', given', room'⟩ := h'.room
      change Meet _ _ _ (call.table shape) (call'.table shape)
      rw [h.table_eq given (room shape made), h'.table_eq given' (room' shape made)]
      split
      · rename_i short
        exact .refused empty (.weights made short)
      split
      · rename_i short
        exact .refused empty (.scores made short)
      rename_i enough
      exact .table empty made ⟨Nat.not_lt.1 enough, room shape made⟩
        ⟨Nat.not_lt.1 enough, room' shape made⟩

end Call

/-! ## The two entry points -/

section

variable {config : Config α} {impurities : Array α} {intercept : α} {report : Report α}

theorem Config.hands_bufferCall
    (room : ∀ shape, Shape.ofLengths lengths = .ok shape → shape.lineCount ≤ impurities.size) :
    (config.bufferCall (lengths.map Int.ofNat).toArray weights scores impurities
      intercept).Hands lengths weights scores where
  count_eq := by simp [bufferCall]
  lengths_eq _ := rfl
  weights_eq := rfl
  scores_eq := rfl
  room := ⟨impurities, rfl, room⟩

variable [Scalar α]

namespace Decomposition

theorem declare_of_le (declarable : ∀ l ∈ lengths, l ≤ maxLength) :
    declare lengths = .ok ((lengths.take Shape.maxRank).map Int.ofNat).toArray := by
  cases declared : declare lengths with
  | error fault =>
      obtain ⟨l, member, long⟩ := List.all_eq_false.1 (not_declarable_of_declare declared).1
      exact absurd (decide_eq_true (declarable l (List.mem_of_mem_take member))) long
  | ok lengths' => rw [declare_eq_ok declared]

theorem hands_of_callOf {call : Call α} (h : callOf config lengths weights scores = .ok call) :
    call.Hands lengths weights scores := by
  obtain ⟨declared, hdeclared, called⟩ := bind_eq_ok h
  cases called
  constructor
  · rfl
  · intro low
    rw [declare_eq_ok hdeclared, List.take_of_length_le low]
  · rfl
  · rfl
  · refine ⟨_, rfl, ?_⟩
    intro shape made
    simp [slotCount, made]

theorem exists_callOf (config : Config α) (declarable : ∀ l ∈ lengths, l ≤ maxLength)
    (weights scores : Array α) :
    ∃ call, callOf config lengths weights scores = .ok call ∧
      call.Hands lengths weights scores ∧ call.tolerance = config.tolerance ∧
      call.impurities = some (Array.replicate (slotCount lengths) 0) ∧
      call.intercept = output config := by
  refine ⟨_, by rw [callOf, declare_of_le declarable]; rfl, ?_, rfl, rfl, rfl⟩
  refine hands_of_callOf (?_ : callOf config lengths weights scores = .ok _)
  rw [callOf, declare_of_le declarable]
  rfl

/-- The decomposition shows what a call for the same table leaves in its buffers. -/
structure Shows (x : Decomposition α) (config : Config α) (lengths : List Nat)
    (scores : Array α) (report : Report α) : Prop where
  result_eq : report.result = .ok x.outcome
  lengths_eq : x.lengths = lengths
  intercept_eq : x.intercept = if config.extractIntercept then report.intercept.getD 0 else 0
  swept : x.outcome.swept = true → ∃ shape finals slots, Shape.ofLengths lengths = .ok shape ∧
    report.scores = some finals ∧ x.residual = finals.toList.take shape.cellCount ∧
    x.residual.length = shape.cellCount ∧
    report.impurities = some slots ∧ x.marginals = slots.toList.take shape.lineCount ∧
    x.marginals.length = shape.lineCount
  weightless : x.outcome.stop? = some .zeroWeight → x.marginals = [] ∧
    ∃ shape, Shape.ofLengths lengths = .ok shape ∧
      x.residual = scores.toList.take shape.cellCount ∧ x.residual.length = shape.cellCount
  emptyTensor : x.outcome = .emptyTensor → x.marginals = [] ∧ x.residual = []
  zeroDimensions : lengths = [] → x.outcome = .zeroDimensions ∧ x.marginals = []

/-- A decomposition and a call for the same table are answered alike. -/
inductive Mirrors (config : Config α) (lengths : List Nat) (weights scores : Array α) :
    Except Fault (Decomposition α) → Report α → Prop where
  | refused {fault : Fault} {report : Report α} (nonempty : lengths ≠ [])
      (refusal : Refusal lengths weights scores fault) (result_eq : report.result = .error fault) :
      Mirrors config lengths weights scores (.error fault) report
  | made {x : Decomposition α} {report : Report α} (shows : x.Shows config lengths scores report) :
      Mirrors config lengths weights scores (.ok x) report

theorem mirrors_idle {call call' : Call α} {events : List (Event α)} {outcome : Outcome α}
    (out : call.intercept = output config)
    (out' : call'.intercept = if config.extractIntercept then some intercept else none)
    (still : outcome.stop? = none) (rankless : lengths = [] → outcome = .zeroDimensions) :
    Mirrors config lengths weights scores (ofReport lengths (call.idle events (.ok outcome)))
      { call'.idle events (.ok outcome) with
        intercept := some ((call'.idle events (.ok outcome)).intercept.getD intercept) } := by
  have noOp : outcome.isNoOp = true := by simp [Outcome.isNoOp, Outcome.swept, still]
  apply Mirrors.made
  constructor
  · rfl
  · rfl
  · simp only [Call.idle, out, out', output]
    cases config.extractIntercept
    · rfl
    · rfl
  · intro swept
    simp [Outcome.swept, still] at swept
  · intro weightless
    rw [still] at weightless
    cases weightless
  · rintro (rfl : outcome = .emptyTensor)
    exact ⟨rfl, rfl⟩
  · intro empty
    exact ⟨rankless empty, if_pos noOp⟩

theorem mirrors_run {shape : Shape} {result result' : Sweep.Result α}
    {events events' : List (Event α)} (nonempty : lengths ≠ [])
    (made : Shape.ofLengths lengths = .ok shape) (agrees : result.Agrees shape result')
    (covers : result.field.Covers shape) (slots : result.field.impurities.size = shape.lineCount)
    (kept : result.convergence.stop = .zeroWeight → result.field.scores = scores)
    (out : result.intercept.isSome = config.extractIntercept) :
    Mirrors config lengths weights scores
      (ofReport lengths ⟨events, .ok (.purified result.convergence), .some result.field.scores,
        .some result.field.impurities, result.intercept⟩)
      ⟨events', .ok (.purified result'.convergence), .some result'.field.scores,
        .some result'.field.impurities, .some (result'.intercept.getD intercept)⟩ := by
  have residual : residualOf lengths (.purified result.convergence) result.field.scores.toList =
      result.field.scores.toList.take shape.cellCount := by
    simp only [residualOf, made]
  have length : (result.field.scores.toList.take shape.cellCount).length = shape.cellCount := by
    rw [List.length_take, Array.length_toList, Nat.min_eq_left covers.cells]
  apply Mirrors.made
  constructor
  · rw [agrees.convergence]
  · rfl
  · rw [← out, ← agrees.intercept]
    cases result.intercept with
    | none => rfl
    | some mean => rfl
  · intro swept
    have stop : result.convergence.stop ≠ .zeroWeight := of_decide_eq_true swept
    have noOp : (Outcome.purified result.convergence).isNoOp = false := by
      simpa [Outcome.isNoOp] using swept
    have all : result.field.impurities.toList.take shape.lineCount =
        result.field.impurities.toList := List.take_of_length_le (Nat.le_of_eq slots)
    refine ⟨shape, _, _, made, rfl, residual.trans agrees.scores.take_eq, ?_, rfl, ?_, ?_⟩
    · rw [← length]
      exact congrArg List.length residual
    · simp only [noOp]
      exact all.symm.trans (agrees.impurities stop).take_eq
    · simp only [noOp]
      exact slots
  · intro stopped
    have stop : result.convergence.stop = .zeroWeight := Option.some.inj stopped
    have noOp : (Outcome.purified result.convergence).isNoOp = true := by
      simp [Outcome.isNoOp, Outcome.swept, Outcome.stop?, Outcome.convergence?, stop]
    refine ⟨if_pos noOp, shape, made, ?_, ?_⟩
    · rw [← kept stop]
      exact residual
    · rw [← length]
      exact congrArg List.length residual
  · intro empty
    cases empty
  · exact fun empty => absurd empty nonempty

theorem mirrors_of_meet {call call' : Call α}
    (meet : Call.Meet lengths weights scores call.admission call'.admission)
    (tolerance : call'.tolerance = call.tolerance)
    (slots : call.impurities = some (Array.replicate (slotCount lengths) 0))
    (out : call.intercept = output config)
    (out' : call'.intercept = if config.extractIntercept then some intercept else none)
    (fuel : Nat) (limit : Option Nat) :
    Option.Rel (fun report report' =>
        Mirrors config lengths weights scores (ofReport lengths report)
          { report' with intercept := some (report'.intercept.getD intercept) })
      (call.purify fuel limit) (call'.purify fuel limit) := by
  generalize admitted : call.admission = admission at meet
  generalize admitted' : call'.admission = admission' at meet
  cases meet with
  | zeroDimensions empty =>
      simp only [Call.purify, admitted, admitted']
      exact .some (mirrors_idle out out' rfl fun _ => rfl)
  | refused nonempty refusal =>
      simp only [Call.purify, admitted, admitted']
      exact .some (.refused nonempty refusal rfl)
  | emptyTensor nonempty =>
      simp only [Call.purify, admitted, admitted']
      exact .some (mirrors_idle out out' rfl fun empty => absurd empty nonempty)
  | @table shape impurities impurities' nonempty made covers covers' =>
      have cleared : (call'.intercept.map fun _ => (0 : α)) = call.intercept.map fun _ => 0 := by
        rw [out, out', output]
        cases config.extractIntercept
        · rfl
        · rfl
      -- its own slots are as many as there are lines, so the marginals show all of them
      have own : impurities = Array.replicate shape.lineCount 0 := by
        have given := (Call.admits_of_admission admitted).impurities_eq
        rw [slots, slotCount, made] at given
        exact (Option.some.inj given).symm
      have runs := Sweep.run_agrees covers covers' (.refl _ weights) (.refl _ scores) fuel
        call.tolerance limit (call.intercept.map fun _ => 0)
      rw [Call.purify_of_admission admitted, Call.purify_of_admission admitted', tolerance, cleared]
      generalize ran : Sweep.run _ _ _ _ _ ⟨scores, impurities⟩ _ = first at runs ⊢
      generalize Sweep.run _ _ _ _ _ ⟨scores, impurities'⟩ _ = second at runs ⊢
      cases runs with
      | none => exact .none
      | some agrees =>
          obtain ⟨sameCells, sameSlots⟩ := Sweep.size_of_run ran
          apply Option.Rel.some
          apply mirrors_run nonempty made agrees
          · exact ⟨sameCells ▸ covers.cells, sameSlots ▸ covers.lines⟩
          · rw [sameSlots, own, Array.size_replicate]
          · intro stop
            rw [(Sweep.run_of_zeroWeight ran stop).1]
          · rw [Sweep.isSome_intercept_of_run ran, Option.isSome_map, out, output]
            cases config.extractIntercept
            · rfl
            · rfl

end Decomposition

/-- A session answers a decomposition with the fault or the outcome with which it answers a call
    in place on the same lengths, weights and scores, both with the same fuel or neither. The
    parts it shows are what that call leaves in its buffers. -/
theorem Session.decompose_mirrors_purifyBuffers {s s' : Session α} (same : s'.config = s.config)
    (declarable : ∀ l ∈ lengths, l ≤ Decomposition.maxLength)
    (room : ∀ shape, Shape.ofLengths lengths = .ok shape → shape.lineCount ≤ impurities.size)
    (fuel : Nat) (weights scores : Array α) (intercept : α) :
    Option.Rel (fun decomposed purified => Decomposition.Mirrors s.config lengths weights scores
        decomposed.1 purified.1)
      (s.decompose fuel lengths weights scores)
      (s'.purifyBuffers fuel (lengths.map Int.ofNat).toArray weights scores impurities
        intercept) := by
  obtain ⟨call, called, hands, tolerance, slots, out⟩ :=
    Decomposition.exists_callOf s.config declarable weights scores
  have hands' : (s.config.bufferCall (lengths.map Int.ofNat).toArray weights scores impurities
      intercept).Hands lengths weights scores := Config.hands_bufferCall room
  have mirrors := Decomposition.mirrors_of_meet (hands.meet hands') tolerance.symm slots out rfl
    fuel s.config.maxPasses
  rw [decompose, called, purifyBuffers, same]
  simp only [purify, Option.map_map, same]
  exact rel_map mirrors fun _ _ mirrored => mirrored

end

/-- A square whose call in place has a slot to spare, which keeps what it held. -/
theorem Session.decompose_mirrors_purifyBuffers_square :
    let decomposed := silent.decompose 2 [2, 2] #[1, 1, 1, 1] #[1, 2, 3, 10]
    let purified := silent.purifyBuffers 2 #[2, 2] #[1, 1, 1, 1] #[1, 2, 3, 10] #[7, 7, 7, 7, 7] 9
    Option.Rel (fun decomposed purified => Decomposition.Mirrors silent.config [2, 2]
        #[1, 1, 1, 1] #[1, 2, 3, 10] decomposed.1 purified.1) decomposed purified ∧
      (decomposed.map fun answer => answer.1.toOption.map fun x => (x.marginals, x.intercept)) =
        some (some ([-5 / 2, 5 / 2, -2, 2], 4)) ∧
      (purified.map fun answer => (answer.1.impurities, answer.1.intercept)) =
        some (some #[-5 / 2, 5 / 2, -2, 2, 7], some 4) := by
  intro decomposed purified
  have room : ∀ shape, Shape.ofLengths [2, 2] = .ok shape →
      shape.lineCount ≤ (#[7, 7, 7, 7, 7] : Array ℚ).size := by
    rintro _ ⟨⟩
    decide
  refine ⟨decompose_mirrors_purifyBuffers rfl (by decide) room 2 _ _ 9, ?_, ?_⟩
  · decide +kernel
  · decide +kernel

end Purification
