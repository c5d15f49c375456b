import Purification.Proofs.Call.Table
import Purification.Session

/-! # Decompositions as runs

A decomposition that swept a table is what the run of that table leaves behind: the shape
is that of the lengths given, the residual its scores, the marginals its slots.
-/

namespace Purification

variable {α : Type}

namespace Decomposition

theorem declare_eq_ok {lengths : List Nat} {declared : Array Int}
    (h : declare lengths = .ok declared) :
    declared = ((lengths.take Shape.maxRank).map Int.ofNat).toArray := by
  unfold declare at h
  dsimp only at h
  split at h
  · cases h
  · cases h
    rfl

theorem map_toNat_declared (lengths : List Nat) (short : lengths.length ≤ Shape.maxRank) :
    ((((lengths.take Shape.maxRank).map Int.ofNat).toArray.toList.take lengths.length).map
      (·.toNat)) = lengths := by
  rw [List.take_of_length_le short, List.take_of_length_le (by simp), List.map_map]
  exact List.map_id lengths

section

variable {x : Decomposition α} {shape : Shape} {d : Nat}
  (made : Shape.ofLengths x.lengths = .ok shape) (hd : d < shape.rank)
  (all : x.marginals.length = shape.lineCount)

include made hd all

theorem marginal_eq :
    x.marginal d = (x.marginals.drop (shape.offset d)).take (shape.linesAlong d) ∧
      shape.offset d + shape.linesAlong d ≤ x.marginals.length := by
  have before : shape.offset (d + 1) ≤ shape.offset shape.rank :=
    Shape.offset_mono hd (Nat.le_refl _)
  rw [Shape.offset_succ hd, Shape.offset_rank, ← all] at before
  exact ⟨by simp [marginal, made, hd, before], before⟩

theorem length_marginal : (x.marginal d).length = shape.linesAlong d := by
  obtain ⟨sliced, inside⟩ := marginal_eq made hd all
  rw [sliced, List.length_take, List.length_drop]
  omega

theorem getElem?_marginal {i : Nat} (hi : i < shape.linesAlong d) :
    (x.marginal d)[i]? = x.marginals[shape.offset d + i]? := by
  rw [(marginal_eq made hd all).1, List.getElem?_take_of_lt hi, List.getElem?_drop]

end

variable [Scalar α]

/-- The field that is made ready for a copy of the scores. -/
def ready (shape : Shape) (scores : Array α) : Field α :=
  { scores, impurities := Array.replicate shape.lineCount 0 }

/-- The intercept output that is made ready under a configuration. -/
def output (config : Config α) : Option α := if config.extractIntercept then some 0 else none

/-- The decomposition is what a run of the table with these lengths leaves behind. -/
structure OfRun (x : Decomposition α) (config : Config α) (fuel : Nat) (lengths : List Nat)
    (weights scores : Array α) (c : Convergence α) (shape : Shape) (result : Sweep.Result α) :
    Prop where
  lengths_eq : x.lengths = lengths
  made : Shape.ofLengths lengths = .ok shape
  weights_le : shape.cellCount ≤ weights.size
  scores_le : shape.cellCount ≤ scores.size
  ran : Sweep.run fuel shape config.tolerance config.maxPasses weights (ready shape scores)
    (output config) = some result
  convergence_eq : result.convergence = c
  residual_eq : x.residual = result.field.scores.toList.take shape.cellCount
  intercept_eq : x.intercept = result.intercept.getD 0
  marginals_eq : x.marginals =
    if c.stop = .zeroWeight then [] else result.field.impurities.toList

theorem ofRun_of_report {config : Config α} {fuel : Nat} {lengths : List Nat}
    {weights scores : Array α} {call : Call α} {report : Report α} {x : Decomposition α}
    {c : Convergence α} (called : callOf config lengths weights scores = .ok call)
    (answered : call.purify fuel config.maxPasses = some report)
    (told : ofReport lengths report = .ok x) (purified : x.outcome = .purified c) :
    ∃ shape result, x.OfRun config fuel lengths weights scores c shape result := by
  obtain ⟨declared, hdeclared, called⟩ := bind_eq_ok called
  obtain ⟨outcome, houtcome, told⟩ := bind_eq_ok told
  cases called
  cases told
  dsimp only at purified
  subst purified
  obtain ⟨shape, weights', field, admitted, result, ran, converged, hscores, himpurities,
    hintercept⟩ := Call.run_of_purified answered houtcome
  have admits := Call.admits_of_admission admitted
  obtain ⟨lengths', hlengths, made⟩ := admits.lengths_eq
  have short : lengths.length ≤ Shape.maxRank := Int.ofNat_le.1 admits.count_le
  cases hlengths
  rw [declare_eq_ok hdeclared, Int.toNat_natCast, map_toNat_declared lengths short] at made
  have slots : slotCount lengths = shape.lineCount := by simp [slotCount, made]
  cases Option.some.inj admits.weights_eq
  have fieldEq : field = ready shape scores := by
    rw [ready, ← slots, Option.some.inj admits.scores_eq, Option.some.inj admits.impurities_eq]
  subst fieldEq
  refine ⟨shape, result, rfl, made, admits.weights_le, admits.covers.cells, ?_, converged, ?_, ?_,
    ?_⟩
  · rw [← ran, output]
    cases config.extractIntercept
    · rfl
    · rfl
  · simp [residualOf, made, hscores]
  · rw [hintercept]
  · cases hstop : c.stop <;> simp [Outcome.isNoOp, Outcome.swept, Outcome.stop?,
      Outcome.convergence?, hstop, himpurities]

section

variable {x : Decomposition α} {config : Config α} {fuel : Nat} {lengths : List Nat}
  {weights scores : Array α} {c : Convergence α} {shape : Shape} {result : Sweep.Result α}

theorem OfRun.weightless_or_swept
    (h : x.OfRun config fuel lengths weights scores c shape result) :
    (c.stop = .zeroWeight ∧ x.residual = scores.toList.take shape.cellCount ∧ x.intercept = 0) ∨
      ∃ n, Sweep.Swept shape config.tolerance config.maxPasses weights (ready shape scores)
        (output config) n result := by
  rcases Sweep.run_eq_some h.ran with weightless | ⟨n, -, swept⟩
  · refine .inl ⟨?_, ?_, ?_⟩
    · rw [← h.convergence_eq, weightless]
    · rw [h.residual_eq, weightless]
      rfl
    · rw [h.intercept_eq, weightless, output]
      cases config.extractIntercept
      · rfl
      · rfl
  · exact .inr ⟨n, swept⟩

theorem OfRun.getD_residual (h : x.OfRun config fuel lengths weights scores c shape result)
    {cell : Nat} (hc : cell < shape.cellCount) :
    x.residual.getD cell 0 = result.field.scores.getD cell 0 := by
  rw [h.residual_eq, List.getD_eq_getElem?_getD, List.getElem?_take_of_lt hc,
    Array.getElem?_toList, Array.getD_eq_getD_getElem?]

theorem OfRun.covers (h : x.OfRun config fuel lengths weights scores c shape result) :
    (ready shape scores).Covers shape := ⟨h.scores_le, by simp [ready]⟩

theorem OfRun.length_marginals (h : x.OfRun config fuel lengths weights scores c shape result)
    {n : Nat} (swept : Sweep.Swept shape config.tolerance config.maxPasses weights
      (ready shape scores) (output config) n result) :
    x.marginals = result.field.impurities.toList ∧ x.marginals.length = shape.lineCount := by
  have listed : x.marginals = result.field.impurities.toList := by
    rw [h.marginals_eq, if_neg (h.convergence_eq ▸ swept.stop_ne)]
  refine ⟨listed, ?_⟩
  rw [listed, Array.length_toList, swept.size_impurities]
  exact Array.size_replicate

theorem OfRun.marginal_at (h : x.OfRun config fuel lengths weights scores c shape result)
    {n : Nat} (swept : Sweep.Swept shape config.tolerance config.maxPasses weights
      (ready shape scores) (output config) n result)
    {d i : Nat} (hd : d < shape.rank) (hi : i < shape.linesAlong d) :
    i < (x.marginal d).length ∧
      (x.marginal d).getD i 0 = result.field.impurities.getD (shape.offset d + i) 0 := by
  obtain ⟨listed, all⟩ := h.length_marginals swept
  have made : Shape.ofLengths x.lengths = .ok shape := h.lengths_eq.symm ▸ h.made
  constructor
  · rwa [length_marginal made hd all]
  · rw [List.getD_eq_getElem?_getD, getElem?_marginal made hd all hi, listed,
      Array.getElem?_toList, Array.getD_eq_getD_getElem?]

end

end Decomposition

theorem Session.exists_of_decompose [Scalar α] {s : Session α} {fuel : Nat} {lengths : List Nat}
    {weights scores : Array α} {stop : StopReason}
    (h : ((s.decompose fuel lengths weights scores).map fun answer =>
      answer.1.toOption.bind (·.outcome.stop?)) = some (some stop)) :
    ∃ x s' c, s.decompose fuel lengths weights scores = some (.ok x, s') ∧
      x.outcome = .purified c ∧ c.stop = stop := by
  obtain ⟨⟨answer, s'⟩, answered, stopped⟩ := Option.map_eq_some_iff.1 h
  cases answer with
  | error fault => cases stopped
  | ok x =>
      obtain ⟨c, purified, stop⟩ := Outcome.exists_of_stop? stopped
      exact ⟨x, s', c, answered, purified, stop⟩

theorem Session.exists_decompose_iff [Scalar α] {s : Session α} {lengths : List Nat}
    {weights scores : Array α} :
    (∃ fuel answer, s.decompose fuel lengths weights scores = some answer) ↔
      ∀ call, Decomposition.callOf s.config lengths weights scores = .ok call →
        ∃ fuel report, call.purify fuel s.config.maxPasses = some report := by
  unfold Session.decompose Session.purify
  cases Decomposition.callOf s.config lengths weights scores with
  | error fault => exact ⟨fun _ _ => nofun, fun _ => ⟨0, _, rfl⟩⟩
  | ok call =>
      simp only [Option.map_map, Option.map_eq_some_iff]
      constructor
      · rintro ⟨fuel, answer, report, answered, -⟩ _ ⟨⟩
        exact ⟨fuel, report, answered⟩
      · intro answers
        obtain ⟨fuel, report, answered⟩ := answers call rfl
        exact ⟨fuel, _, report, answered, rfl⟩

/-- An answer in parts was told by the report of a call. -/
theorem Session.exists_report_of_decompose [Scalar α] {s s' : Session α} {fuel : Nat}
    {lengths : List Nat} {weights scores : Array α} {x : Decomposition α}
    (h : s.decompose fuel lengths weights scores = some (.ok x, s')) :
    ∃ call report, Decomposition.callOf s.config lengths weights scores = .ok call ∧
      call.purify fuel s.config.maxPasses = some report ∧
      Decomposition.ofReport lengths report = .ok x := by
  unfold Session.decompose at h
  split at h
  · cases h
  · rename_i call called
    obtain ⟨⟨report, later⟩, noted, told⟩ := Option.map_eq_some_iff.1 h
    obtain ⟨report', answered, same⟩ := Option.map_eq_some_iff.1 noted
    cases same
    exact ⟨call, report, called, answered, congrArg Prod.fst told⟩

theorem Session.ofRun_of_decompose [Scalar α] {s s' : Session α} {fuel : Nat} {lengths : List Nat}
    {weights scores : Array α} {x : Decomposition α} {c : Convergence α}
    (h : s.decompose fuel lengths weights scores = some (.ok x, s'))
    (purified : x.outcome = .purified c) :
    ∃ shape result, x.OfRun s.config fuel lengths weights scores c shape result := by
  obtain ⟨_, _, called, answered, told⟩ := exists_report_of_decompose h
  exact Decomposition.ofRun_of_report called answered told purified

end Purification
