import Purification.Call.Report
import Purification.Proofs.First
import Purification.Proofs.Sweep.Opening

/-! # Calls that reach a sweep

A call is handed to a sweep only with buffers that cover its shape, and its report then
holds what the run leaves behind. A decomposition is read off the report of a call whose
shape is that of the given lengths.
-/

namespace Purification

theorem bind_eq_ok {ε β γ : Type} {first : Except ε β} {next : β → Except ε γ} {result : γ}
    (h : first >>= next = .ok result) : ∃ value, first = .ok value ∧ next value = .ok result := by
  cases first with
  | error => cases h
  | ok value => exact ⟨value, rfl, h⟩

variable {α : Type}

theorem Buffer.require_eq_ok {buffer : Buffer} {required : Nat} {given : Option (Array α)}
    {values : Array α} (h : buffer.require required given = .ok values) :
    given = some values ∧ required ≤ values.size := by
  cases given with
  | none => cases h
  | some held =>
      unfold Buffer.require at h
      dsimp only at h
      split at h
      · cases h
      · cases h
        exact ⟨rfl, by omega⟩

/-- The buffers of a call hold a table of this shape. -/
structure Call.Holds (call : Call α) (shape : Shape) (weights : Array α) (field : Field α) :
    Prop where
  weights_eq : call.weights = some weights
  scores_eq : call.scores = some field.scores
  impurities_eq : call.impurities = some field.impurities
  weights_le : shape.cellCount ≤ weights.size
  covers : field.Covers shape

theorem Call.holds_of_table {call : Call α} {shape shape' : Shape} {weights : Array α}
    {field : Field α} (h : call.table shape = .ok (.table shape' weights field)) :
    shape' = shape ∧ call.Holds shape weights field := by
  unfold Call.table at h
  obtain ⟨weights, hw, h⟩ := bind_eq_ok h
  obtain ⟨scores, hs, h⟩ := bind_eq_ok h
  obtain ⟨impurities, hi, h⟩ := bind_eq_ok h
  cases h
  obtain ⟨weightsEq, weightsLe⟩ := Buffer.require_eq_ok hw
  obtain ⟨scoresEq, scoresLe⟩ := Buffer.require_eq_ok hs
  obtain ⟨impuritiesEq, impuritiesLe⟩ := Buffer.require_eq_ok hi
  exact ⟨rfl, weightsEq, scoresEq, impuritiesEq, weightsLe, scoresLe, impuritiesLe⟩

theorem Call.Holds.table_eq {call : Call α} {shape : Shape} {weights : Array α} {field : Field α}
    (h : call.Holds shape weights field) : call.table shape = .ok (.table shape weights field) := by
  rw [Call.table, h.weights_eq, h.scores_eq, h.impurities_eq]
  simp only [Buffer.require, if_neg (Nat.not_lt.2 h.weights_le),
    if_neg (Nat.not_lt.2 h.covers.cells), if_neg (Nat.not_lt.2 h.covers.lines)]
  rfl

theorem Call.nonneg_of_find?_eq_none {lengths : List Int}
    (unfound : (lengths.zipIdx.find? fun (length, _) => length < 0) = none) :
    ∀ l ∈ lengths, 0 ≤ l := by
  intro l member
  simpa using forall_of_find?_zipIdx (p := fun l => decide (l < 0)) unfound l member

theorem Call.exists_negative {lengths : List Int} (h : ¬ ∀ l ∈ lengths, 0 ≤ l) :
    ∃ length d, (lengths.zipIdx.find? fun (length, _) => length < 0) = some (length, d) := by
  by_contra unfound
  apply h
  apply nonneg_of_find?_eq_none
  exact Option.eq_none_iff_forall_ne_some.2 fun (length, d) found => unfound ⟨length, d, found⟩

theorem Call.convert_eq {lengths : List Int} (nonneg : ∀ l ∈ lengths, 0 ≤ l) (d : Nat) :
    convert d lengths = .ok (lengths.map (·.toNat)) := by
  induction lengths generalizing d with
  | nil => rfl
  | cons length rest ih =>
      obtain ⟨count, rfl⟩ := Int.eq_ofNat_of_zero_le (nonneg length List.mem_cons_self)
      rw [convert, ih fun l member => nonneg l (List.mem_cons_of_mem _ member)]
      rfl

theorem Call.shape?_of_negative {lengths : List Int} {length : Int} {d : Nat}
    (found : (lengths.zipIdx.find? fun (length, _) => length < 0) = some (length, d)) :
    shape? lengths = .error (.negativeDimensionLength d length) := by
  rw [shape?, found]

/-- The conversion refuses no length, since one that has no count was refused before. -/
theorem Call.shape?_of_nonneg {lengths : List Int} (nonneg : ∀ l ∈ lengths, 0 ≤ l) :
    shape? lengths =
      if 0 ∈ lengths then .ok none
      else (Shape.ofLengths (lengths.map (·.toNat))).map some := by
  unfold shape?
  split
  · rename_i length d found
    have member := List.fst_mem_of_mem_zipIdx (List.mem_of_find?_eq_some found)
    have negative : length < 0 := by simpa using List.find?_some found
    exact absurd (nonneg length member) (Int.not_le.2 negative)
  · rw [convert_eq nonneg]
    cases made : Shape.ofLengths (lengths.map (·.toNat)) with
    | error fault => simp only [bind, Except.bind, made, Except.map]
    | ok shape => simp only [bind, Except.bind, made, Except.map, pure, Except.pure]

theorem Call.ofLengths_of_shape? {lengths : List Int} {shape : Shape}
    (h : Call.shape? lengths = .ok (some shape)) :
    Shape.ofLengths (lengths.map (·.toNat)) = .ok shape := by
  have nonneg : ∀ l ∈ lengths, 0 ≤ l := by
    by_contra negative
    obtain ⟨length, d, found⟩ := exists_negative negative
    rw [shape?_of_negative found] at h
    cases h
  rw [shape?_of_nonneg nonneg] at h
  split at h
  · cases h
  · cases made : Shape.ofLengths (lengths.map (·.toNat)) with
    | error => simp [made, Except.map] at h
    | ok shape' =>
        simp only [made, Except.map, Except.ok.injEq, Option.some.injEq] at h
        rw [h]

/-- The call is one for a sweep of this table. -/
structure Call.Admits (call : Call α) (shape : Shape) (weights : Array α) (field : Field α) :
    Prop extends call.Holds shape weights field where
  count_le : call.dimensionCount ≤ Shape.maxRank
  lengths_eq : ∃ lengths, call.lengths = some lengths ∧
    Shape.ofLengths ((lengths.toList.take call.dimensionCount.toNat).map (·.toNat)) = .ok shape

theorem Call.admits_of_admission {call : Call α} {shape : Shape} {weights : Array α}
    {field : Field α} (h : call.admission = .ok (.table shape weights field)) :
    call.Admits shape weights field := by
  unfold Call.admission at h
  split at h
  · cases h
  split at h
  · cases h
  split at h
  · cases h
  rename_i low
  obtain ⟨lengths, hl, h⟩ := bind_eq_ok h
  obtain ⟨made, hs, h⟩ := bind_eq_ok h
  cases made with
  | none => cases h
  | some shape' =>
      obtain ⟨rfl, holds⟩ := Call.holds_of_table h
      exact ⟨holds, Int.not_lt.1 low, lengths, (Buffer.require_eq_ok hl).1,
        Call.ofLengths_of_shape? hs⟩

theorem Call.admission_congr {call call' : Call α} {shape : Shape} {weights : Array α}
    {field : Field α} (h : call.admission = .ok (.table shape weights field))
    (count : call'.dimensionCount = call.dimensionCount) (lengths : call'.lengths = call.lengths) :
    call'.admission = call'.table shape := by
  unfold Call.admission at h ⊢
  rw [count, lengths]
  split at h
  · cases h
  rename_i nonzero
  split at h
  · cases h
  rename_i positive
  split at h
  · cases h
  rename_i low
  obtain ⟨declared, hl, h⟩ := bind_eq_ok h
  obtain ⟨made, hs, h⟩ := bind_eq_ok h
  cases made with
  | none => cases h
  | some shape' =>
      obtain ⟨rfl, -⟩ := Call.holds_of_table h
      rw [if_neg nonzero, if_neg positive, if_neg low]
      simp only [hl, hs, bind, Except.bind]

theorem Outcome.exists_of_stop? {outcome : Outcome α} {stop : StopReason}
    (h : outcome.stop? = some stop) : ∃ c, outcome = .purified c ∧ c.stop = stop := by
  cases outcome with
  | zeroDimensions => cases h
  | emptyTensor => cases h
  | purified c => exact ⟨c, rfl, Option.some.inj h⟩

variable [Scalar α]

theorem Call.exists_of_purify {call : Call α} {fuel : Nat} {limit : Option Nat}
    {stop : StopReason}
    (h : ((call.purify fuel limit).map fun report => report.result.toOption.bind (·.stop?)) =
      some (some stop)) :
    ∃ report c, call.purify fuel limit = some report ∧ report.result = .ok (.purified c) ∧
      c.stop = stop := by
  obtain ⟨report, answered, stopped⟩ := Option.map_eq_some_iff.1 h
  cases result : report.result with
  | error fault =>
      rw [result] at stopped
      cases stopped
  | ok outcome =>
      rw [result] at stopped
      obtain ⟨c, rfl, stop⟩ := Outcome.exists_of_stop? stopped
      exact ⟨report, c, answered, result, stop⟩

theorem Call.passes_of_purify {call : Call α} {fuel n : Nat} {limit : Option Nat}
    {report : Report α} {c : Convergence α}
    (h : ((call.purify fuel limit).map fun report => report.result.toOption.map (·.passes)) =
      some (some n))
    (answered : call.purify fuel limit = some report)
    (purified : report.result = .ok (.purified c)) : c.passes = n := by
  rw [answered, Option.map_some, purified] at h
  exact Option.some.inj (Option.some.inj h)

/-- A call that is admitted is answered when the run of its table is. -/
theorem Call.purify_of_admission {call : Call α} {shape : Shape} {weights : Array α}
    {field : Field α} (admitted : call.admission = .ok (.table shape weights field)) (fuel : Nat)
    (limit : Option Nat) :
    call.purify fuel limit =
      (Sweep.run fuel shape call.tolerance limit weights field (call.intercept.map fun _ => 0)).map
        fun swept =>
          { events := [.entered call.summary, .exited (.purified swept.convergence)]
            result := .ok (.purified swept.convergence)
            scores := some swept.field.scores
            impurities := some swept.field.impurities
            intercept := swept.intercept } := by
  unfold Call.purify
  rw [admitted]
  dsimp only
  cases Sweep.run fuel shape call.tolerance limit weights field (call.intercept.map fun _ => 0) with
  | none => rfl
  | some swept => rfl

theorem Call.exists_purified_iff {call : Call α} {shape : Shape} {weights : Array α}
    {field : Field α} (admitted : call.admission = .ok (.table shape weights field))
    (weighty : Scalar.isZero (shape.totals weights field.scores).weight = false) {fuel : Nat}
    {limit : Option Nat} {c : Convergence α} :
    (∃ report, call.purify fuel limit = some report ∧ report.result = .ok (.purified c)) ↔
      ∃ n < fuel,
        (shape.setting call.tolerance limit weights field.scores).StopsAt
          (field.opening shape weights (call.intercept.map fun _ => 0)) n c.stop ∧
        c = (shape.setting call.tolerance limit weights field.scores).ending
          (field.opening shape weights (call.intercept.map fun _ => 0)) n c.stop := by
  rw [purify_of_admission admitted]
  constructor
  · rintro ⟨report, answered, purified⟩
    obtain ⟨swept, ran, rfl⟩ := Option.map_eq_some_iff.1 answered
    cases purified
    obtain ⟨n, enough, run⟩ := (Sweep.run_eq_some_iff weighty).1 ran
    exact ⟨n, enough, run.stopsAt, run.convergence_eq⟩
  · rintro ⟨n, enough, stopsAt, ends⟩
    rw [(Sweep.run_eq_some_iff weighty).2 ⟨n, enough, Sweep.swept_of_stopsAt weighty stopsAt⟩, ends]
    exact ⟨_, rfl, rfl⟩

/-- Only a sweep that never stops keeps a call from being answered. -/
theorem Call.exists_purify_iff {call : Call α} {limit : Option Nat} :
    (∃ fuel report, call.purify fuel limit = some report) ↔
      ∀ shape weights field, call.admission = .ok (.table shape weights field) →
        Scalar.isZero (shape.totals weights field.scores).weight = false →
        ∃ n, (shape.setting call.tolerance limit weights field.scores).decision
          (field.opening shape weights (call.intercept.map fun _ => 0)) n ≠ none := by
  constructor
  · rintro ⟨fuel, report, answered⟩ shape weights field admitted weighty
    rw [purify_of_admission admitted, Sweep.run_of_not_isZero fuel weighty] at answered
    obtain ⟨result, ran, -⟩ := Option.map_eq_some_iff.1 answered
    obtain ⟨ended, ran, -⟩ := Option.map_eq_some_iff.1 ran
    exact Sweep.exists_loop_eq_some_iff.1 ⟨fuel, ended, ran⟩
  · intro decided
    cases admitted : call.admission with
    | error fault => exact ⟨0, by simp [purify, admitted]⟩
    | ok admission =>
        cases admission with
        | zeroDimensions => exact ⟨0, by simp [purify, admitted]⟩
        | emptyTensor => exact ⟨0, by simp [purify, admitted]⟩
        | table shape weights field =>
            cases weighty : Scalar.isZero (shape.totals weights field.scores).weight with
            | true =>
                refine ⟨0, ?_⟩
                rw [purify_of_admission admitted, Sweep.run_of_isZero 0 weighty]
                exact ⟨_, rfl⟩
            | false =>
                obtain ⟨fuel, ended, ran⟩ := Sweep.exists_loop_eq_some_iff.2
                  (decided shape weights field admitted weighty)
                refine ⟨fuel, ?_⟩
                rw [purify_of_admission admitted, Sweep.run_of_not_isZero fuel weighty, ran]
                exact ⟨_, rfl⟩

/-- The report of a sweep that ended like this and left this field in the buffers. -/
structure Report.Leaves (report : Report α) (c : Convergence α) (last : Field α) : Prop where
  result_eq : report.result = .ok (.purified c)
  scores_eq : report.scores = some last.scores
  impurities_eq : report.impurities = some last.impurities

theorem Call.run_of_purified {call : Call α} {fuel : Nat} {limit : Option Nat} {report : Report α}
    {c : Convergence α} (h : call.purify fuel limit = some report)
    (purified : report.result = .ok (.purified c)) :
    ∃ shape weights field, call.admission = .ok (.table shape weights field) ∧
      ∃ swept, Sweep.run fuel shape call.tolerance limit weights field
          (call.intercept.map fun _ => 0) = some swept ∧
        swept.convergence = c ∧ report.scores = some swept.field.scores ∧
        report.impurities = some swept.field.impurities ∧ report.intercept = swept.intercept := by
  unfold Call.purify at h
  split at h
  · cases h
    cases purified
  · cases h
    cases purified
  · cases h
    cases purified
  · rename_i shape weights field admitted
    obtain ⟨swept, ran, told⟩ := Option.bind_eq_some_iff.1 h
    cases told
    cases purified
    exact ⟨shape, weights, field, admitted, swept, ran, rfl, rfl, rfl, rfl⟩

section

variable {call : Call α} {shape : Shape} {weights : Array α} {field : Field α} {fuel : Nat}
  {limit : Option Nat} (admitted : call.admission = .ok (.table shape weights field))

include admitted

theorem Call.swept_of_purified
    (weighty : Scalar.isZero (shape.totals weights field.scores).weight = false)
    {report : Report α} {c : Convergence α} (answered : call.purify fuel limit = some report)
    (purified : report.result = .ok (.purified c)) :
    ∃ n < fuel, ∃ result, Sweep.Swept shape call.tolerance limit weights field
        (call.intercept.map fun _ => 0) n result ∧
      c = result.convergence ∧ report.Leaves c result.field ∧
      report.intercept = result.intercept := by
  obtain ⟨_, _, _, admitted', result, ran, rfl, scores, impurities, intercept⟩ :=
    Call.run_of_purified answered purified
  cases admitted.symm.trans admitted'
  obtain ⟨n, enough, swept⟩ := (Sweep.run_eq_some_iff weighty).1 ran
  exact ⟨n, enough, result, swept, rfl, ⟨purified, scores, impurities⟩, intercept⟩

theorem Call.swept_of_stop_ne {report : Report α} {c : Convergence α}
    (answered : call.purify fuel limit = some report)
    (purified : report.result = .ok (.purified c)) (swept : c.stop ≠ .zeroWeight) :
    ∃ n < fuel, ∃ result, Sweep.Swept shape call.tolerance limit weights field
        (call.intercept.map fun _ => 0) n result ∧
      c = result.convergence ∧ report.Leaves c result.field ∧
      report.intercept = result.intercept := by
  apply Call.swept_of_purified admitted _ answered purified
  rw [Bool.eq_false_iff]
  intro weightless
  rw [purify_of_admission admitted, Sweep.run_of_isZero fuel weightless] at answered
  cases answered
  cases purified
  exact swept rfl

theorem Call.exists_report_of_swept {n : Nat} {result : Sweep.Result α} (enough : n < fuel)
    (swept : Sweep.Swept shape call.tolerance limit weights field (call.intercept.map fun _ => 0)
      n result) :
    ∃ report, call.purify fuel limit = some report ∧
      report.Leaves result.convergence result.field ∧ report.intercept = result.intercept := by
  rw [purify_of_admission admitted, (Sweep.run_eq_some_iff swept.weighty).2 ⟨n, enough, swept⟩]
  exact ⟨_, rfl, ⟨rfl, rfl, rfl⟩, rfl⟩

end

theorem Call.passes_of_zeroWeight {call : Call α} {fuel : Nat} {limit : Option Nat}
    {report : Report α} {c : Convergence α} (h : call.purify fuel limit = some report)
    (purified : report.result = .ok (.purified c)) (stop : c.stop = .zeroWeight) :
    c.passes = 0 := by
  obtain ⟨shape, weights, field, -, swept, ran, rfl, -⟩ := run_of_purified h purified
  rcases Sweep.run_eq_some ran with weightless | ⟨n, -, run⟩
  · rw [weightless]
  · exact absurd stop run.stop_ne

end Purification
