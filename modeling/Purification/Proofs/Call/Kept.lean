import Purification.Proofs.Call.Told
import Purification.Proofs.Session.Request

/-! # What a call leaves as it was

The intercept output is set before anything is checked, and nothing else is written before
everything has been. A call that is refused, or whose table has no dimensions, no cells or no
weight, therefore hands its other buffers back as it found them. Who is told of it makes no
difference. The same holds of the outputs that the steps of a call carry along and could write to.
-/

namespace Purification

variable {α : Type}

/-- The results of calls in which no line is swept. -/
inductive Outcome.Unswept : Except Fault (Outcome α) → Prop where
  | refused (fault : Fault) : Unswept (.error fault)
  | zeroDimensions : Unswept (.ok .zeroDimensions)
  | emptyTensor : Unswept (.ok .emptyTensor)
  /-- The sweep stopped at once, the total weight being zero. -/
  | weightless (c : Convergence α) (stop : c.stop = .zeroWeight) : Unswept (.ok (.purified c))

variable [Scalar α]

theorem Call.idle_or_purified {call : Call α} {fuel : Nat} {limit : Option Nat} {report : Report α}
    (h : call.purify fuel limit = some report) :
    (∃ events, report = call.idle events report.result) ∨
      ∃ c, report.result = .ok (.purified c) := by
  unfold purify at h
  split at h
  · cases h
    exact .inl ⟨_, rfl⟩
  · cases h
    exact .inl ⟨_, rfl⟩
  · cases h
    exact .inl ⟨_, rfl⟩
  · obtain ⟨swept, -, told⟩ := Option.bind_eq_some_iff.1 h
    cases told
    exact .inr ⟨swept.convergence, rfl⟩

theorem Sweep.intercept_of_run {fuel : Nat} {shape : Shape} {tolerance : α} {limit : Option Nat}
    {weights : Array α} {field : Field α} {result : Result α}
    (h : run fuel shape tolerance limit weights field none = some result) :
    result.intercept = none := by
  rcases run_eq_some h with weightless | ⟨n, -, swept⟩
  · rw [weightless]
  · rw [swept.intercept_eq]
    rfl

theorem Sweep.run_of_zeroWeight {fuel : Nat} {shape : Shape} {tolerance : α} {limit : Option Nat}
    {weights : Array α} {field : Field α} {intercept : Option α} {result : Result α}
    (h : run fuel shape tolerance limit weights field intercept = some result)
    (stop : result.convergence.stop = .zeroWeight) :
    result.field = field ∧ result.intercept = intercept := by
  rcases run_eq_some h with weightless | ⟨n, -, swept⟩
  · rw [weightless]
    exact ⟨rfl, rfl⟩
  · exact absurd stop swept.stop_ne

namespace Call

variable {call : Call α} {fuel : Nat} {limit : Option Nat} {report : Report α}

theorem kept_of_zeroWeight {c : Convergence α} (h : call.purify fuel limit = some report)
    (purified : report.result = .ok (.purified c)) (stop : c.stop = .zeroWeight) :
    report.scores = call.scores ∧ report.impurities = call.impurities ∧
      report.intercept = call.intercept.map fun _ => 0 := by
  obtain ⟨shape, weights, field, admitted, swept, ran, rfl, scores, impurities, intercept⟩ :=
    run_of_purified h purified
  -- the run leaves the field as it was admitted, which is what the buffers hold
  have admits := admits_of_admission admitted
  obtain ⟨fieldKept, interceptKept⟩ := Sweep.run_of_zeroWeight ran stop
  rw [scores, impurities, intercept, fieldKept, interceptKept, admits.scores_eq,
    admits.impurities_eq]
  exact ⟨rfl, rfl, rfl⟩

theorem kept_of_unswept (h : call.purify fuel limit = some report)
    (unswept : Outcome.Unswept report.result) :
    report.scores = call.scores ∧ report.impurities = call.impurities ∧
      report.intercept = call.intercept.map fun _ => 0 := by
  rcases idle_or_purified h with ⟨events, idle⟩ | ⟨c, purified⟩
  · rw [idle]
    exact ⟨rfl, rfl, rfl⟩
  · rw [purified] at unswept
    cases unswept with
    | weightless _ stop => exact kept_of_zeroWeight h purified stop

theorem intercept_eq_none (h : call.purify fuel limit = some report)
    (absent : call.intercept = none) : report.intercept = none := by
  rcases idle_or_purified h with ⟨events, idle⟩ | ⟨c, purified⟩
  · rw [idle, Call.idle, absent]
    rfl
  · obtain ⟨shape, weights, field, -, swept, ran, -, -, -, intercept⟩ :=
      run_of_purified h purified
    rw [absent] at ran
    rw [intercept]
    exact Sweep.intercept_of_run ran

end Call

/-- What a report says of the buffers of a call in which no line was swept, and of an intercept
    output that was not supplied. -/
structure Report.Keeps (report : Report α) (call : Call α) : Prop where
  scores : Outcome.Unswept report.result → report.scores = call.scores
  impurities : Outcome.Unswept report.result → report.impurities = call.impurities
  intercept : Outcome.Unswept report.result → report.intercept = call.intercept.map fun _ => 0
  absent : call.intercept = none → report.intercept = none

theorem Call.keeps_of_purify {call : Call α} {fuel : Nat} {limit : Option Nat} {report : Report α}
    (h : call.purify fuel limit = some report) : report.Keeps call where
  scores unswept := (kept_of_unswept h unswept).1
  impurities unswept := (kept_of_unswept h unswept).2.1
  intercept unswept := (kept_of_unswept h unswept).2.2
  absent := intercept_eq_none h

/-- Handled step by step, a call in which no line is swept has its outputs written to once: an
    intercept output is set to 0. -/
theorem Handling.outputs_of_answer {call : Call α} {fuel : Nat} {limit : Option Nat}
    {o : Observer α} {result : Except Fault (Outcome α)} {s : State α}
    (h : answer fuel limit call o = some (result, s)) :
    (Outcome.Unswept result → s.outputs = call.cleared) ∧
      (call.intercept = none → s.outputs.intercept = none) := by
  rw [answer_eq] at h
  obtain ⟨report, purified, same⟩ := Option.map_eq_some_iff.1 h
  cases same
  have keeps := Call.keeps_of_purify purified
  refine ⟨fun unswept => ?_, keeps.absent⟩
  rw [Report.outputs, keeps.scores unswept, keeps.impurities unswept, keeps.intercept unswept]
  rfl

/-- A call that is refused, has nothing to do or has no weight leaves scores and impurities as
    they were and an intercept output at 0, and an intercept output that is not supplied is
    never written. So it is under every cap, in every session, whatever its observer keeps; for
    buffers under a configuration that takes out no intercept; and for the outputs on which the
    steps of a call work, none of whose checks writes to them. -/
theorem buffers_kept :
    (∀ (fuel : Nat) (limit : Option Nat) (call : Call α) (report : Report α),
      call.purify fuel limit = some report → report.Keeps call) ∧
    (∀ (fuel : Nat) (s s' : Session α) (call : Call α) (report : Report α),
      s.purify fuel call = some (report, s') → report.Keeps call) ∧
    (∀ (fuel : Nat) (s s' : Session α) (lengths : Array Int) (weights scores impurities : Array α)
      (intercept : α) (report : Report α),
      s.purifyBuffers fuel lengths weights scores impurities intercept = some (report, s') →
      (Outcome.Unswept report.result →
        report.scores = some scores ∧ report.impurities = some impurities ∧
          report.intercept = some (if s.config.extractIntercept then 0 else intercept)) ∧
      (s.config.extractIntercept = false → report.intercept = some intercept)) ∧
    ∀ (fuel : Nat) (limit : Option Nat) (call : Call α) (o : Observer α)
      (result : Except Fault (Outcome α)) (s : Handling.State α),
      Handling.answer fuel limit call o = some (result, s) →
      (Outcome.Unswept result → s.outputs = call.cleared) ∧
      (call.intercept = none → s.outputs.intercept = none) := by
  refine ⟨fun _ _ _ _ => Call.keeps_of_purify, ?_, ?_, fun _ _ _ _ _ _ =>
    Handling.outputs_of_answer⟩
  · intro fuel s s' call report answered
    exact Call.keeps_of_purify (Session.purify_eq_some answered).1
  · intro fuel s s' lengths weights scores impurities intercept report answered
    obtain ⟨called, handed, rfl⟩ := Session.purifyBuffers_eq_some answered
    have keeps := Call.keeps_of_purify (Session.purify_eq_some handed).1
    refine ⟨fun unswept => ⟨keeps.scores unswept, keeps.impurities unswept, ?_⟩, fun apart => ?_⟩
    · rw [keeps.intercept unswept, Config.bufferCall]
      cases s.config.extractIntercept with
      | true => rfl
      | false => rfl
    · rw [keeps.absent (Config.intercept_bufferCall apart _ _ _ _ _)]
      rfl

/-- A table without weight, its buffers longer than it needs and some of their entries no
    numbers. -/
def Call.weightless : Call Float :=
  { tolerance := 0.5
    dimensionCount := 2
    lengths := some #[2, 1, -7]
    weights := some #[0, -0.0, 1]
    scores := some #[0.0 / 0.0, -0.0, 3]
    impurities := some #[7, 0.0 / 0.0, 1.0 / 0.0]
    intercept := some 9 }

/-- That call, the same call with a weight too few, buffers that are swept while the intercept
    output is left alone, and the steps of the same call without weights. -/
theorem buffers_kept_weightless :
    (∃ report c, Call.weightless.purify 0 none = some report ∧
      report.result = .ok (.purified c) ∧ c.stop = .zeroWeight ∧
      report.scores = Call.weightless.scores ∧ report.impurities = Call.weightless.impurities ∧
      report.intercept = some 0) ∧
    (∃ report s', (⟨.standard, ⟨.logging, [], []⟩, {}, {}⟩ : Session Float).purify 0
        { Call.weightless with weights := some #[0] } = some (report, s') ∧
      report.result = .error (.bufferTooSmall .weights 2 1) ∧
      report.scores = Call.weightless.scores ∧ report.impurities = Call.weightless.impurities ∧
      report.intercept = some 0) ∧
    (∃ report s', (⟨⟨0, some 1, false⟩, ⟨.recording, [], []⟩, {}, {}⟩ : Session Float).purifyBuffers
        1 #[2] #[1, 1] #[1, 3] #[0] 9 = some (report, s') ∧ report.intercept = some 9) ∧
    ∃ s, Handling.answer 0 none { Call.weightless with weights := none } { sink := .recording } =
        some (.error (.missingBuffer .weights), s) ∧ s.outputs = Call.weightless.cleared := by
  refine ⟨?_, ?_, ?_, ?_⟩
  · have stopped : ((Call.weightless.purify 0 none).map fun report =>
        report.result.toOption.bind (·.stop?)) = some (some .zeroWeight) := by decide +kernel
    obtain ⟨report, c, answered, purified, stop⟩ := Call.exists_of_purify stopped
    have keeps := buffers_kept.1 0 none _ report answered
    have unswept : Outcome.Unswept report.result := purified ▸ .weightless c stop
    exact ⟨report, c, answered, purified, stop, keeps.scores unswept, keeps.impurities unswept,
      keeps.intercept unswept⟩
  · have keeps := buffers_kept.2.1 0 ⟨.standard, ⟨.logging, [], []⟩, {}, {}⟩ _
      { Call.weightless with weights := some #[0] } _ rfl
    have unswept := Outcome.Unswept.refused (α := Float) (.bufferTooSmall .weights 2 1)
    exact ⟨_, _, rfl, rfl, keeps.scores unswept, keeps.impurities unswept,
      keeps.intercept unswept⟩
  · have answered : ((⟨⟨0, some 1, false⟩, ⟨.recording, [], []⟩, {}, {}⟩ : Session
        Float).purifyBuffers 1 #[2] #[1, 1] #[1, 3] #[0] 9).isSome = true := by decide +kernel
    obtain ⟨⟨report, s'⟩, answered⟩ := Option.isSome_iff_exists.1 answered
    exact ⟨report, s', answered, (buffers_kept.2.2.1 1 _ s' _ _ _ _ 9 report answered).2 rfl⟩
  · have refused := Handling.answer_eq 0 none { Call.weightless with weights := none }
      { sink := .recording }
    exact ⟨_, refused, (buffers_kept.2.2.2 0 none _ _ _ _ refused).1 (.refused _)⟩

end Purification
