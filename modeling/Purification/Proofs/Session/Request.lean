import Purification.Proofs.Call.Table
import Purification.Proofs.First
import Purification.Session

/-! # Requests to a session

A session is asked to purify a call, to purify buffers, or to decompose a table. Each request
makes one call, unless it is a decomposition with a length that no call can declare; and what
it is answered with is the result of that call.
-/

namespace Purification

variable {α : Type}

inductive Request (α : Type) where
  | purify (call : Call α)
  | purifyBuffers (lengths : Array Int) (weights scores impurities : Array α) (intercept : α)
  | decompose (lengths : List Nat) (weights scores : Array α)

namespace Decomposition

/-- The lengths that count are not beyond what a call can declare. -/
def declarable (lengths : List Nat) : Bool :=
  (lengths.take Shape.maxRank).all (· ≤ maxLength)

theorem not_declarable_of_declare {lengths : List Nat} {fault : Fault}
    (h : declare lengths = .error fault) :
    declarable lengths = false ∧ ∃ d, fault = .dimensionLengthOverflow d maxLength := by
  unfold declare at h
  dsimp only at h
  split at h
  · rename_i length dimension found
    cases h
    obtain ⟨-, ⟨length', there, long⟩, -⟩ :=
      isLeast_of_find?_zipIdx (p := fun length => decide (maxLength < length)) found
    refine ⟨List.all_eq_false.2 ⟨length', List.mem_of_getElem? there, ?_⟩, dimension, rfl⟩
    simpa using long
  · cases h

theorem declarable_of_declare {lengths : List Nat} {declared : Array Int}
    (h : declare lengths = .ok declared) : declarable lengths = true := by
  unfold declare at h
  dsimp only at h
  split at h
  · cases h
  · rename_i unfound
    refine List.all_eq_true.2 fun length member => ?_
    simpa using
      forall_of_find?_zipIdx (p := fun length => decide (maxLength < length)) unfound length
      member

end Decomposition

/-- The call that hands over all buffers under a configuration. -/
def Config.bufferCall (config : Config α) (lengths : Array Int)
    (weights scores impurities : Array α) (intercept : α) : Call α :=
  { tolerance := config.tolerance
    dimensionCount := lengths.size
    lengths := some lengths
    weights := some weights
    scores := some scores
    impurities := some impurities
    intercept := if config.extractIntercept then some intercept else none }

theorem Config.intercept_bufferCall {config : Config α} (apart : config.extractIntercept = false)
    (lengths : Array Int) (weights scores impurities : Array α) (intercept : α) :
    (config.bufferCall lengths weights scores impurities intercept).intercept = none := by
  simp [bufferCall, apart]

/-- The request makes a call: it is no decomposition with a length that cannot be declared. -/
def Request.declarable : Request α → Bool
  | .decompose lengths _ _ => Decomposition.declarable lengths
  | _ => true

variable [Scalar α]

def Request.call? (config : Config α) : Request α → Except Fault (Call α)
  | .purify call => .ok call
  | .purifyBuffers lengths weights scores impurities intercept =>
      .ok (config.bufferCall lengths weights scores impurities intercept)
  | .decompose lengths weights scores => Decomposition.callOf config lengths weights scores

theorem Request.not_declarable_of_call? {config : Config α} {request : Request α} {fault : Fault}
    (h : request.call? config = .error fault) :
    request.declarable = false ∧
      ∃ d, fault = .dimensionLengthOverflow d Decomposition.maxLength := by
  cases request with
  | purify call => cases h
  | purifyBuffers lengths weights scores impurities intercept => cases h
  | decompose lengths weights scores =>
      change Decomposition.callOf config lengths weights scores = _ at h
      unfold Decomposition.callOf at h
      cases declared : Decomposition.declare lengths with
      | error fault' =>
          rw [declared] at h
          cases h
          exact Decomposition.not_declarable_of_declare declared
      | ok declared' =>
          rw [declared] at h
          cases h

theorem Request.declarable_of_call? {config : Config α} {request : Request α} {call : Call α}
    (h : request.call? config = .ok call) : request.declarable = true := by
  cases request with
  | purify call => rfl
  | purifyBuffers lengths weights scores impurities intercept => rfl
  | decompose lengths weights scores =>
      obtain ⟨declared, hdeclared, -⟩ := bind_eq_ok h
      exact Decomposition.declarable_of_declare hdeclared

namespace Session

/-- The result with which a request is answered, and the session after it. -/
def answer (fuel : Nat) (s : Session α) :
    Request α → Option (Except Fault (Outcome α) × Session α)
  | .purify call => (s.purify fuel call).map fun (report, s) => (report.result, s)
  | .purifyBuffers lengths weights scores impurities intercept =>
      (s.purifyBuffers fuel lengths weights scores impurities intercept).map fun (report, s) =>
        (report.result, s)
  | .decompose lengths weights scores =>
      (s.decompose fuel lengths weights scores).map fun (decomposed, s) =>
        (decomposed.map (·.outcome), s)

/-- Requests answered one after the other, each with the result beside it, lead from one
    session to another. -/
inductive Serves : Session α → List (Request α × Except Fault (Outcome α)) → Session α → Prop where
  | nil (s : Session α) : Serves s [] s
  | cons {s s' s'' : Session α} {fuel : Nat} {request : Request α}
      {result : Except Fault (Outcome α)} {later : List (Request α × Except Fault (Outcome α))}
      (answered : s.answer fuel request = some (result, s')) (rest : Serves s' later s'') :
      Serves s ((request, result) :: later) s''

variable {s s' : Session α} {fuel : Nat} {report : Report α}

theorem purify_eq_some {call : Call α} (h : s.purify fuel call = some (report, s')) :
    call.purify fuel s.config.maxPasses = some report ∧ s' = s.note call report := by
  obtain ⟨report', answered, same⟩ := Option.map_eq_some_iff.1 h
  cases same
  exact ⟨answered, rfl⟩

theorem purifyBuffers_eq_some {lengths : Array Int} {weights scores impurities : Array α}
    {intercept : α}
    (h : s.purifyBuffers fuel lengths weights scores impurities intercept = some (report, s')) :
    ∃ called, s.purify fuel (s.config.bufferCall lengths weights scores impurities intercept) =
        some (called, s') ∧
      report = { called with intercept := some (called.intercept.getD intercept) } := by
  obtain ⟨⟨called, s''⟩, answered, same⟩ := Option.map_eq_some_iff.1 h
  cases same
  exact ⟨called, answered, rfl⟩

theorem map_outcome_ofReport (lengths : List Nat) (report : Report α) :
    (Decomposition.ofReport lengths report).map (·.outcome) = report.result := by
  unfold Decomposition.ofReport
  cases report.result with
  | error fault => rfl
  | ok outcome => rfl

/-- A request is answered with the fault that keeps it from making a call, and then leaves the
    session alone; or with the result of its call, which the session then takes note of. -/
theorem answer_eq_some {request : Request α} {result : Except Fault (Outcome α)}
    (h : s.answer fuel request = some (result, s')) :
    (∃ fault, request.call? s.config = .error fault ∧ result = .error fault ∧ s' = s) ∨
      ∃ call report, request.call? s.config = .ok call ∧
        call.purify fuel s.config.maxPasses = some report ∧ report.result = result ∧
        s' = s.note call report := by
  cases request with
  | purify call =>
      obtain ⟨⟨report, later⟩, answered, same⟩ := Option.map_eq_some_iff.1 h
      cases same
      obtain ⟨purified, noted⟩ := purify_eq_some answered
      exact .inr ⟨call, report, rfl, purified, rfl, noted⟩
  | purifyBuffers lengths weights scores impurities intercept =>
      obtain ⟨⟨report, later⟩, answered, same⟩ := Option.map_eq_some_iff.1 h
      cases same
      obtain ⟨called, handed, rfl⟩ := purifyBuffers_eq_some answered
      obtain ⟨purified, noted⟩ := purify_eq_some handed
      exact .inr ⟨_, called, rfl, purified, rfl, noted⟩
  | decompose lengths weights scores =>
      obtain ⟨⟨decomposed, later⟩, answered, same⟩ := Option.map_eq_some_iff.1 h
      cases same
      -- only here can there be no call, and then the session is handed back as it was
      unfold decompose at answered
      cases called : Decomposition.callOf s.config lengths weights scores with
      | error fault =>
          rw [called] at answered
          cases answered
          exact .inl ⟨fault, called, rfl, rfl⟩
      | ok call =>
          rw [called] at answered
          obtain ⟨⟨report, later⟩, answered, same⟩ := Option.map_eq_some_iff.1 answered
          cases same
          obtain ⟨purified, noted⟩ := purify_eq_some answered
          exact .inr ⟨call, report, called, purified, (map_outcome_ofReport _ _).symm, noted⟩

end Session

theorem Session.start_standard (sink : Sink) :
    Session.start .standard sink = .ok { config := .standard, observer := { sink } } := by
  have usable : (Config.standard : Config Float).fault? = none := by decide +kernel
  simp [Session.start, Config.checked, usable, bind, Except.bind, pure, Except.pure]

end Purification
