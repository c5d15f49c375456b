import Purification.Proofs.Call.Order
import Purification.Proofs.Call.Told

/-! # The log of calls

What an observer hears of a call while it is handled is what the report of the call says, and a
recording of many calls is made of one word for each of them.
-/

namespace Purification

variable {α : Type}

/-! ## Many calls -/

/-- The word of a call that has this result: that it came in with what it was passed, why there
    is nothing to do if there is nothing to do, and how it ended. -/
def Event.word (call : Call α) : Except Fault (Outcome α) → List (Event α)
  | .ok .zeroDimensions => [.entered call.summary, .zeroDimensions, .exited .zeroDimensions]
  | .ok .emptyTensor => [.entered call.summary, .emptyTensor, .exited .emptyTensor]
  | .ok (.purified c) => [.entered call.summary, .exited (.purified c)]
  | .error fault => [.entered call.summary, .rejected fault]

variable [Scalar α]

theorem Call.events_eq_word {call : Call α} {fuel : Nat} {limit : Option Nat} {report : Report α}
    (h : call.purify fuel limit = some report) :
    report.events = Event.word call report.result := by
  rw [Call.events_eq h]
  rcases report.result with fault | _ | _ | c
  · rfl
  · rfl
  · rfl
  · rfl

namespace Observer

/-- Calls handled one after the other, each under a cap of its own, on outputs of its own and with
    the result beside it, lead from one observer to another. -/
inductive Hears : Observer α → List (Call α × Except Fault (Outcome α)) → Observer α → Prop where
  | nil (o : Observer α) : Hears o [] o
  | cons {o o' o'' : Observer α} {fuel : Nat} {limit : Option Nat} {call : Call α}
      {result : Except Fault (Outcome α)} {outputs : Outputs α}
      {later : List (Call α × Except Fault (Outcome α))}
      (first : Handling.answer fuel limit call o = some (result, ⟨o', outputs⟩))
      (rest : Hears o' later o'') :
      Hears o ((call, result) :: later) o''

/-- What a recording has kept of calls are their words, one after the other. -/
theorem Hears.events_eq {o o' : Observer α} {handled : List (Call α × Except Fault (Outcome α))}
    (heard : o.Hears handled o') (recording : o.sink = .recording) :
    o'.events = o.events ++ handled.flatMap fun pair => Event.word pair.1 pair.2 := by
  induction heard with
  | nil o => simp
  | cons first _ ih =>
      rw [Handling.answer_eq] at first
      obtain ⟨report, purified, same⟩ := Option.map_eq_some_iff.1 first
      cases same
      rw [ih ((sink_tell _ _).trans recording), events_tell recording,
        Call.events_eq_word purified, List.flatMap_cons, List.append_assoc]

/-- Handling a call tells what its report says, as it goes, and leaves the outputs that the report
    holds. And whatever calls are handled, a recording holds the words of these calls in order and
    nothing else. -/
theorem log_of_calls (o : Observer α) :
    (∀ fuel limit call, Handling.answer fuel limit call o =
      (call.purify fuel limit).map fun report =>
        (report.result, ⟨o.tell report.events, report.outputs⟩)) ∧
    ∀ handled o', o.sink = .recording → o.Hears handled o' →
      o'.events = o.events ++ handled.flatMap fun pair => Event.word pair.1 pair.2 :=
  ⟨fun fuel limit call => Handling.answer_eq fuel limit call o,
    fun _ _ recording heard => heard.events_eq recording⟩

/-- A call of one cell without weights, its other buffers longer than its table. -/
def unweighted : Call Float :=
  { Call.bare 1 #[1] with scores := some #[1, 1], impurities := some #[0, 0, 0] }

/-- A call of one cell with buffers of different sizes, all longer than its table. -/
def roomy : Call Float :=
  { Call.bare 1 #[1, 7] with
    weights := some #[1, 0, 0], scores := some #[2, 0, 0, 0], impurities := some #[0, 0, 0, 0, 0],
    intercept := some 3 }

/-- A call with no dimensions, which hands in an intercept output; one without cells; one in which
    the weights are missing; and one that converges. Each leaves its word in the log. -/
theorem log_of_calls_mixed :
    ∃ (o' : Observer Float) (c : Convergence Float),
      let o : Observer Float := { sink := .recording }
      o.Hears [({ Call.bare 0 #[] with intercept := some 3 }, .ok .zeroDimensions),
        (.bare 2 #[2, 0], .ok .emptyTensor), (unweighted, .error (.missingBuffer .weights)),
        (roomy, .ok (.purified c))] o' ∧
      c.stop = .converged ∧
      o'.events =
        [.entered ⟨0, 0, some 0, none, none, none, true⟩, .zeroDimensions,
          .exited .zeroDimensions,
         .entered ⟨0, 2, some 2, none, none, none, false⟩, .emptyTensor, .exited .emptyTensor,
         .entered ⟨0, 1, some 1, none, some 2, some 3, false⟩, .rejected (.missingBuffer .weights),
         .entered ⟨0, 1, some 2, some 3, some 4, some 5, true⟩, .exited (.purified c)] := by
  let o : Observer Float := { sink := .recording }
  let scalar := { Call.bare 0 #[] with intercept := some 3 }
  have converges : ((roomy.purify 2 none).map fun report =>
      report.result.toOption.bind (·.stop?)) = some (some .converged) := by decide +kernel
  obtain ⟨report, c, purified, result, stop⟩ := Call.exists_of_purify converges
  have swept (o : Observer Float) : Handling.answer 2 none roomy o =
      some (.ok (.purified c), ⟨o.tell report.events, report.outputs⟩) := by
    rw [(log_of_calls o).1, purified, ← result]
    rfl
  have answered := fun call o => Handling.answer_eq (α := Float) 0 none call o
  have heard : o.Hears [(scalar, .ok .zeroDimensions), (.bare 2 #[2, 0], .ok .emptyTensor),
      (unweighted, .error (.missingBuffer .weights)), (roomy, .ok (.purified c))] _ :=
    .cons (answered scalar o) (.cons (answered (.bare 2 #[2, 0]) _)
      (.cons (answered unweighted _) (.cons (swept _) (.nil _))))
  exact ⟨_, c, heard, stop, (log_of_calls o).2 _ _ rfl heard⟩

end Observer

end Purification
