import Mathlib.Data.List.Forall2
import Purification.Call.Handling

/-! # What is told of a call

The events of a call form one block: it comes in, there may be a word on why there is nothing
to do, and it is closed with its result. In a sequence of blocks, calls are opened as often as
there are blocks. A call that is handled step by step tells its observer just these events, and
leaves the outputs that its report holds.
-/

namespace Purification

variable {α : Type}

/-! ## Observers -/

@[simp] theorem Observer.sink_tell (observer : Observer α) (events : List (Event α)) :
    (observer.tell events).sink = observer.sink := by
  unfold tell
  split
  · rfl
  · rfl
  · rfl

theorem Observer.events_tell {observer : Observer α} (recording : observer.sink = .recording)
    (events : List (Event α)) : (observer.tell events).events = observer.events ++ events := by
  simp [tell, recording]

theorem Observer.tell_append (observer : Observer α) (events events' : List (Event α)) :
    observer.tell (events ++ events') = (observer.tell events).tell events' := by
  rcases observer with ⟨sink, kept, records⟩
  cases sink <;> simp [tell]

/-! ## The events of a call -/

namespace Event

/-- The word on why there is nothing to do. -/
def notices : Except Fault (Outcome α) → List (Event α)
  | .ok .zeroDimensions => [.zeroDimensions]
  | .ok .emptyTensor => [.emptyTensor]
  | _ => []

/-- An event that neither opens a call nor closes one. -/
inductive Notice : Event α → Prop where
  | zeroDimensions : Notice .zeroDimensions
  | emptyTensor : Notice .emptyTensor

/-- The events of one call: it comes in, something may be told of it, and it is closed with
    this result. -/
inductive Block (result : Except Fault (Outcome α)) : List (Event α) → Prop where
  | intro (call : Call.Summary α) (between : List (Event α)) (quiet : ∀ e ∈ between, e.Notice) :
      Block result (.entered call :: (between ++ [closing result]))

def opens : Event α → Bool
  | .entered _ => true
  | _ => false

theorem notice_of_mem_notices {result : Except Fault (Outcome α)} {e : Event α}
    (h : e ∈ notices result) : e.Notice := by
  match result, h with
  | .ok .zeroDimensions, h => exact List.mem_singleton.1 h ▸ .zeroDimensions
  | .ok .emptyTensor, h => exact List.mem_singleton.1 h ▸ .emptyTensor

theorem opens_closing (result : Except Fault (Outcome α)) : (closing result).opens = false := by
  cases result with
  | error fault => rfl
  | ok outcome => rfl

theorem Notice.opens {e : Event α} (h : e.Notice) : e.opens = false := by
  cases h with
  | zeroDimensions => rfl
  | emptyTensor => rfl

theorem Block.countP_opens {result : Except Fault (Outcome α)} {events : List (Event α)}
    (h : Block result events) : events.countP opens = 1 := by
  obtain ⟨call, between, quiet⟩ := h
  have silent : between.countP opens = 0 :=
    List.countP_eq_zero.2 fun e he => by simp [(quiet e he).opens]
  have first : (Event.entered call).opens = true := rfl
  simp [List.countP_append, silent, first, opens_closing]

theorem countP_flatten {β : Type} {results : List (β × Except Fault (Outcome α))}
    {blocks : List (List (Event α))}
    (h : List.Forall₂ (fun answered events => Block answered.2 events) results blocks) :
    blocks.flatten.countP opens = results.length := by
  induction h with
  | nil => rfl
  | cons block _ ih =>
      rw [List.flatten_cons, List.countP_append, block.countP_opens, ih, List.length_cons]
      omega

end Event

theorem Call.events_eq [Scalar α] {call : Call α} {fuel : Nat} {limit : Option Nat}
    {report : Report α} (h : call.purify fuel limit = some report) :
    report.events = .entered call.summary ::
      (Event.notices report.result ++ [Event.closing report.result]) := by
  unfold purify at h
  split at h
  · cases h
    rfl
  · cases h
    rfl
  · cases h
    rfl
  · obtain ⟨swept, -, told⟩ := Option.bind_eq_some_iff.1 h
    cases told
    rfl

/-! ## A call step by step -/

variable [Scalar α]

@[simp] theorem Report.outputs_idle (call : Call α) (events : List (Event α))
    (result : Except Fault (Outcome α)) : (call.idle events result).outputs = call.cleared := rfl

@[simp] theorem Report.result_idle (call : Call α) (events : List (Event α))
    (result : Except Fault (Outcome α)) : (call.idle events result).result = result := rfl

@[simp] theorem Report.events_idle (call : Call α) (events : List (Event α))
    (result : Except Fault (Outcome α)) :
    (call.idle events result).events = .entered call.summary :: events := rfl

namespace Handling

/-- How a call that asks for this is answered, what is told of it between its coming in and its
    end, and what is written. -/
def follow (fuel : Nat) (limit : Option Nat) (call : Call α) (o : Observer α) :
    Except Fault (Admission α) → Option (Except Fault (Outcome α) × State α)
  | .error fault => some (.error fault, ⟨o, call.cleared⟩)
  | .ok .zeroDimensions => some (.ok .zeroDimensions, ⟨o.tell [.zeroDimensions], call.cleared⟩)
  | .ok .emptyTensor => some (.ok .emptyTensor, ⟨o.tell [.emptyTensor], call.cleared⟩)
  | .ok (.table shape weights field) =>
      (Sweep.run fuel shape call.tolerance limit weights field
        (call.intercept.map fun _ => 0)).map fun swept =>
          (.ok (.purified swept.convergence),
            ⟨o, ⟨some swept.field.scores, some swept.field.impurities, swept.intercept⟩⟩)

variable {fuel : Nat} {limit : Option Nat} {call : Call α} {o : Observer α}

theorem run_check {β : Type} {result : Except Fault β} {next : β → Handling α (Outcome α)}
    {asked : β → Except Fault (Admission α)}
    (h : ∀ value, (next value).run.run ⟨o, call.cleared⟩ =
      follow fuel limit call o (asked value)) :
    (check result >>= next).run.run ⟨o, call.cleared⟩ =
      follow fuel limit call o (result >>= asked) := by
  cases result with
  | error fault => rfl
  | ok value => exact h value

theorem run_sweep (shape : Shape) (weights : Array α) (field : Field α) :
    (sweep fuel limit call.tolerance shape weights field
        (call.intercept.map fun _ => 0)).run.run ⟨o, call.cleared⟩ =
      follow fuel limit call o (.ok (.table shape weights field)) := by
  unfold sweep follow
  dsimp only
  cases Sweep.run fuel shape call.tolerance limit weights field
      (call.intercept.map fun _ => 0) with
  | none => rfl
  | some swept => rfl

theorem validate_eq (fuel : Nat) (limit : Option Nat) (call : Call α) (o : Observer α) :
    (validate fuel limit call).run.run ⟨o, call.outputs⟩ =
      follow fuel limit call o call.admission := by
  unfold Call.admission
  by_cases zero : call.dimensionCount = 0
  · simp only [validate, if_pos zero]
    rfl
  by_cases negative : call.dimensionCount < 0
  · simp only [validate, if_neg zero, if_pos negative]
    rfl
  by_cases high : (Shape.maxRank : Int) < call.dimensionCount
  · simp only [validate, if_neg zero, if_neg negative, if_pos high]
    rfl
  simp only [validate, if_neg zero, if_neg negative, if_neg high]
  refine run_check fun lengths => run_check fun made => ?_
  cases made with
  | none => rfl
  | some shape =>
      exact run_check fun weights => run_check fun scores => run_check fun impurities =>
        run_sweep shape weights { scores, impurities }

/-- A call is answered as its report says, the observer hears the events of the report, and the
    outputs hold what the report holds. -/
theorem answer_eq (fuel : Nat) (limit : Option Nat) (call : Call α) (o : Observer α) :
    answer fuel limit call o = (call.purify fuel limit).map fun report =>
      (report.result, ⟨o.tell report.events, report.outputs⟩) := by
  unfold answer Call.purify
  dsimp only
  rw [validate_eq]
  cases call.admission with
  | error fault => simp [follow, Event.closing, ← Observer.tell_append]
  | ok admission =>
      cases admission with
      | zeroDimensions => simp [follow, Event.closing, ← Observer.tell_append]
      | emptyTensor => simp [follow, Event.closing, ← Observer.tell_append]
      | table shape weights field =>
          dsimp only [follow]
          cases Sweep.run fuel shape call.tolerance limit weights field
            (call.intercept.map fun _ => 0) with
          | none => rfl
          | some swept => simp [Event.closing, Report.outputs, ← Observer.tell_append]

end Handling

end Purification
