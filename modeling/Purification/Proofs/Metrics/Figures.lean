import Mathlib.Algebra.BigOperators.Group.List.Basic
import Mathlib.Algebra.GroupWithZero.Nat
import Purification.Metrics.Counters
import Purification.Proofs.Call.Table

/-! # Figures

Eleven figures are kept of the calls that were answered. How much one result adds to each of
them is said here in one place. Results recorded one after the other add the sum of these
amounts, in words of 64 bits, so whatever relates the counters to each other is a matter of
single results.
-/

namespace Purification

variable {α : Type}

def Outcome.passesOf : Except Fault (Outcome α) → Nat
  | .ok outcome => outcome.passes
  | .error _ => 0

def Outcome.stopOf : Except Fault (Outcome α) → Option StopReason
  | .ok outcome => outcome.stop?
  | .error _ => none

def Outcome.sweptOf : Except Fault (Outcome α) → Bool
  | .ok outcome => outcome.swept
  | .error _ => false

theorem Call.passesOf_eq_zero [Scalar α] {call : Call α} {fuel : Nat} {limit : Option Nat}
    {report : Report α} (h : call.purify fuel limit = some report)
    (unswept : Outcome.sweptOf report.result = false) : Outcome.passesOf report.result = 0 := by
  cases result : report.result with
  | error fault => rfl
  | ok outcome =>
      cases outcome with
      | purified c =>
          have stop : c.stop = .zeroWeight := by
            simpa [result, Outcome.sweptOf, Outcome.swept, Outcome.stop?,
              Outcome.convergence?] using unswept
          exact passes_of_zeroWeight h result stop
      | _ => rfl

theorem Call.exists_table_of_swept [Scalar α] {call : Call α} {fuel : Nat} {limit : Option Nat}
    {report : Report α} (h : call.purify fuel limit = some report)
    (swept : Outcome.sweptOf report.result = true) :
    ∃ shape weights field, call.admission = .ok (.table shape weights field) := by
  cases result : report.result with
  | error fault => simp [result, Outcome.sweptOf] at swept
  | ok outcome =>
      cases outcome with
      | purified c =>
          obtain ⟨shape, weights, field, admitted, -⟩ := run_of_purified h result
          exact ⟨shape, weights, field, admitted⟩
      | _ => simp [result, Outcome.sweptOf, Outcome.swept, Outcome.stop?,
          Outcome.convergence?] at swept

/-- What is recorded of a call: its result, and the number of cells it declared. -/
structure Entry (α : Type) where
  result : Except Fault (Outcome α)
  cells : Nat

/-- An entry is of a refused call, of a table with nothing in it, or of a sweep. -/
@[elab_as_elim] theorem Entry.cases_result {p : Entry α → Prop}
    (refused : ∀ fault cells, p ⟨.error fault, cells⟩)
    (zeroDimensions : ∀ cells, p ⟨.ok .zeroDimensions, cells⟩)
    (emptyTensor : ∀ cells, p ⟨.ok .emptyTensor, cells⟩)
    (purified : ∀ convergence cells, p ⟨.ok (.purified convergence), cells⟩) (e : Entry α) :
    p e := by
  rcases e with ⟨fault | outcome, cells⟩
  · exact refused fault cells
  · cases outcome with
    | zeroDimensions => exact zeroDimensions cells
    | emptyTensor => exact emptyTensor cells
    | purified convergence => exact purified convergence cells

/-- Nothing was handed to a sweep: the table has no dimensions, or no cells. -/
def Entry.bare (e : Entry α) : Bool :=
  match e.result with
  | .ok .zeroDimensions | .ok .emptyTensor => true
  | _ => false

inductive Figure where
  | calls
  /-- The calls that ended with a status. -/
  | status (ended : Status)
  | noOps
  /-- The sweeps that stopped for a reason. -/
  | stop (reason : StopReason)
  | passes
  | cells
  deriving Repr, DecidableEq

namespace Figure

/-- How much an entry adds to a figure. -/
def amount : Figure → Entry α → Nat
  | .calls, _ => 1
  | .status ended, e => if Status.ofResult e.result = ended then 1 else 0
  | .noOps, ⟨.ok outcome, _⟩ => if outcome.isNoOp then 1 else 0
  | .noOps, ⟨.error _, _⟩ => 0
  | .stop reason, e => if Outcome.stopOf e.result = some reason then 1 else 0
  | .passes, e => Outcome.passesOf e.result
  | .cells, e => if Outcome.sweptOf e.result then e.cells else 0

theorem amount_le (figure : Figure) (e : Entry α) :
    figure.amount e ≤ 1 + Outcome.passesOf e.result + e.cells := by
  rcases e with ⟨result, declared⟩
  cases figure with
  | calls | passes =>
      simp only [amount]
      omega
  | noOps =>
      cases result with
      | error fault => exact Nat.zero_le _
      | ok outcome =>
          simp only [amount]
          split <;> omega
  | _ =>
      simp only [amount]
      split <;> omega

def total (figure : Figure) (entries : List (Entry α)) : Nat := (entries.map figure.amount).sum

@[simp] theorem total_nil (figure : Figure) : figure.total ([] : List (Entry α)) = 0 := rfl

@[simp] theorem total_cons (figure : Figure) (e : Entry α) (entries : List (Entry α)) :
    figure.total (e :: entries) = figure.amount e + figure.total entries := rfl

@[simp] theorem total_append (figure : Figure) (entries entries' : List (Entry α)) :
    figure.total (entries ++ entries') = figure.total entries + figure.total entries' := by
  simp [total]

end Figure

namespace Counters

def get (c : Counters) : Figure → UInt64
  | .calls => c.calls
  | .status .success => c.successes
  | .status .invalidArgument => c.invalidArguments
  | .status .resourceExhausted => c.resourcesExhausted
  | .noOps => c.noOps
  | .stop .converged => c.converged
  | .stop .plateau => c.plateaus
  | .stop .passLimit => c.passLimits
  | .stop .zeroWeight => c.zeroWeights
  | .passes => c.passes
  | .cells => c.cellsPurified

@[simp] theorem get_zero (figure : Figure) : ({} : Counters).get figure = 0 := by
  cases figure with
  | status ended => cases ended <;> rfl
  | stop reason => cases reason <;> rfl
  | _ => rfl

/-! ## One result -/

theorem get_countCall (c : Counters) (figure : Figure) :
    { c with calls := c.calls + 1 }.get figure =
      c.get figure + .ofNat (if figure = .calls then 1 else 0) := by
  cases figure with
  | status ended => cases ended <;> simp [get]
  | stop reason => cases reason <;> simp [get]
  | _ => simp [get]

theorem get_countStatus (c : Counters) (status : Status) (figure : Figure) :
    (c.countStatus status).get figure =
      c.get figure + .ofNat (if figure = .status status then 1 else 0) := by
  cases figure with
  | status ended => cases ended <;> cases status <;> simp [countStatus, get]
  | stop reason => cases reason <;> cases status <;> simp [countStatus, get]
  | _ => cases status <;> simp [countStatus, get]

theorem get_countNoOp (c : Counters) (idle : Bool) (figure : Figure) :
    (if idle then { c with noOps := c.noOps + 1 } else c).get figure =
      c.get figure + .ofNat (if figure = .noOps ∧ idle then 1 else 0) := by
  cases idle with
  | false => simp
  | true =>
      cases figure with
      | status ended => cases ended <;> simp [get]
      | stop reason => cases reason <;> simp [get]
      | _ => simp [get]

theorem get_countStop (c : Counters) (stop : StopReason) (figure : Figure) :
    (c.countStop stop).get figure =
      c.get figure + .ofNat (if figure = .stop stop then 1 else 0) := by
  cases figure with
  | status ended => cases ended <;> cases stop <;> simp [countStop, get]
  | stop reason => cases reason <;> cases stop <;> simp [countStop, get]
  | _ => cases stop <;> simp [countStop, get]

theorem get_countSweep (c : Counters) (convergence : Convergence α) (declared : Nat)
    (figure : Figure) :
    (c.countSweep convergence declared).get figure = c.get figure + .ofNat (match figure with
      | .stop reason => if convergence.stop = reason then 1 else 0
      | .passes => convergence.passes
      | .cells => if convergence.stop = .zeroWeight then 0 else declared
      | _ => 0) := by
  have stopped := c.get_countStop convergence.stop figure
  cases figure with
  | status ended => cases ended <;> simpa [countSweep, get] using stopped
  | stop reason => cases reason <;> simpa [countSweep, get, eq_comm] using stopped
  | passes => simpa [countSweep, get] using stopped
  | cells =>
      simp only [countSweep, get]
      split <;> simpa [get] using stopped
  | _ => simpa [countSweep, get] using stopped

theorem get_record (c : Counters) (e : Entry α) (figure : Figure) :
    (c.record e.result e.cells).get figure = c.get figure + .ofNat (figure.amount e) := by
  cases e using Entry.cases_result with
  | refused fault declared =>
      simp only [record, get_countStatus, get_countCall]
      cases figure <;> simp [Figure.amount, Outcome.stopOf, Outcome.passesOf, Outcome.sweptOf,
        @eq_comm Status]
  | purified convergence declared =>
      simp only [record, Outcome.convergence?, get_countSweep, get_countNoOp, get_countStatus,
        get_countCall]
      cases figure <;> simp [Figure.amount, Outcome.stopOf, Outcome.stop?, Outcome.convergence?,
        Outcome.passesOf, Outcome.passes, Outcome.sweptOf, Outcome.swept, Status.ofResult,
        @eq_comm Status]
  | _ =>
      simp only [record, Outcome.convergence?, get_countNoOp, get_countStatus, get_countCall]
      cases figure <;> simp [Figure.amount, Outcome.stopOf, Outcome.stop?, Outcome.convergence?,
        Outcome.passesOf, Outcome.passes, Outcome.sweptOf, Outcome.swept, Status.ofResult,
        @eq_comm Status]

/-! ## One result after the other -/

def recordAll (c : Counters) (entries : List (Entry α)) : Counters :=
  entries.foldl (fun c e => c.record e.result e.cells) c

theorem get_recordAll (c : Counters) (entries : List (Entry α)) (figure : Figure) :
    (c.recordAll entries).get figure = c.get figure + .ofNat (figure.total entries) := by
  induction entries generalizing c with
  | nil => simp [recordAll]
  | cons e entries ih =>
      change ((c.record e.result e.cells).recordAll entries).get figure = _
      rw [ih, get_record, Figure.total_cons, UInt64.ofNat_add, UInt64.add_assoc]

end Counters

end Purification
