import Purification.Proofs.Metrics.Figures

/-! # Conservation of the counters

The status of a result, whether it is a no-op, and the reason for which its sweep stopped are
three ways to sort results. They fit together: a call has one status, a success is a no-op or a
sweep that did something, and a no-op is a sweep without weight or a table that is bare. So do
the counters, however often they wrap around and are set back.
-/

namespace Purification

variable {α : Type}

namespace Figure

theorem amount_calls (e : Entry α) :
    calls.amount e = (status .success).amount e + (status .invalidArgument).amount e +
      (status .resourceExhausted).amount e := by
  cases ended : Status.ofResult e.result <;> simp [amount, ended]

theorem amount_success (e : Entry α) :
    (status .success).amount e = noOps.amount e + (stop .converged).amount e +
      (stop .plateau).amount e + (stop .passLimit).amount e := by
  cases e using Entry.cases_result with
  | refused fault => cases fault <;> rfl
  | purified convergence =>
      rcases convergence with ⟨reason, passes, threshold, finalImpurity⟩
      cases reason <;> rfl
  | _ => rfl

theorem amount_noOps (e : Entry α) :
    noOps.amount e = (stop .zeroWeight).amount e + if e.bare then 1 else 0 := by
  cases e using Entry.cases_result with
  | refused fault => rfl
  | purified convergence =>
      rcases convergence with ⟨reason, passes, threshold, finalImpurity⟩
      cases reason <;> rfl
  | _ => rfl

theorem amount_sweeps (e : Entry α) :
    (if Outcome.sweptOf e.result then 1 else 0) = (stop .converged).amount e +
      (stop .plateau).amount e + (stop .passLimit).amount e := by
  cases e using Entry.cases_result with
  | refused fault => rfl
  | purified convergence =>
      rcases convergence with ⟨reason, passes, threshold, finalImpurity⟩
      cases reason <;> rfl
  | _ => rfl

theorem total_calls (entries : List (Entry α)) :
    calls.total entries = (status .success).total entries +
      (status .invalidArgument).total entries + (status .resourceExhausted).total entries := by
  simp only [total, funext amount_calls, List.sum_map_add]

theorem total_success (entries : List (Entry α)) :
    (status .success).total entries = noOps.total entries + (stop .converged).total entries +
      (stop .plateau).total entries + (stop .passLimit).total entries := by
  simp only [total, funext amount_success, List.sum_map_add]

theorem total_noOps (entries : List (Entry α)) :
    noOps.total entries = (stop .zeroWeight).total entries + entries.countP (·.bare) := by
  induction entries with
  | nil => rfl
  | cons e entries ih =>
      rw [total_cons, total_cons, amount_noOps, ih, List.countP_cons]
      omega

theorem total_sweeps (entries : List (Entry α)) :
    (entries.countP fun e => Outcome.sweptOf e.result) = (stop .converged).total entries +
      (stop .plateau).total entries + (stop .passLimit).total entries := by
  induction entries with
  | nil => rfl
  | cons e entries ih =>
      rw [List.countP_cons, ih, amount_sweeps]
      simp only [total_cons]
      omega

end Figure

namespace Counters

inductive Step (α : Type) where
  | record (e : Entry α)
  | reset

def step (c : Counters) : Step α → Counters
  | .record e => c.record e.result e.cells
  | .reset => c.reset

namespace Step

/-- The entries recorded since the last reset, when one more step has been taken. -/
def keep (recent : List (Entry α)) : Step α → List (Entry α)
  | .record e => recent ++ [e]
  | .reset => []

/-- The entries recorded since the last reset. -/
def recent (steps : List (Step α)) : List (Entry α) := steps.foldl keep []

end Step

theorem recordAll_keep (recent : List (Entry α)) (s : Step α) :
    (({} : Counters).recordAll recent).step s = ({} : Counters).recordAll (s.keep recent) := by
  cases s with
  | record e => simp [step, Step.keep, recordAll]
  | reset => rfl

/-- Counters hold no more than what was recorded since the last reset. -/
theorem foldl_step (steps : List (Step α)) (recent : List (Entry α)) :
    steps.foldl step (({} : Counters).recordAll recent) =
      ({} : Counters).recordAll (steps.foldl Step.keep recent) := by
  induction steps generalizing recent with
  | nil => rfl
  | cons s steps ih => rw [List.foldl_cons, List.foldl_cons, recordAll_keep, ih]

/-- After any steps, modulo 2^64: calls are divided by their status, successes into no-ops and
    sweeps that did something, and the no-ops that are not for want of weight are the tables
    that were bare. Each counter stands for what was recorded since the last reset. -/
theorem steps_conserve (steps : List (Step α)) :
    let c := steps.foldl step ({} : Counters)
    c.calls = c.successes + c.invalidArguments + c.resourcesExhausted ∧
    c.successes = c.noOps + c.converged + c.plateaus + c.passLimits ∧
    c.noOps - c.zeroWeights = .ofNat ((Step.recent steps).countP (·.bare)) ∧
    ∀ figure, c.get figure = .ofNat (figure.total (Step.recent steps)) := by
  intro c
  have each (figure : Figure) : c.get figure = .ofNat (figure.total (Step.recent steps)) := by
    have kept : c = ({} : Counters).recordAll (Step.recent steps) := foldl_step steps []
    rw [kept, get_recordAll, get_zero, UInt64.zero_add]
  refine ⟨?_, ?_, ?_, each⟩
  · change c.get .calls = c.get (.status .success) + c.get (.status .invalidArgument) +
      c.get (.status .resourceExhausted)
    simp only [each, Figure.total_calls, UInt64.ofNat_add]
  · change c.get (.status .success) = c.get .noOps + c.get (.stop .converged) +
      c.get (.stop .plateau) + c.get (.stop .passLimit)
    simp only [each, Figure.total_success, UInt64.ofNat_add]
  · change c.get .noOps - c.get (.stop .zeroWeight) = _
    rw [each, each, Figure.total_noOps, UInt64.ofNat_add, UInt64.add_comm, UInt64.add_sub_cancel]

end Counters

end Purification
