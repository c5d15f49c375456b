import Mathlib.Order.Nat
import Purification.Proofs.Sweep.Field
import Purification.Sweep.Run

/-! # The passes of a run

Left to itself a sweep goes through one sequence of fields and tallies, whatever its
fuel. A run follows that sequence up to the first pass after which the stop rule gives
a reason, and it has no answer exactly if its fuel ends before.
-/

namespace Purification.Sweep

variable {α : Type} [Scalar α]

namespace Setting

variable (g : Setting α) (field : Field α)

/-- The field after `n` passes. -/
def after : Nat → Field α
  | 0 => field
  | n + 1 => ((after n).pass g.weights g.threshold g.lines).1

/-- What pass `n + 1` meets. -/
def tally (n : Nat) : Tally α := ((g.after field n).pass g.weights g.threshold g.lines).2

/-- What the summed impurity of pass `n + 1` is compared with. -/
def previous : Nat → Option α
  | 0 => none
  | n + 1 => some (g.tally field n).impurity

/-- What the stop rule says after pass `n + 1`. -/
def decision (n : Nat) : Option StopReason :=
  stop? g.limit (g.previous field n) (n + 1) (g.tally field n)

/-- The stop rule gives this reason after pass `n + 1`, and none before it. -/
structure StopsAt (n : Nat) (stop : StopReason) : Prop where
  goesOn : ∀ m < n, g.decision field m = none
  stops : g.decision field n = some stop

/-- How a run ends that stops after pass `n + 1`. -/
def ending (n : Nat) (stop : StopReason) : Convergence α :=
  { stop, passes := n + 1, threshold := g.threshold, finalImpurity := (g.tally field n).impurity }

end Setting

variable {g : Setting α} {field : Field α}

theorem loop_succ (fuel n : Nat) :
    loop g (fuel + 1) n (g.previous field n) (g.after field n) =
      match g.decision field n with
      | some stop => some (g.ending field n stop, g.after field (n + 1))
      | none => loop g fuel (n + 1) (g.previous field (n + 1)) (g.after field (n + 1)) := rfl

/-- A run that is taken up after `n` passes ends at the next pass with a reason to stop. -/
theorem loop_eq_some {fuel n k : Nat} {stop : StopReason} (later : n ≤ k) (enough : k < n + fuel)
    (goesOn : ∀ m, n ≤ m → m < k → g.decision field m = none)
    (stops : g.decision field k = some stop) :
    loop g fuel n (g.previous field n) (g.after field n) =
      some (g.ending field k stop, g.after field (k + 1)) := by
  induction fuel generalizing n with
  | zero => omega
  | succ fuel ih =>
      rw [loop_succ]
      rcases Nat.eq_or_lt_of_le later with rfl | before
      · rw [stops]
      · rw [goesOn n (Nat.le_refl n) before]
        exact ih before (by omega) fun m hm => goesOn m (by omega)

theorem loop_eq_none {fuel n : Nat}
    (goesOn : ∀ m, n ≤ m → m < n + fuel → g.decision field m = none) :
    loop g fuel n (g.previous field n) (g.after field n) = none := by
  induction fuel generalizing n with
  | zero => rfl
  | succ fuel ih =>
      rw [loop_succ, goesOn n (Nat.le_refl n) (by omega)]
      exact ih fun m hm less => goesOn m (by omega) (by omega)

theorem exists_stopsAt {n : Nat} (decided : g.decision field n ≠ none) :
    ∃ k ≤ n, ∃ stop, g.StopsAt field k stop := by
  classical
  have ends : ∃ k, g.decision field k ≠ none := ⟨n, decided⟩
  obtain ⟨stop, stops⟩ := Option.ne_none_iff_exists'.1 (Nat.find_spec ends)
  refine ⟨Nat.find ends, Nat.find_min' ends decided, stop, fun m less => ?_, stops⟩
  exact not_not.1 (Nat.find_min ends less)

theorem loop_eq_some_iff {fuel : Nat} {c : Convergence α} {last : Field α} :
    loop g fuel 0 none field = some (c, last) ↔
      ∃ n < fuel, g.StopsAt field n c.stop ∧ c = g.ending field n c.stop ∧
        last = g.after field (n + 1) := by
  constructor
  · intro h
    by_cases decided : ∃ n < fuel, g.decision field n ≠ none
    · obtain ⟨n, less, decided⟩ := decided
      obtain ⟨k, hk, stop, stopsAt⟩ := exists_stopsAt decided
      have enough : k < fuel := Nat.lt_of_le_of_lt hk less
      have result : loop g fuel 0 none field = _ := loop_eq_some (n := 0) (Nat.zero_le k)
        (by omega) (fun m _ => stopsAt.goesOn m) stopsAt.stops
      rw [h] at result
      cases result
      exact ⟨k, enough, stopsAt, rfl, rfl⟩
    · have result : loop g fuel 0 none field = _ := loop_eq_none (n := 0) fun m _ less =>
        not_not.1 fun undecided => decided ⟨m, by omega, undecided⟩
      rw [h] at result
      cases result
  · rintro ⟨n, less, stopsAt, ends, rfl⟩
    rw [ends]
    exact loop_eq_some (n := 0) (Nat.zero_le n) (by omega) (fun m _ => stopsAt.goesOn m)
      stopsAt.stops

theorem exists_loop_eq_some_iff :
    (∃ fuel result, loop g fuel 0 none field = some result) ↔
      ∃ n, g.decision field n ≠ none := by
  constructor
  · rintro ⟨fuel, ⟨c, last⟩, h⟩
    obtain ⟨n, -, stopsAt, -, -⟩ := loop_eq_some_iff.1 h
    exact ⟨n, by simp [stopsAt.stops]⟩
  · rintro ⟨n, decided⟩
    obtain ⟨k, -, stop, stopsAt⟩ := exists_stopsAt decided
    exact ⟨k + 1, (g.ending field k stop, g.after field (k + 1)),
      loop_eq_some_iff.2 ⟨k, Nat.lt_succ_self k, stopsAt, rfl, rfl⟩⟩

/-- A property that centring a line preserves holds of the field after any number of
    passes. -/
theorem Setting.after_preserves {P : Field α → Prop}
    (step : ∀ f slot line, (slot, line) ∈ g.lines → P f →
      P (f.remove slot line (line.mean g.weights f.scores)))
    (start : P field) (n : Nat) : P (g.after field n) := by
  induction n with
  | zero => exact start
  | succ n ih => exact Field.pass_preserves step ih

@[simp] theorem Setting.size_scores_after (n : Nat) :
    (g.after field n).scores.size = field.scores.size :=
  after_preserves (P := fun f => f.scores.size = field.scores.size)
    (fun f slot _ _ same => (f.size_scores_remove slot _ _).trans same) rfl n

@[simp] theorem Setting.size_impurities_after (n : Nat) :
    (g.after field n).impurities.size = field.impurities.size :=
  after_preserves (P := fun f => f.impurities.size = field.impurities.size)
    (fun f slot _ _ same => (f.size_impurities_remove slot _ _).trans same) rfl n

theorem Setting.covers_after {s : Shape} (covers : field.Covers s) (n : Nat) :
    (g.after field n).Covers s :=
  ⟨by simpa using covers.cells, by simpa using covers.lines⟩

theorem Setting.after_add (n m : Nat) :
    g.after field (n + m) = g.after (g.after field n) m := by
  induction m with
  | zero => rfl
  | succ m ih =>
      show ((g.after field (n + m)).pass g.weights g.threshold g.lines).1 = _
      rw [ih]
      rfl

theorem Setting.tally_add (n m : Nat) :
    g.tally field (n + m) = g.tally (g.after field n) m := by
  rw [tally, after_add]
  rfl

/-- Passes that lead back to the field they began with are made again and again. -/
theorem Setting.forall_tally_of_after_eq {P : Tally α → Prop} {period : Nat} (positive : 0 < period)
    (back : g.after field period = field) (round : ∀ n < period, P (g.tally field n)) (n : Nat) :
    P (g.tally field n) := by
  induction n using Nat.strong_induction_on with
  | _ n ih =>
      by_cases early : n < period
      · exact round n early
      · obtain ⟨m, rfl⟩ := Nat.exists_eq_add_of_le (Nat.le_of_not_lt early)
        rw [tally_add, back]
        exact ih m (Nat.lt_add_of_pos_left positive)

/-! ## What the stop rule says -/

variable {limit : Option Nat} {previous : Option α} {passes : Nat} {t : Tally α}

theorem stop?_converged (h : stop? limit previous passes t = some .converged) :
    t.retry = false := by
  unfold stop? at h
  grind

theorem stop?_of_settled (settled : t.retry = false) :
    stop? limit previous passes t = some .converged := by
  unfold stop?
  grind

theorem stop?_ne_zeroWeight : stop? limit previous passes t ≠ some .zeroWeight := by
  unfold stop?
  grind

/-! ## Without a cap -/

/-- The summed impurity of pass `n + 1` is not below that of the pass before. -/
def Setting.stalled (g : Setting α) (field : Field α) : Nat → Bool
  | 0 => Scalar.isTop (g.tally field 0).impurity
  | n + 1 => Scalar.le (g.tally field n).impurity (g.tally field (n + 1)).impurity

theorem Setting.decision_of_uncapped (uncapped : g.limit = none) (n : Nat) :
    g.decision field n =
      if g.stalled field n then some (if (g.tally field n).retry then .plateau else .converged)
      else if (g.tally field n).retry then none
      else some .converged := by
  cases n with
  | zero =>
      simp only [decision, stop?, Setting.previous, stalled, uncapped]
      cases (g.tally field 0).retry <;> rfl
  | succ n =>
      simp only [decision, stop?, Setting.previous, stalled, uncapped]
      cases (g.tally field (n + 1)).retry <;> rfl

theorem Setting.decision_eq_none_iff (uncapped : g.limit = none) {n : Nat} :
    g.decision field n = none ↔ (g.tally field n).retry = true ∧ g.stalled field n = false := by
  rw [decision_of_uncapped uncapped]
  cases (g.tally field n).retry <;> cases g.stalled field n <;> simp

theorem Setting.decision_eq_plateau_iff (uncapped : g.limit = none) {n : Nat} :
    g.decision field n = some .plateau ↔
      (g.tally field n).retry = true ∧ g.stalled field n = true := by
  rw [decision_of_uncapped uncapped]
  cases (g.tally field n).retry <;> cases g.stalled field n <;> simp

theorem Setting.StopsAt.plateau_or_converged {n : Nat} {stop : StopReason}
    (uncapped : g.limit = none) (h : g.StopsAt field n stop) :
    stop = .plateau ∨ stop = .converged := by
  have stops := h.stops
  rw [decision_of_uncapped uncapped] at stops
  grind

end Purification.Sweep
