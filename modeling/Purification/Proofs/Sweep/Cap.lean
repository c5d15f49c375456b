import Purification.Proofs.Sweep.Opening

/-! # What a cap on passes does

The cap is only asked about when the stop rule gives no other reason, and nothing else in a run
depends on it. So a run with a cap makes the passes of the run without one. It ends as that run
does if that is in time, and otherwise it is cut off at the cap; a cap of 0 leaves one pass.
-/

namespace Purification

namespace Sweep

variable {α : Type} [Scalar α]

theorem stop?_some (m : Nat) (previous : Option α) (passes : Nat) (t : Tally α) :
    stop? (some m) previous passes t =
      (stop? none previous passes t).or (if m ≤ passes then some .passLimit else none) := by
  unfold stop?
  grind

namespace Setting

variable {g : Setting α} {field : Field α}

def capped (g : Setting α) (limit : Option Nat) : Setting α := { g with limit }

theorem after_capped (limit : Option Nat) (n : Nat) :
    (g.capped limit).after field n = g.after field n := by
  induction n with
  | zero => rfl
  | succ n ih => exact congrArg (fun f => (f.pass g.weights g.threshold g.lines).1) ih

theorem tally_capped (limit : Option Nat) (n : Nat) :
    (g.capped limit).tally field n = g.tally field n := by
  rw [tally, after_capped]
  rfl

theorem ending_capped (limit : Option Nat) (n : Nat) (stop : StopReason) :
    (g.capped limit).ending field n stop = g.ending field n stop := by
  rw [ending, tally_capped]
  rfl

theorem decision_capped (uncapped : g.limit = none) (m n : Nat) :
    (g.capped (some m)).decision field n =
      (g.decision field n).or (if m ≤ n + 1 then some .passLimit else none) := by
  have previous : (g.capped (some m)).previous field n = g.previous field n := by
    cases n with
    | zero => rfl
    | succ n => rw [Setting.previous, Setting.previous, tally_capped]
  rw [decision, decision, tally_capped, previous, uncapped]
  exact stop?_some m _ _ _

theorem StopsAt.unique {n n' : Nat} {stop stop' : StopReason} (h : g.StopsAt field n stop)
    (h' : g.StopsAt field n' stop') : n = n' ∧ stop = stop' := by
  rcases Nat.lt_trichotomy n n' with before | rfl | after
  · cases (h'.goesOn n before).symm.trans h.stops
  · exact ⟨rfl, Option.some.inj (h.stops.symm.trans h'.stops)⟩
  · cases (h.goesOn n' after).symm.trans h'.stops

theorem StopsAt.capped (uncapped : g.limit = none) {m n : Nat} {stop : StopReason}
    (h : g.StopsAt field n stop) (inTime : n + 1 ≤ max m 1) :
    (g.capped (some m)).StopsAt field n stop where
  goesOn k less := by
    have early : ¬ m ≤ k + 1 := by omega
    rw [decision_capped uncapped, h.goesOn k less, if_neg early]
    rfl
  stops := by
    rw [decision_capped uncapped, h.stops]
    rfl

theorem stopsAt_passLimit (uncapped : g.limit = none) {m : Nat}
    (goesOn : ∀ k < max m 1, g.decision field k = none) :
    (g.capped (some m)).StopsAt field (max m 1 - 1) .passLimit where
  goesOn k less := by
    have early : ¬ m ≤ k + 1 := by omega
    rw [decision_capped uncapped, goesOn k (by omega), if_neg early]
    rfl
  stops := by
    have due : m ≤ max m 1 - 1 + 1 := by omega
    rw [decision_capped uncapped, goesOn _ (by omega), if_pos due]
    rfl

theorem StopsAt.ne_passLimit (uncapped : g.limit = none) {n : Nat} {stop : StopReason}
    (h : g.StopsAt field n stop) : stop ≠ .passLimit := by
  rcases h.plateau_or_converged uncapped with rfl | rfl
  · exact nofun
  · exact nofun

end Setting

variable {shape : Shape} {tolerance : α} {limit : Option Nat} {weights : Array α}
  {field : Field α} {intercept : Option α} {n n' : Nat} {result result' : Result α}

theorem Swept.passes_eq (h : Swept shape tolerance limit weights field intercept n result) :
    result.convergence.passes = n + 1 := by
  rw [h.convergence_eq]
  rfl

theorem Swept.unique (h : Swept shape tolerance limit weights field intercept n result)
    (h' : Swept shape tolerance limit weights field intercept n' result') : result = result' := by
  obtain ⟨rfl, stop⟩ := h.stopsAt.unique h'.stopsAt
  have convergence := h.convergence_eq
  rw [stop, ← h'.convergence_eq] at convergence
  have last := h.field_eq.trans h'.field_eq.symm
  have mean := h.intercept_eq.trans h'.intercept_eq.symm
  cases result
  cases result'
  cases convergence
  cases last
  cases mean
  rfl

/-! ## Runs with a cap and without -/

/-- With enough fuel a run of this table ends with this result. -/
def Returns (shape : Shape) (tolerance : α) (limit : Option Nat) (weights : Array α)
    (field : Field α) (intercept : Option α) (result : Result α) : Prop :=
  ∃ fuel, run fuel shape tolerance limit weights field intercept = some result

/-- What a run without a cap has come to after pass `n + 1`, if it is cut off there. -/
def cut (shape : Shape) (tolerance : α) (weights : Array α) (field : Field α)
    (intercept : Option α) (n : Nat) : Result α :=
  let g := shape.setting tolerance none weights field.scores
  let start := field.opening shape weights intercept
  { convergence := g.ending start n .passLimit
    field := g.after start (n + 1)
    intercept := intercept.map fun _ => (shape.totals weights field.scores).mean }

theorem returns_iff_of_isZero
    (weightless : Scalar.isZero (shape.totals weights field.scores).weight = true) :
    Returns shape tolerance limit weights field intercept result ↔
      result = { convergence := ⟨.zeroWeight, 0, 0, 0⟩, field, intercept } := by
  constructor
  · rintro ⟨fuel, ran⟩
    rw [run_of_isZero fuel weightless] at ran
    exact (Option.some.inj ran).symm
  · rintro rfl
    exact ⟨0, run_of_isZero 0 weightless⟩

section

variable (weighty : Scalar.isZero (shape.totals weights field.scores).weight = false)

include weighty

theorem returns_iff_swept :
    Returns shape tolerance limit weights field intercept result ↔
      ∃ n, Swept shape tolerance limit weights field intercept n result := by
  constructor
  · rintro ⟨fuel, ran⟩
    obtain ⟨n, -, swept⟩ := (run_eq_some_iff weighty).1 ran
    exact ⟨n, swept⟩
  · rintro ⟨n, swept⟩
    exact ⟨n + 1, (run_eq_some_iff weighty).2 ⟨n, Nat.lt_succ_self n, swept⟩⟩

theorem returns_of_stopsAt {stop : StopReason}
    (h : (shape.setting tolerance limit weights field.scores).StopsAt
      (field.opening shape weights intercept) n stop) :
    ∃ result, Returns shape tolerance limit weights field intercept result ∧
      result.convergence.passes = n + 1 :=
  ⟨_, (returns_iff_swept weighty).2 ⟨n, swept_of_stopsAt weighty h⟩, rfl⟩

theorem Swept.capped {m : Nat} (h : Swept shape tolerance none weights field intercept n result)
    (inTime : n + 1 ≤ max m 1) :
    Swept shape tolerance (some m) weights field intercept n result where
  weighty := weighty
  stopsAt := h.stopsAt.capped rfl inTime
  convergence_eq := h.convergence_eq.trans (Setting.ending_capped (some m) n _).symm
  field_eq := h.field_eq.trans (Setting.after_capped (some m) (n + 1)).symm
  intercept_eq := h.intercept_eq

theorem swept_cut {m : Nat}
    (late : ∀ result, Returns shape tolerance none weights field intercept result →
      max m 1 < result.convergence.passes) :
    Swept shape tolerance (some m) weights field intercept (max m 1 - 1)
      (cut shape tolerance weights field intercept (max m 1 - 1)) where
  weighty := weighty
  stopsAt := by
    refine Setting.stopsAt_passLimit (g := shape.setting tolerance none weights field.scores) rfl
      fun k less => ?_
    -- a reason to stop by then would end the run without a cap too, and in time
    by_contra decided
    obtain ⟨j, before, stop, stopsAt⟩ := exists_stopsAt decided
    obtain ⟨result, returns, passes⟩ := returns_of_stopsAt weighty stopsAt
    have ended := late result returns
    omega
  convergence_eq := (Setting.ending_capped (some m) _ _).symm
  field_eq := (Setting.after_capped (some m) _).symm
  intercept_eq := rfl

/-- The run with a cap comes to an end, which is that of the run without one or the cut. -/
theorem exists_swept_capped (tolerance : α) (intercept : Option α) (m : Nat) :
    ∃ n result, Swept shape tolerance (some m) weights field intercept n result ∧
      n + 1 ≤ max m 1 ∧ (result.convergence.stop = .passLimit → n + 1 = max m 1) := by
  by_cases inTime : ∃ result, Returns shape tolerance none weights field intercept result ∧
      result.convergence.passes ≤ max m 1
  · obtain ⟨result, returns, passes⟩ := inTime
    obtain ⟨n, swept⟩ := (returns_iff_swept weighty).1 returns
    rw [swept.passes_eq] at passes
    refine ⟨n, result, swept.capped weighty passes, passes, fun limited => ?_⟩
    exact absurd limited (swept.stopsAt.ne_passLimit rfl)
  · have late : ∀ result, Returns shape tolerance none weights field intercept result →
        max m 1 < result.convergence.passes := fun result returns =>
      Nat.lt_of_not_le fun passes => inTime ⟨result, returns, passes⟩
    exact ⟨max m 1 - 1, _, swept_cut weighty late, by omega, fun _ => by omega⟩

end

theorem Returns.unique (h : Returns shape tolerance limit weights field intercept result)
    (h' : Returns shape tolerance limit weights field intercept result') : result = result' := by
  cases weighty : Scalar.isZero (shape.totals weights field.scores).weight with
  | true =>
      rw [returns_iff_of_isZero weighty] at h h'
      rw [h, h']
  | false =>
      obtain ⟨n, swept⟩ := (returns_iff_swept weighty).1 h
      obtain ⟨n', swept'⟩ := (returns_iff_swept weighty).1 h'
      exact swept.unique swept'

/-- A run with a cap ends as the run without one does if that takes no more passes than the cap
    allows, and else it is cut off there. So it always ends; it has made a pass unless the table
    has no weight, and no more than the cap allows. -/
theorem cap_truncates (shape : Shape) (tolerance : α) (weights : Array α) (field : Field α)
    (intercept : Option α) (m : Nat) :
    (∀ result, Returns shape tolerance none weights field intercept result →
      result.convergence.passes ≤ max m 1 →
      Returns shape tolerance (some m) weights field intercept result) ∧
    ((∀ result, Returns shape tolerance none weights field intercept result →
        max m 1 < result.convergence.passes) →
      Returns shape tolerance (some m) weights field intercept
        (cut shape tolerance weights field intercept (max m 1 - 1))) ∧
    (∃! result, Returns shape tolerance (some m) weights field intercept result) ∧
    ∀ result, Returns shape tolerance (some m) weights field intercept result →
      (Scalar.isZero (shape.totals weights field.scores).weight = true ∧
          result.convergence.stop = .zeroWeight ∧ result.convergence.passes = 0 ∨
        1 ≤ result.convergence.passes ∧ result.convergence.passes ≤ max m 1) ∧
      (result.convergence.stop = .passLimit → result.convergence.passes = max m 1) := by
  cases weighty : Scalar.isZero (shape.totals weights field.scores).weight with
  | true =>
      simp only [returns_iff_of_isZero weighty]
      refine ⟨fun result same _ => same, fun late => ?_, ⟨_, rfl, fun _ same => same⟩, ?_⟩
      · exact absurd (late _ rfl) (Nat.not_lt_zero _)
      · rintro result rfl
        exact ⟨.inl ⟨trivial, rfl, rfl⟩, nofun⟩
  | false =>
      obtain ⟨n, result, swept, within, limited⟩ :=
        exists_swept_capped weighty tolerance intercept m
      have returns : Returns shape tolerance (some m) weights field intercept result :=
        (returns_iff_swept weighty).2 ⟨n, swept⟩
      refine ⟨fun result returns inTime => ?_, fun late => ?_,
        ⟨result, returns, fun _ returns' => returns'.unique returns⟩, ?_⟩
      · obtain ⟨n, swept⟩ := (returns_iff_swept weighty).1 returns
        exact (returns_iff_swept weighty).2 ⟨n, swept.capped weighty (swept.passes_eq ▸ inTime)⟩
      · exact (returns_iff_swept weighty).2 ⟨_, swept_cut weighty late⟩
      · intro result' returns'
        obtain rfl := returns'.unique returns
        rw [swept.passes_eq]
        exact ⟨.inr ⟨Nat.succ_pos n, within⟩, limited⟩

/-! ## A table of one cell -/

end Sweep

def Shape.single : Shape := ⟨[1], Shape.representable_of_fault?_eq_none (by decide)⟩

namespace Sweep

/-- A run of two passes under a cap that it meets, and cut off after the first by a cap of 0. -/
theorem cap_truncates_single :
    (∃ result, Returns .single (0 : Float) none #[2] ⟨#[3], #[7]⟩ none result ∧
      result.convergence.stop = .converged ∧ result.convergence.passes = 2 ∧
      Returns .single (0 : Float) (some 2) #[2] ⟨#[3], #[7]⟩ none result) ∧
    Returns .single (0 : Float) (some 0) #[2] ⟨#[3], #[7]⟩ none
      (cut .single 0 #[2] ⟨#[3], #[7]⟩ none 0) := by
  have ran : (run 2 .single (0 : Float) none #[2] ⟨#[3], #[7]⟩ none).map (fun result =>
      (result.convergence.stop, result.convergence.passes)) = some (.converged, 2) := by
    decide +kernel
  obtain ⟨result, ran, ended⟩ := Option.map_eq_some_iff.1 ran
  obtain ⟨stop, passes⟩ := Prod.mk.inj ended
  have returns : Returns .single (0 : Float) none #[2] ⟨#[3], #[7]⟩ none result := ⟨2, ran⟩
  refine ⟨⟨result, returns, stop, passes, ?_⟩, ?_⟩
  · exact (cap_truncates .single (0 : Float) #[2] ⟨#[3], #[7]⟩ none 2).1 result returns (by omega)
  · apply (cap_truncates .single (0 : Float) #[2] ⟨#[3], #[7]⟩ none 0).2.1
    intro result' returns'
    obtain rfl := returns'.unique returns
    omega

/-- A run with a cap need not have made a pass. -/
theorem not_forall_pass_made :
    ¬ ∀ (shape : Shape) (tolerance : Float) (weights : Array Float) (field : Field Float)
        (intercept : Option Float) (m : Nat) (result : Result Float),
      Returns shape tolerance (some m) weights field intercept result →
        1 ≤ result.convergence.passes ∧ result.convergence.passes ≤ max m 1 := by
  intro made
  have weightless : Scalar.isZero (Shape.single.totals (#[0] : Array Float) #[1]).weight =
      true := by decide +kernel
  have returns : Returns .single (0 : Float) (some 1) #[0] ⟨#[1], #[0]⟩ none
      { convergence := ⟨.zeroWeight, 0, 0, 0⟩, field := ⟨#[1], #[0]⟩, intercept := none } :=
    (returns_iff_of_isZero weightless).2 rfl
  exact absurd (made _ _ _ _ _ _ _ returns).1 (by decide)

end Sweep

end Purification
