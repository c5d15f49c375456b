import Purification.Proofs.Sweep.Opening

/-! # Runs in parallel

Two runs of one shape are parallel if a pass of one and a pass of the other keep their fields in
some relation and meet the same tally, up to a change of numbers that no test of the stop rule
notices. Parallel runs stop after the same pass for the same reason, or neither does. If both
pass through the same lines it is enough that each line keeps the relation.
-/

namespace Purification

theorem rel_map {α β γ δ : Type} {r : α → β → Prop} {r' : γ → δ → Prop} {f : α → γ} {g : β → δ}
    {x : Option α} {y : Option β} (h : Option.Rel r x y) (image : ∀ a b, r a b → r' (f a) (g b)) :
    Option.Rel r' (x.map f) (y.map g) := by
  cases h with
  | none => exact .none
  | some related => exact .some (image _ _ related)

theorem rel_imp {α β : Type} {r r' : α → β → Prop} {x : Option α} {y : Option β}
    (h : Option.Rel r x y) (weaker : ∀ a b, r a b → r' a b) : Option.Rel r' x y := by
  cases h with
  | none => exact .none
  | some related => exact .some (weaker _ _ related)

variable {α : Type}

def Tally.map (change : α → α) (t : Tally α) : Tally α :=
  { t with impurity := change t.impurity }

/-- The end of a run with its threshold and its summed impurity changed. -/
def Convergence.map (change : α → α) (c : Convergence α) : Convergence α :=
  { c with threshold := change c.threshold, finalImpurity := change c.finalImpurity }

@[simp] theorem Convergence.map_id (c : Convergence α) : c.map id = c := rfl

variable [Scalar α]

/-- A change of numbers that the tests of the stop rule do not notice. -/
structure Scalar.Unnoticed (change : α → α) : Prop where
  le : ∀ x y, Scalar.le (change x) (change y) = Scalar.le x y
  isTop : ∀ x, Scalar.isTop (change x) = Scalar.isTop x

theorem Scalar.unnoticed_id : Unnoticed (id : α → α) := ⟨fun _ _ => rfl, fun _ => rfl⟩

/-! ## One pass -/

section

variable {change : α → α} {related : Field α → Field α → Prop} {weights weights' : Array α}
  {threshold threshold' : α} {lines : List (Nat × Line)} {f f' : Field α}

/-- Passes over the same lines keep a relation that centring each of them keeps. -/
theorem Field.pass_parallel (zero : change 0 = 0)
    (step : ∀ f f' slot line, (slot, line) ∈ lines → related f f' →
      related (f.remove slot line (line.mean weights f.scores))
        (f'.remove slot line (line.mean weights' f'.scores)) ∧
      ∀ t : Tally α, (t.map change).note threshold' (line.mean weights' f'.scores) =
        (t.note threshold (line.mean weights f.scores)).map change)
    (start : related f f') :
    related (f.pass weights threshold lines).1 (f'.pass weights' threshold' lines).1 ∧
      (f'.pass weights' threshold' lines).2 = (f.pass weights threshold lines).2.map change := by
  suffices ∀ t : Tally α,
      related (lines.foldl (centre weights threshold) (f, t)).1
        (lines.foldl (centre weights' threshold') (f', t.map change)).1 ∧
      (lines.foldl (centre weights' threshold') (f', t.map change)).2 =
        (lines.foldl (centre weights threshold) (f, t)).2.map change by
    have from_start := this Tally.start
    rwa [Tally.map, show change (Tally.start : Tally α).impurity = 0 from zero] at from_start
  induction lines generalizing f f' with
  | nil => exact fun t => ⟨start, rfl⟩
  | cons numbered lines ih =>
      obtain ⟨slot, line⟩ := numbered
      intro t
      obtain ⟨first, noted⟩ := step f f' slot line List.mem_cons_self start
      simp only [List.foldl_cons, centre, noted]
      exact ih (fun f f' slot line later => step f f' slot line (List.mem_cons_of_mem _ later))
        first _

end

/-! ## A run -/

namespace Sweep

/-- A pass of one setting goes with a pass of the other. -/
structure Setting.Parallel (g g' : Setting α) (change : α → α)
    (related : Field α → Field α → Prop) : Prop where
  limit_eq : g'.limit = g.limit
  threshold_eq : g'.threshold = change g.threshold
  unnoticed : Scalar.Unnoticed change
  pass : ∀ f f', related f f' →
    related (f.pass g.weights g.threshold g.lines).1
      (f'.pass g'.weights g'.threshold g'.lines).1 ∧
    (f'.pass g'.weights g'.threshold g'.lines).2 =
      (f.pass g.weights g.threshold g.lines).2.map change

variable {change : α → α} {related : Field α → Field α → Prop}

theorem stop?_map (unnoticed : Scalar.Unnoticed change) (limit : Option Nat)
    (previous : Option α) (passes : Nat) (t : Tally α) :
    stop? limit (previous.map change) passes (t.map change) = stop? limit previous passes t := by
  cases previous with
  | none =>
      have same := unnoticed.isTop t.impurity
      unfold stop?
      grind [Tally.map]
  | some previous =>
      have same := unnoticed.le previous t.impurity
      unfold stop?
      grind [Tally.map]

theorem loop_parallel {g g' : Setting α} (h : g.Parallel g' change related)
    {field field' : Field α} (start : related field field') (fuel passes : Nat)
    (previous : Option α) :
    Option.Rel (fun ended ended' => ended'.1 = ended.1.map change ∧ related ended.2 ended'.2)
      (loop g fuel passes previous field) (loop g' fuel passes (previous.map change) field') := by
  induction fuel generalizing passes previous field field' with
  | zero => exact .none
  | succ fuel ih =>
      -- the stop rule is asked about tallies that it cannot tell apart
      obtain ⟨after, tally⟩ := h.pass field field' start
      rw [loop, loop]
      dsimp only
      rw [tally, h.limit_eq, stop?_map h.unnoticed]
      split
      · exact .some ⟨by rw [h.threshold_eq]; rfl, after⟩
      · exact ih after _ (some _)

variable {s : Shape} {tolerance : α} {limit : Option Nat} {weights weights' : Array α}
  {field field' : Field α} {intercept : Option α}

/-- Parallel runs of tables with weight, whose intercepts differ by a shift. -/
theorem run_parallel (shift : α → α)
    (weighty : Scalar.isZero (s.totals weights field.scores).weight = false)
    (weighty' : Scalar.isZero (s.totals weights' field'.scores).weight = false)
    (parallel : (s.setting tolerance limit weights field.scores).Parallel
      (s.setting tolerance limit weights' field'.scores) change related)
    (opening : related (field.opening s weights intercept) (field'.opening s weights' intercept))
    (mean : (s.totals weights' field'.scores).mean = shift (s.totals weights field.scores).mean)
    (fuel : Nat) :
    Option.Rel (fun result result' : Result α =>
        result'.convergence = result.convergence.map change ∧
          related result.field result'.field ∧ result'.intercept = result.intercept.map shift)
      (run fuel s tolerance limit weights field intercept)
      (run fuel s tolerance limit weights' field' intercept) := by
  rw [run_of_not_isZero fuel weighty, run_of_not_isZero fuel weighty', mean]
  refine rel_map (loop_parallel parallel opening fuel 0 none) ?_
  rintro ⟨convergence, last⟩ ⟨convergence', last'⟩ ⟨ends, lasts⟩
  refine ⟨ends, lasts, ?_⟩
  rw [Option.map_map]
  rfl

/-- Other weights make no difference to a run if they give each line the same mean, whatever its
    scores are, and the table the same threshold and the same mean. -/
theorem run_eq_of_weights
    (means : ∀ slot line, (slot, line) ∈ s.lines → ∀ scores,
      line.mean weights' scores = line.mean weights scores)
    (isZero : Scalar.isZero (s.totals weights' field.scores).weight =
      Scalar.isZero (s.totals weights field.scores).weight)
    (threshold : (s.totals weights' field.scores).threshold tolerance =
      (s.totals weights field.scores).threshold tolerance)
    (mean : (s.totals weights' field.scores).mean = (s.totals weights field.scores).mean)
    (fuel : Nat) :
    run fuel s tolerance limit weights' field intercept =
      run fuel s tolerance limit weights field intercept := by
  cases weighty : Scalar.isZero (s.totals weights field.scores).weight with
  | true => rw [run_of_isZero fuel weighty, run_of_isZero fuel (isZero.trans weighty)]
  | false =>
      have parallel : (s.setting tolerance limit weights field.scores).Parallel
          (s.setting tolerance limit weights' field.scores) id Eq := by
        refine ⟨rfl, threshold, Scalar.unnoticed_id, ?_⟩
        rintro f _ rfl
        apply Field.pass_parallel rfl
        · rintro f _ slot line member rfl
          simp only [Shape.setting, means slot line member, threshold]
          exact ⟨trivial, fun t => rfl⟩
        · rfl
      have opening : field.opening s weights intercept = field.opening s weights' intercept := by
        simp only [Field.opening, mean]
      have runs := run_parallel id weighty (isZero.trans weighty) parallel opening mean fuel
      generalize run fuel s tolerance limit weights field intercept = first at runs ⊢
      generalize run fuel s tolerance limit weights' field intercept = second at runs ⊢
      cases runs with
      | none => rfl
      | @some result result' same =>
          obtain ⟨convergence, last, taken⟩ := result
          obtain ⟨convergence', last', taken'⟩ := result'
          obtain ⟨rfl, rfl, rfl⟩ := same
          rw [Option.map_id]
          rfl

end Sweep

end Purification
