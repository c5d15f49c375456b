import Purification.Document
import Purification.Proofs.Call.Decomposition
import Purification.Proofs.Double.Order
import Purification.Proofs.Session.Request
import Purification.Proofs.Sweep.Lost

/-! # When a document is answered

Over doubles a run without a cap stops unless its summed impurity is lost to NaN while a
line stays above the threshold. As long as they are numbers the summed impurities fall from
pass to pass, and doubles cannot fall for ever; but what is lost is not compared, and the
run goes on for as long as some line, which the lost ones need never touch, does.
-/

namespace Purification

theorem Double.inherits : Scalar.Inherits Float.isNaN Double.Plus where
  add := Double.isNaN_add
  sub := Double.isNaN_sub
  mul := Double.isNaN_mul
  div := Double.isNaN_div
  abs := Double.isNaN_abs
  not_lost := Double.Plus.isNaN
  zero := Double.plus_zero
  magnitude := Double.plus_abs
  sum := Double.Plus.add

namespace Sweep.Setting

/-- Every pass leaves a line above the threshold. The summed impurity is not infinite at
    first, it falls over the first `n` passes, and from then on it is NaN. -/
structure Endless (g : Setting Float) (field : Field Float) : Prop where
  retries : ∀ n, (g.tally field n).retry = true
  begins : Scalar.isTop (g.tally field 0).impurity = false
  lost : ∃ n, (∀ m, m + 1 < n →
      (g.tally field (m + 1)).impurity < (g.tally field m).impurity) ∧
    ∀ m, n ≤ m → (g.tally field m).impurity.isNaN = true

variable {s : Shape} {g : Setting Float} {field : Field Float}

theorem stalled_succ {n : Nat} : g.stalled field (n + 1) = false ↔
    ¬ (g.tally field n).impurity ≤ (g.tally field (n + 1)).impurity := decide_eq_false_iff_not

/-- A pass that does not stop the run has lowered the summed impurity, or lost it. -/
theorem falls_or_isNaN (covers : field.Covers s)
    (within : ∀ numbered ∈ g.lines, numbered ∈ s.lines) {n : Nat}
    (goesOn : g.stalled field (n + 1) = false) :
    (g.tally field (n + 1)).impurity < (g.tally field n).impurity ∨
      (g.tally field (n + 1)).impurity.isNaN = true := by
  cases after : (g.tally field (n + 1)).impurity.isNaN with
  | true => exact .inr rfl
  | false =>
      have before : (g.tally field n).impurity.isNaN = false := by
        by_contra lost
        rw [Bool.not_eq_false] at lost
        cases (Double.inherits.tally_succ covers within lost).symm.trans after
      exact .inl (Double.lt_of_not_le_of_isNaN before after (stalled_succ.1 goesOn))

theorem endless_iff (covers : field.Covers s)
    (within : ∀ numbered ∈ g.lines, numbered ∈ s.lines) (uncapped : g.limit = none) :
    (∀ n, g.decision field n = none) ↔ g.Endless field := by
  constructor
  · intro goesOn
    have undecided := fun n => (decision_eq_none_iff uncapped).1 (goesOn n)
    refine ⟨fun n => (undecided n).1, (undecided 0).2, ?_⟩
    have falls := fun n => falls_or_isNaN covers within (undecided (n + 1)).2
    -- While the sums are numbers they fall, and they cannot do so for ever.
    have lost : ∃ n, (g.tally field n).impurity.isNaN = true := by
      obtain ⟨m, -, stays⟩ := Double.exists_not_lt (fun n => (g.tally field n).impurity) 0
      exact ⟨m + 1, (falls m).resolve_left stays⟩
    refine ⟨Nat.find lost, fun m less => (falls m).resolve_right (Nat.find_min lost less), ?_⟩
    intro m late
    induction late with
    | refl => exact Nat.find_spec lost
    | step _ ih => exact Double.inherits.tally_succ covers within ih
  · rintro ⟨retries, begins, n, falls, lost⟩ m
    refine (decision_eq_none_iff uncapped).2 ⟨retries m, ?_⟩
    cases m with
    | zero => exact begins
    | succ m =>
        rw [stalled_succ]
        by_cases early : m + 1 < n
        · exact Double.not_le_of_lt (falls m early)
        · exact Double.not_le_of_isNaN (.inr (lost (m + 1) (by omega)))

end Sweep.Setting

/-- The call that decomposes the table of a document. -/
def TableDocument.call? (x : TableDocument) (config : Config Float) : Except Fault (Call Float) :=
  Decomposition.callOf config x.lengths x.usedWeights.toArray x.scores.toArray

/-- The table of a document is swept without end. -/
def TableDocument.Endless (x : TableDocument) (config : Config Float) : Prop :=
  ∃ call shape weights field, x.call? config = .ok call ∧
    call.admission = .ok (.table shape weights field) ∧
    Scalar.isZero (shape.totals weights field.scores).weight = false ∧
    (shape.setting call.tolerance none weights field.scores).Endless
      (field.opening shape weights (call.intercept.map fun _ => 0))

theorem Session.exists_run_iff {s : Session Float} (uncapped : s.config.maxPasses = none)
    (x : TableDocument) :
    (∃ fuel answer, s.run fuel x = some answer) ↔ ¬ x.Endless s.config := by
  have decomposed : (∃ fuel answer, s.run fuel x = some answer) ↔
      ∃ fuel answer, s.decompose fuel x.lengths x.usedWeights.toArray x.scores.toArray =
        some answer := by
    constructor
    · rintro ⟨fuel, answer, answered⟩
      obtain ⟨decomposition, decomposed, -⟩ := Option.map_eq_some_iff.1 answered
      exact ⟨fuel, decomposition, decomposed⟩
    · rintro ⟨fuel, decomposition, decomposed⟩
      exact ⟨fuel, _, Option.map_eq_some_iff.2 ⟨decomposition, decomposed, rfl⟩⟩
  rw [decomposed, Session.exists_decompose_iff, uncapped]
  constructor
  · rintro answers ⟨call, shape, weights, field, called, admitted, weighty, endless⟩
    have covers := (Call.admits_of_admission admitted).covers
    obtain ⟨n, decided⟩ :=
      Call.exists_purify_iff.1 (answers call called) shape weights field admitted weighty
    exact decided ((Sweep.Setting.endless_iff (covers.opening _ _) (fun _ member => member)
      rfl).2 endless n)
  · intro ends call called
    refine Call.exists_purify_iff.2 fun shape weights field admitted weighty => ?_
    have covers := (Call.admits_of_admission admitted).covers
    by_contra undecided
    refine ends ⟨call, shape, weights, field, called, admitted, weighty,
      (Sweep.Setting.endless_iff (covers.opening _ _) (fun _ member => member) rfl).1 fun n => ?_⟩
    exact not_not.1 fun decided => undecided ⟨n, decided⟩

/-- Under a configuration without a cap a document is answered exactly if its table is not
    swept without end, which takes a summed impurity that is NaN. Until then each pass that
    does not stop the sweep lowers the summed impurity. -/
theorem run_answers_iff {s : Session Float} (uncapped : s.config.maxPasses = none)
    (x : TableDocument) :
    ((∃ fuel answer, s.run fuel x = some answer) ↔ ¬ x.Endless s.config) ∧
    ∀ call shape weights field, x.call? s.config = .ok call →
      call.admission = .ok (.table shape weights field) →
      let g := shape.setting call.tolerance none weights field.scores
      let start := field.opening shape weights (call.intercept.map fun _ => 0)
      ∀ n, g.decision start (n + 1) = none →
        (g.tally start (n + 1)).impurity < (g.tally start n).impurity ∨
          (g.tally start (n + 1)).impurity.isNaN = true := by
  refine ⟨Session.exists_run_iff uncapped x, ?_⟩
  intro call shape weights field _ admitted g start n goesOn
  have covers := (Call.admits_of_admission admitted).covers
  exact Sweep.Setting.falls_or_isNaN (covers.opening _ _) (fun _ member => member)
    ((Sweep.Setting.decision_eq_none_iff rfl).1 goesOn).2

/-! ## A document without an answer

Two scores near the top of the range cancel out in the intercept and on their line. What is
left of them overflows at a cell without weight, its line turns to NaN, and the sums of all
passes with it. Far from there a single weighted cell holds the least double, whose product
with its weight is rounded so that centring the cell only flips its sign.
-/

/-- The doubles with these bits. -/
def Double.ofWords (words : List UInt64) : List Float := words.map .ofBits

/-- The text of a document with finite scores and weights that are not negative. -/
def TableDocument.swingingText : String :=
  "\x7b\"lengths\":[3,2,2],\"weights\":[1,1,0,0,0,0,0,0,0,0,0,0.625]," ++
    "\"scores\":[8e307,-8e307,0,-1.7e308,0,0,0,0,0,0,0,5e-324]\x7d"

def TableDocument.swinging : TableDocument :=
  { lengths := [3, 2, 2]
    weights := some <| Double.ofWords
      [0x3ff0000000000000, 0x3ff0000000000000, 0, 0, 0, 0, 0, 0, 0, 0, 0, 0x3fe4000000000000]
    scores := Double.ofWords
      [0x7fdc7b1f3cac7433, 0xffdc7b1f3cac7433, 0, 0xffee42d130773b76, 0, 0, 0, 0, 0, 0, 0, 1] }

theorem TableDocument.load_swingingText : load swingingText = .ok swinging := by
  have read : (load swingingText).toOption.map (fun x => (x.lengths, x.weights, x.scores)) =
      some (swinging.lengths, swinging.weights, swinging.scores) := by decide +kernel
  cases loaded : load swingingText with
  | error failure =>
      rw [loaded] at read
      cases read
  | ok x =>
      rw [loaded] at read
      exact congrArg (fun parts : List Nat × Option (List Float) × List Float =>
        (.ok ⟨parts.1, parts.2.1, parts.2.2⟩ : Except Failure TableDocument)) (Option.some.inj read)

def Shape.swinging : Shape := ⟨[3, 2, 2], Shape.representable_of_fault?_eq_none (by decide)⟩

namespace Swinging

def weights : Array Float := TableDocument.swinging.usedWeights.toArray

def setting : Sweep.Setting Float :=
  Shape.swinging.setting 0 none weights TableDocument.swinging.scores.toArray

def start : Field Float :=
  Field.opening ⟨TableDocument.swinging.scores.toArray, Array.replicate 16 0⟩ .swinging weights
    (some 0)

/-- The field after the third pass, to which every second pass from there on returns. -/
def settled : Field Float :=
  { scores := (Double.ofWords
      [0x7ff8000000000000, 0x7ff8000000000000, 0x7ff8000000000000, 0x7ff8000000000000,
        0x7ff8000000000000, 0x8000000000000002, 0x7ff8000000000000, 0x7ff8000000000000, 2,
        0x8000000000000002, 0x8000000000000002, 0x8000000000000001]).toArray
    impurities := (Double.ofWords
      [0x7ff8000000000000, 0, 0, 2, 0x7ff8000000000000, 0x7ff8000000000000, 0, 0, 0,
        0x8000000000000002, 0x7ff8000000000000, 0x7ff8000000000000, 0, 0, 0, 2]).toArray }

theorem begins : Scalar.isTop (setting.tally start 0).impurity = false ∧
    (setting.tally start 1).impurity.isNaN = true ∧
    ∀ n < 3, (setting.tally start n).retry = true := by
  decide +kernel

theorem after_three : setting.after start 3 = settled := by
  have same : (setting.after start 3).scores = settled.scores ∧
      (setting.after start 3).impurities = settled.impurities := by decide +kernel
  exact Field.eq_of_parts same.1 same.2

theorem settled_retries : ∀ n < 2, (setting.tally settled n).retry = true := by
  decide +kernel

theorem settled_back : setting.after settled 2 = settled := by
  have same : (setting.after settled 2).scores = settled.scores ∧
      (setting.after settled 2).impurities = settled.impurities := by decide +kernel
  exact Field.eq_of_parts same.1 same.2

theorem retries (n : Nat) : (setting.tally start n).retry = true := by
  by_cases early : n < 3
  · exact begins.2.2 n early
  · obtain ⟨m, rfl⟩ := Nat.exists_eq_add_of_le (Nat.le_of_not_lt early)
    rw [Sweep.Setting.tally_add, after_three]
    exact Sweep.Setting.forall_tally_of_after_eq (P := (·.retry = true)) Nat.two_pos settled_back
      settled_retries m

theorem covers : start.Covers .swinging := by
  refine Field.Covers.opening ⟨?_, ?_⟩ _ _
  · decide +kernel
  · decide +kernel

theorem endless : setting.Endless start where
  retries := retries
  begins := begins.1
  lost := by
    refine ⟨1, fun m early => by omega, fun m late => ?_⟩
    induction late with
    | refl => exact begins.2.1
    | step _ ih => exact Double.inherits.tally_succ covers (fun _ member => member) ih

end Swinging

theorem TableDocument.endless_swinging : TableDocument.swinging.Endless .standard := by
  refine ⟨_, .swinging, Swinging.weights, _, rfl, rfl, ?_, Swinging.endless⟩
  decide +kernel

/-- Under the standard settings a line of two cells is answered, and so is not swept without
    end; the document above is, and has no answer, as its second pass does not stop. -/
theorem run_answers_iff_standard :
    ∃ s : Session Float, Session.start .standard .silent = .ok s ∧ s.config.maxPasses = none ∧
      ¬ TableDocument.Endless ⟨[2], none, [1, 3]⟩ s.config ∧
      (¬ ∃ fuel answer, s.run fuel .swinging = some answer) ∧
      ((Swinging.setting.tally Swinging.start 1).impurity <
          (Swinging.setting.tally Swinging.start 0).impurity ∨
        (Swinging.setting.tally Swinging.start 1).impurity.isNaN = true) := by
  refine ⟨_, Session.start_standard .silent, rfl, ?_, ?_, ?_⟩
  · have answered : (Session.run 2 { config := .standard, observer := { sink := .silent } }
        ⟨[2], none, [1, 3]⟩).isSome = true := by decide +kernel
    obtain ⟨answer, answered⟩ := Option.isSome_iff_exists.1 answered
    exact (run_answers_iff rfl _).1.1 ⟨2, answer, answered⟩
  · intro answers
    exact (run_answers_iff rfl _).1.1 answers TableDocument.endless_swinging
  · have goesOn : Swinging.setting.decision Swinging.start 1 = none :=
      (Sweep.Setting.endless_iff Swinging.covers (fun _ member => member) rfl).2
        Swinging.endless 1
    exact (run_answers_iff (s := { config := .standard, observer := { sink := .silent } }) rfl
      .swinging).2 _ .swinging Swinging.weights _ rfl rfl 0 goesOn

/-- Not every document with finite scores and weights that are not negative is answered, whether
    it is read from a text or handed in as it is. -/
theorem not_forall_run_answers :
    (¬ ∀ (text : String) (x : TableDocument) (config : Config Float) (sink : Sink)
        (s : Session Float), TableDocument.load text = .ok x →
      (∀ score ∈ x.scores, score.isFinite = true) →
      (∀ weight ∈ x.usedWeights, weight.isFinite = true ∧ 0 ≤ weight) →
      Session.start config sink = .ok s → config.maxPasses = none →
      ∃ fuel answer, s.run fuel x = some answer) ∧
    ¬ ∀ (x : TableDocument) (config : Config Float) (sink : Sink) (s : Session Float),
      (∀ score ∈ x.scores, score.isFinite = true) →
      (∀ weight ∈ x.usedWeights, weight.isFinite = true ∧ 0 ≤ weight) →
      Session.start config sink = .ok s → config.maxPasses = none →
      ∃ fuel answer, s.run fuel x = some answer := by
  have scores : ∀ score ∈ TableDocument.swinging.scores, score.isFinite = true := by
    decide +kernel
  have weights : ∀ weight ∈ TableDocument.swinging.usedWeights,
      weight.isFinite = true ∧ 0 ≤ weight := by decide +kernel
  have started := Session.start_standard .silent
  have unanswered : ¬ ∃ fuel answer, Session.run fuel
      { config := .standard, observer := { sink := .silent } } .swinging = some answer :=
    fun answered => (Session.exists_run_iff rfl .swinging).1 answered TableDocument.endless_swinging
  constructor
  · intro answers
    exact unanswered (answers _ .swinging .standard .silent _ TableDocument.load_swingingText
      scores weights started rfl)
  · intro answers
    exact unanswered (answers .swinging .standard .silent _ scores weights started rfl)

end Purification
