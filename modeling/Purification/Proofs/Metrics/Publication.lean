import Mathlib.Data.List.Induction
import Purification.Metrics.Collectors
import Purification.Proofs.Metrics.Conservation

/-! # What is published

The published figures are kept apart from the counters: under label texts, by instruments of
another make, and as doubles. As long as every total is below 2^53 nothing is rounded and nothing
wraps around, and both accounts of the same results agree, whatever lawful instruments are used.
-/

namespace Purification

variable {α : Type} {i : Instruments}

/-! ## The laws of counting

A published figure is a double, so it is bound to these laws only below 2^53.
-/

/-- The laws of counting: an instrument keeps its name, a value that was never counted reads 0,
    one more adds 1 under its own label only, and an observed value adds 1 to the count and
    itself to the sum. -/
structure Instruments.Lawful (i : Instruments) : Prop where
  name_counter : ∀ name help label, i.counterName (i.counter name help label) = name
  name_increment : ∀ c value, i.counterName (i.increment c value) = i.counterName c
  name_histogram : ∀ name help factor n, i.histogramName (i.histogram name help factor n) = name
  name_observe : ∀ h value, i.histogramName (i.observe h value) = i.histogramName h
  read_counter : ∀ name help label value, i.read (i.counter name help label) value = 0
  read_increment : ∀ c value, i.read c value + 1 < 2 ^ 53 →
    i.read (i.increment c value) value = i.read c value + 1
  read_increment_of_ne : ∀ c value other, value ≠ other →
    i.read (i.increment c value) other = i.read c other
  count_histogram : ∀ name help factor n, i.count (i.histogram name help factor n) = 0
  sum_histogram : ∀ name help factor n, i.sum (i.histogram name help factor n) = 0
  count_observe : ∀ h value, i.count h + 1 < 2 ^ 53 →
    i.count (i.observe h value) = i.count h + 1
  sum_observe : ∀ h value, i.sum h + value < 2 ^ 53 →
    i.sum (i.observe h value) = i.sum h + value

/-! ## Plain instruments -/

theorem roundToDouble_of_lt {n : Nat} (h : n < 2 ^ 53) : roundToDouble n = n := by
  have low : Nat.log2 n - 52 = 0 := by
    by_cases zero : n = 0
    · rw [zero]
      rfl
    · have bits : Nat.log2 n < 53 := (Nat.log2_lt zero).2 h
      omega
  simp [roundToDouble, low, Nat.mod_one]

namespace LabelCounts

theorem lookup_addTo (counted value : String) (entries : List (String × Nat)) :
    ((addTo counted entries).lookup value).getD 0 =
      if counted = value then
        ((entries.lookup value).map fun n => roundToDouble (n + 1)).getD 1
      else (entries.lookup value).getD 0 := by
  induction entries with
  | nil =>
      by_cases asked : counted = value
      · simp [addTo, asked]
      · simp [addTo, List.lookup_cons, asked, beq_eq_false_iff_ne.2 (Ne.symm asked)]
  | cons entry entries ih =>
      obtain ⟨held, n⟩ := entry
      by_cases same : held = counted
      · by_cases asked : counted = value
        · simp [addTo, same, asked]
        · simp [addTo, same, asked, List.lookup_cons, beq_eq_false_iff_ne.2 (Ne.symm asked)]
      · by_cases asked : held = value
        · have other : counted ≠ value := fun eq => same (asked.trans eq.symm)
          rw [addTo, if_neg same]
          simp [asked, other]
        · rw [addTo, if_neg same, List.lookup_cons, List.lookup_cons,
            beq_eq_false_iff_ne.2 (Ne.symm asked)]
          exact ih

end LabelCounts

theorem Instruments.plain_lawful : Instruments.plain.Lawful where
  name_counter _ _ _ := rfl
  name_increment _ _ := rfl
  name_histogram _ _ _ _ := rfl
  name_observe _ _ := rfl
  read_counter _ _ _ _ := rfl
  read_increment c value fits := by
    have added := LabelCounts.lookup_addTo value value c.entries
    rw [if_pos rfl] at added
    refine added.trans ?_
    cases held : c.entries.lookup value with
    | none => simp [plain, LabelCounts.get, held]
    | some n =>
        simp only [plain, LabelCounts.get, held, Option.getD_some] at fits
        simp [plain, LabelCounts.get, held, roundToDouble_of_lt fits]
  read_increment_of_ne c value other distinct := by
    have added := LabelCounts.lookup_addTo value other c.entries
    rwa [if_neg distinct] at added
  count_histogram _ _ _ _ := rfl
  sum_histogram _ _ _ _ := rfl
  count_observe _ _ _ := rfl
  sum_observe _ _ fits := roundToDouble_of_lt fits

/-! ## One result -/

@[simp] theorem Status.label_inj {s t : Status} : s.label = t.label ↔ s = t := by
  cases s <;> cases t <;> simp [label]

@[simp] theorem StopReason.label_inj {s t : StopReason} : s.label = t.label ↔ s = t := by
  cases s <;> cases t <;> simp [label]

theorem Instruments.Lawful.read_increment_of_lt (lawful : i.Lawful) {c : i.Counter}
    {counted asked : String}
    (fits : i.read c asked + (if counted = asked then 1 else 0) < 2 ^ 53) :
    i.read (i.increment c counted) asked =
      i.read c asked + if counted = asked then 1 else 0 := by
  by_cases same : counted = asked
  · subst same
    rw [if_pos rfl] at fits ⊢
    exact lawful.read_increment c counted fits
  · rw [if_neg same]
    exact lawful.read_increment_of_ne c counted asked same

namespace Collectors

theorem record_eq (c : Collectors i) (e : Entry α) :
    c.record e.result e.cells =
      { calls := i.increment c.calls (Status.ofResult e.result).label
        stops := (Outcome.stopOf e.result).elim c.stops fun stop => i.increment c.stops stop.label
        passes := if Outcome.sweptOf e.result then
            i.observe c.passes (roundToDouble (Outcome.passesOf e.result))
          else c.passes
        cells := if Outcome.sweptOf e.result then i.observe c.cells (roundToDouble e.cells)
          else c.cells } := by
  cases e using Entry.cases_result with
  | purified convergence declared =>
      by_cases weightless : convergence.stop = .zeroWeight <;>
        simp [record, Except.toOption, Outcome.convergence?, Outcome.stopOf, Outcome.stop?,
          Outcome.sweptOf, Outcome.swept, Outcome.passesOf, Outcome.passes, weightless]
  | _ => rfl

/-- The collectors go by the names under which the figures are published. -/
structure Named (c : Collectors i) : Prop where
  calls : i.counterName c.calls = "purify_calls_total"
  stops : i.counterName c.stops = "purify_stops_total"
  passes : i.histogramName c.passes = "purify_passes"
  cells : i.histogramName c.cells = "purify_cells"

theorem Named.record (lawful : i.Lawful) {c : Collectors i} (h : c.Named) (e : Entry α) :
    (c.record e.result e.cells).Named := by
  rw [record_eq]
  constructor
  · exact (lawful.name_increment _ _).trans h.calls
  · cases Outcome.stopOf e.result with
    | none => exact h.stops
    | some stop => exact (lawful.name_increment _ _).trans h.stops
  · cases Outcome.sweptOf e.result with
    | false => exact h.passes
    | true => exact (lawful.name_observe _ _).trans h.passes
  · cases Outcome.sweptOf e.result with
    | false => exact h.cells
    | true => exact (lawful.name_observe _ _).trans h.cells

/-- The collectors hold the figures of these entries. -/
structure Publishes (c : Collectors i) (entries : List (Entry α)) : Prop where
  calls : ∀ ended : Status, i.read c.calls ended.label = (Figure.status ended).total entries
  stops : ∀ reason : StopReason, i.read c.stops reason.label = (Figure.stop reason).total entries
  passesCount : i.count c.passes = entries.countP fun e => Outcome.sweptOf e.result
  cellsCount : i.count c.cells = entries.countP fun e => Outcome.sweptOf e.result
  passesSum : i.sum c.passes = Figure.passes.total entries
  cellsSum : i.sum c.cells = Figure.cells.total entries

theorem Publishes.record (lawful : i.Lawful) {c : Collectors i} {entries : List (Entry α)}
    {e : Entry α} (h : c.Publishes entries)
    (idle : Outcome.sweptOf e.result = false → Outcome.passesOf e.result = 0)
    (moderate : ∀ figure : Figure, figure.total (entries ++ [e]) < 2 ^ 53) :
    (c.record e.result e.cells).Publishes (entries ++ [e]) := by
  have grown (figure : Figure) : figure.total entries + figure.amount e < 2 ^ 53 := by
    simpa using moderate figure
  have passes_lt := grown .passes
  have cells_lt := grown .cells
  have sweeps_lt : (entries.countP fun e => Outcome.sweptOf e.result) + 1 < 2 ^ 53 := by
    have calls_lt := grown .calls
    rw [Figure.total_calls, Figure.total_success, Figure.amount] at calls_lt
    rw [Figure.total_sweeps]
    omega
  have calls (ended : Status) :
      i.read (i.increment c.calls (Status.ofResult e.result).label) ended.label =
        (Figure.status ended).total (entries ++ [e]) := by
    have fits : i.read c.calls ended.label +
        (if (Status.ofResult e.result).label = ended.label then 1 else 0) < 2 ^ 53 := by
      simpa [h.calls, Figure.amount] using grown (.status ended)
    simp [lawful.read_increment_of_lt fits, h.calls, Figure.amount]
  have stops (reason : StopReason) :
      i.read ((Outcome.stopOf e.result).elim c.stops fun stop => i.increment c.stops stop.label)
        reason.label = (Figure.stop reason).total (entries ++ [e]) := by
    cases stop : Outcome.stopOf e.result with
    | none => simp [h.stops, Figure.amount, stop]
    | some stopped =>
        have fits : i.read c.stops reason.label +
            (if stopped.label = reason.label then 1 else 0) < 2 ^ 53 := by
          simpa [h.stops, Figure.amount, stop] using grown (.stop reason)
        simp [lawful.read_increment_of_lt fits, h.stops, Figure.amount, stop]
  rw [record_eq]
  cases swept : Outcome.sweptOf e.result with
  | false =>
      exact
        { calls, stops
          passesCount := by simp [swept, h.passesCount]
          cellsCount := by simp [swept, h.cellsCount]
          passesSum := by simp [h.passesSum, Figure.amount, idle swept]
          cellsSum := by simp [h.cellsSum, Figure.amount, swept] }
  | true =>
      simp only [Figure.amount, swept, if_true] at passes_lt cells_lt
      have passes_eq := roundToDouble_of_lt (Nat.lt_of_le_of_lt (Nat.le_add_left _ _) passes_lt)
      have cells_eq := roundToDouble_of_lt (Nat.lt_of_le_of_lt (Nat.le_add_left _ _) cells_lt)
      rw [← h.passesSum] at passes_lt
      rw [← h.cellsSum] at cells_lt
      exact
        { calls, stops
          passesCount := by
            rw [← h.passesCount] at sweeps_lt
            simp [swept, lawful.count_observe _ _ sweeps_lt, h.passesCount]
          cellsCount := by
            rw [← h.cellsCount] at sweeps_lt
            simp [swept, lawful.count_observe _ _ sweeps_lt, h.cellsCount]
          passesSum := by
            simp [passes_eq, lawful.sum_observe _ _ passes_lt, h.passesSum, Figure.amount]
          cellsSum := by
            simp [cells_eq, lawful.sum_observe _ _ cells_lt, h.cellsSum, Figure.amount, swept] }

/-! ## One result after the other -/

def recordAll (c : Collectors i) (entries : List (Entry α)) : Collectors i :=
  entries.foldl (fun c e => c.record e.result e.cells) c

theorem named_recordAll (lawful : i.Lawful) (entries : List (Entry α)) :
    (({} : Collectors i).recordAll entries).Named := by
  induction entries using List.reverseRecOn with
  | nil =>
      exact
        { calls := lawful.name_counter _ _ _
          stops := lawful.name_counter _ _ _
          passes := lawful.name_histogram _ _ _ _
          cells := lawful.name_histogram _ _ _ _ }
  | append_singleton entries e ih =>
      rw [recordAll, List.foldl_append]
      exact ih.record lawful e

theorem publishes_recordAll (lawful : i.Lawful) {entries : List (Entry α)}
    (idle : ∀ e ∈ entries, Outcome.sweptOf e.result = false → Outcome.passesOf e.result = 0)
    (moderate : ∀ figure : Figure, figure.total entries < 2 ^ 53) :
    (({} : Collectors i).recordAll entries).Publishes entries := by
  induction entries using List.reverseRecOn with
  | nil =>
      exact
        { calls := fun _ => lawful.read_counter _ _ _ _
          stops := fun _ => lawful.read_counter _ _ _ _
          passesCount := lawful.count_histogram _ _ _ _
          cellsCount := lawful.count_histogram _ _ _ _
          passesSum := lawful.sum_histogram _ _ _ _
          cellsSum := lawful.sum_histogram _ _ _ _ }
  | append_singleton entries e ih =>
      have before : (({} : Collectors i).recordAll entries).Publishes entries := by
        refine ih (fun e member => idle e (List.mem_append_left _ member)) fun figure => ?_
        have := moderate figure
        rw [Figure.total_append] at this
        omega
      rw [recordAll, List.foldl_append]
      exact before.record lawful (idle e (by simp)) moderate

/-- Collectors and counters tell the same of calls, sweeps, passes and cells. The families are
    found by their names, and calls and stops in them by their labels. -/
structure Matches (c : Collectors i) (counters : Counters) : Prop where
  names : c.Named
  success : i.read c.calls "success" = counters.successes.toNat
  invalidArgument : i.read c.calls "invalid_argument" = counters.invalidArguments.toNat
  resourceExhausted : i.read c.calls "resource_exhausted" = counters.resourcesExhausted.toNat
  converged : i.read c.stops "converged" = counters.converged.toNat
  plateau : i.read c.stops "plateau" = counters.plateaus.toNat
  passLimit : i.read c.stops "pass_limit" = counters.passLimits.toNat
  zeroWeight : i.read c.stops "zero_weight" = counters.zeroWeights.toNat
  passesCount : i.count c.passes =
    counters.converged.toNat + counters.plateaus.toNat + counters.passLimits.toNat
  cellsCount : i.count c.cells =
    counters.converged.toNat + counters.plateaus.toNat + counters.passLimits.toNat
  passesSum : i.sum c.passes = counters.passes.toNat
  cellsSum : i.sum c.cells = counters.cellsPurified.toNat

end Collectors

/-- The result is one that some call was answered with. -/
def Entry.Answered [Scalar α] (e : Entry α) : Prop :=
  ∃ (fuel : Nat) (limit : Option Nat) (call : Call α) (report : Report α),
    call.purify fuel limit = some report ∧ report.result = e.result

/-- Whatever calls were answered, and with however many cells they are recorded: while every
    total is below 2^53, collectors and counters that start from nothing tell the same, with
    any instruments that obey the laws of counting. -/
theorem recorders_agree [Scalar α] (lawful : i.Lawful) {entries : List (Entry α)}
    (answered : ∀ e ∈ entries, e.Answered)
    (moderate : ∀ figure : Figure, figure.total entries < 2 ^ 53) :
    (({} : Collectors i).recordAll entries).Matches (({} : Counters).recordAll entries) := by
  have published : (({} : Collectors i).recordAll entries).Publishes entries := by
    refine Collectors.publishes_recordAll lawful (fun e member unswept => ?_) moderate
    obtain ⟨fuel, limit, call, report, purified, same⟩ := answered e member
    rw [← same] at unswept ⊢
    exact Call.passesOf_eq_zero purified unswept
  have counted (figure : Figure) :
      figure.total entries = ((({} : Counters).recordAll entries).get figure).toNat := by
    have small := moderate figure
    rw [Counters.get_recordAll, Counters.get_zero, UInt64.zero_add, UInt64.toNat_ofNat']
    omega
  have sweeps : (entries.countP fun e => Outcome.sweptOf e.result) =
      (({} : Counters).recordAll entries).converged.toNat +
        (({} : Counters).recordAll entries).plateaus.toNat +
        (({} : Counters).recordAll entries).passLimits.toNat := by
    rw [Figure.total_sweeps, counted, counted, counted]
    rfl
  exact
    { names := Collectors.named_recordAll lawful entries
      success := (published.calls .success).trans (counted _)
      invalidArgument := (published.calls .invalidArgument).trans (counted _)
      resourceExhausted := (published.calls .resourceExhausted).trans (counted _)
      converged := (published.stops .converged).trans (counted _)
      plateau := (published.stops .plateau).trans (counted _)
      passLimit := (published.stops .passLimit).trans (counted _)
      zeroWeight := (published.stops .zeroWeight).trans (counted _)
      passesCount := published.passesCount.trans sweeps
      cellsCount := published.cellsCount.trans sweeps
      passesSum := published.passesSum.trans (counted .passes)
      cellsSum := published.cellsSum.trans (counted .cells) }

/-- A table of one cell with this weight. -/
def Call.lone (weight : Float) : Call Float :=
  { tolerance := 0, dimensionCount := 1, lengths := some #[1], weights := some #[weight],
    scores := some #[3], impurities := some #[0], intercept := none }

/-- A refused call, and two calls of one cell. -/
def Entry.mixed (weightless swept : Report Float) : List (Entry Float) :=
  [⟨.error (.negativeDimensionCount (-4)), 0⟩, ⟨weightless.result, 1⟩, ⟨swept.result, 1⟩]

/-- A rank below zero is refused, a table without weight is left alone, and one with weight
    converges in its second pass. -/
theorem recorders_agree_mixed :
    ∃ weightless swept : Report Float,
      (Call.lone 0).purify 0 none = some weightless ∧ (Call.lone 1).purify 2 none = some swept ∧
      Outcome.stopOf weightless.result = some .zeroWeight ∧
      Outcome.stopOf swept.result = some .converged ∧
      (∀ e ∈ Entry.mixed weightless swept, e.Answered) ∧
      (∀ figure : Figure, figure.total (Entry.mixed weightless swept) < 2 ^ 53) ∧
      Instruments.plain.Lawful ∧
      (({} : Collectors .plain).recordAll (Entry.mixed weightless swept)).Matches
        (({} : Counters).recordAll (Entry.mixed weightless swept)) := by
  have idle : (((Call.lone 0).purify 0 none).map fun report =>
      (Outcome.stopOf report.result, Outcome.passesOf report.result)) =
        some (some .zeroWeight, 0) := by decide +kernel
  have converges : (((Call.lone 1).purify 2 none).map fun report =>
      (Outcome.stopOf report.result, Outcome.passesOf report.result)) =
        some (some .converged, 2) := by decide +kernel
  obtain ⟨weightless, unmoved, told⟩ := Option.map_eq_some_iff.1 idle
  obtain ⟨swept, purified, told'⟩ := Option.map_eq_some_iff.1 converges
  obtain ⟨stop, passes⟩ := Prod.mk.inj told
  obtain ⟨stop', passes'⟩ := Prod.mk.inj told'
  have answered : ∀ e ∈ Entry.mixed weightless swept, e.Answered := by
    simp only [Entry.mixed, List.forall_mem_cons, List.not_mem_nil, false_implies, implies_true,
      and_true]
    exact ⟨⟨0, none, { Call.lone 1 with dimensionCount := -4 }, _, rfl, rfl⟩,
      ⟨0, none, _, weightless, unmoved, rfl⟩, ⟨2, none, _, swept, purified, rfl⟩⟩
  have moderate (figure : Figure) : figure.total (Entry.mixed weightless swept) < 2 ^ 53 := by
    have refused : figure.amount (⟨.error (.negativeDimensionCount (-4)), 0⟩ : Entry Float) ≤ 1 :=
      figure.amount_le _
    have idle := figure.amount_le ⟨weightless.result, 1⟩
    have converged := figure.amount_le ⟨swept.result, 1⟩
    simp only [passes] at idle
    simp only [passes'] at converged
    rw [Entry.mixed, Figure.total_cons, Figure.total_cons, Figure.total_cons, Figure.total_nil]
    omega
  exact ⟨weightless, swept, unmoved, purified, stop, stop', answered, moderate,
    Instruments.plain_lawful, recorders_agree Instruments.plain_lawful answered moderate⟩

end Purification
