import Purification.Proofs.Call.Table
import Purification.Proofs.Shape.Overflow

/-! # The order of the checks

The result of a call is the first entry that applies in one list of rules: on its rank, its
lengths, the size of its table, and its buffers one after the other. Only a call that no rule
applies to is purified, and only such a call can wait for its sweep to stop.
-/

namespace Purification

variable {α : Type}

/-! ## The rules -/

/-- A buffer is missing, or holds fewer entries than required. -/
def Buffer.rules {β : Type} (buffer : Buffer) (required : Nat) (given : Option (Array β)) :
    List (Except Fault (Outcome α) → Prop) :=
  [fun result => given = none ∧ result = .error (.missingBuffer buffer),
   fun result => ∃ values, given = some values ∧ values.size < required ∧
     result = .error (.bufferTooSmall buffer required values.size)]

namespace Call

/-- The declared rank is zero, negative or too large. -/
def rankRules (count : Int) : List (Except Fault (Outcome α) → Prop) :=
  [fun result => count = 0 ∧ result = .ok .zeroDimensions,
   fun result => count < 0 ∧ result = .error (.negativeDimensionCount count),
   fun result => 30 < count ∧ result = .error (.tooManyDimensions count 30)]

/-- Some length is negative, or some length is zero. -/
def lengthRules (lengths : List Int) : List (Except Fault (Outcome α) → Prop) :=
  [fun result => ∃ d l, lengths[d]? = some l ∧
     IsLeast {d | ∃ l, lengths[d]? = some l ∧ l < 0} d ∧
     result = .error (.negativeDimensionLength d l),
   fun result => 0 ∈ lengths ∧ result = .ok .emptyTensor]

/-- There are too many cells, or too many lines. -/
def sizeRules (lengths : List Nat) : List (Except Fault (Outcome α) → Prop) :=
  [fun result => ∃ k, IsLeast {k | Shape.CellsOverflow lengths k} k ∧
     result = .error (.cellCountOverflow k),
   fun result => ∃ k, IsLeast {k | Shape.LinesOverflow lengths k} k ∧
     result = .error (.cellCountOverflow k)]

/-- The lengths that count: as many of those supplied as are declared. -/
def counted (call : Call α) : List Int :=
  ((call.lengths.map (·.toList)).getD []).take call.dimensionCount.toNat

/-- The same lengths as sizes. A negative one, which is refused before any size matters, is 0. -/
def extents (call : Call α) : List Nat := call.counted.map (·.toNat)

def cells (call : Call α) : Nat := call.extents.prod

def lines (call : Call α) : Nat := (call.extents.map (call.cells / ·)).sum

def rules (call : Call α) : List (Except Fault (Outcome α) → Prop) :=
  rankRules call.dimensionCount ++
    (Buffer.dimensionLengths.rules call.dimensionCount.toNat call.lengths ++
      (lengthRules call.counted ++
        (sizeRules call.extents ++
          (Buffer.weights.rules call.cells call.weights ++
            (Buffer.scores.rules call.cells call.scores ++
              Buffer.impurities.rules call.lines call.impurities)))))

end Call

/-- The result of a call that is answered without a sweep. -/
def Admission.answer? : Except Fault (Admission α) → Option (Except Fault (Outcome α))
  | .error fault => some (.error fault)
  | .ok .zeroDimensions => some (.ok .zeroDimensions)
  | .ok .emptyTensor => some (.ok .emptyTensor)
  | .ok (.table ..) => none

theorem Admission.exists_table {admission : Except Fault (Admission α)}
    (h : answer? admission = none) :
    ∃ shape weights field, admission = .ok (.table shape weights field) := by
  match admission, h with
  | .ok (.table shape weights field), _ => exact ⟨shape, weights, field, rfl⟩

/-- A fault that lengths or a configuration can have by themselves, but not the arguments of a
    call. -/
inductive Fault.Foreign : Fault → Prop where
  | emptyShape : Foreign .emptyShape
  | zeroDimensionLength (dimension : Nat) : Foreign (.zeroDimensionLength dimension)
  | dimensionLengthOverflow (dimension : Nat) (length : Int) :
      Foreign (.dimensionLengthOverflow dimension length)
  | invalidConfig (reason : String) : Foreign (.invalidConfig reason)

/-- The rule allows one result at most, and no fault that is not one of a call. -/
structure Call.Sound (rule : Except Fault (Outcome α) → Prop) : Prop where
  single : ∀ r r', rule r → rule r' → r = r'
  native : ∀ fault, rule (.error fault) → ¬ fault.Foreign

theorem Call.Sound.of_eq {p : Prop} {result : Except Fault (Outcome α)}
    (native : ∀ fault, result = .error fault → ¬ fault.Foreign) :
    Sound fun r => p ∧ r = result where
  single := by
    rintro _ _ ⟨-, rfl⟩ ⟨-, rfl⟩
    rfl
  native fault applies := native fault applies.2.symm

theorem Buffer.sound_of_mem_rules {β : Type} {buffer : Buffer} {required : Nat}
    {given : Option (Array β)} {rule : Except Fault (Outcome α) → Prop}
    (member : rule ∈ buffer.rules required given) : Call.Sound rule := by
  rcases List.mem_pair.1 member with rfl | rfl
  · exact .of_eq fun fault same foreign => by cases same; cases foreign
  · constructor
    · rintro _ _ ⟨values, found, -, rfl⟩ ⟨values', found', -, rfl⟩
      rw [Option.some.inj (found.symm.trans found')]
    · rintro fault ⟨values, -, -, same⟩ foreign
      cases same
      cases foreign

theorem Call.sound_of_mem_rankRules {count : Int} {rule : Except Fault (Outcome α) → Prop}
    (member : rule ∈ rankRules count) : Sound rule := by
  simp only [rankRules, List.mem_cons, List.not_mem_nil, or_false] at member
  rcases member with rfl | rfl | rfl
  · exact .of_eq fun fault same => by cases same
  · exact .of_eq fun fault same foreign => by cases same; cases foreign
  · exact .of_eq fun fault same foreign => by cases same; cases foreign

theorem Call.sound_of_mem_lengthRules {lengths : List Int}
    {rule : Except Fault (Outcome α) → Prop} (member : rule ∈ lengthRules lengths) :
    Sound rule := by
  rcases List.mem_pair.1 member with rfl | rfl
  · constructor
    · rintro _ _ ⟨d, l, there, least, rfl⟩ ⟨d', l', there', least', rfl⟩
      cases least.unique least'
      rw [Option.some.inj (there.symm.trans there')]
    · rintro fault ⟨d, l, -, -, same⟩ foreign
      cases same
      cases foreign
  · exact .of_eq fun fault same => by cases same

theorem Call.sound_of_mem_sizeRules {lengths : List Nat} {rule : Except Fault (Outcome α) → Prop}
    (member : rule ∈ sizeRules lengths) : Sound rule := by
  have least (p : Nat → Prop) : Sound (α := α) fun result =>
      ∃ k, IsLeast {k | p k} k ∧ result = .error (.cellCountOverflow k) := by
    constructor
    · rintro _ _ ⟨k, least, rfl⟩ ⟨k', least', rfl⟩
      rw [least.unique least']
    · rintro fault ⟨k, -, same⟩ foreign
      cases same
      cases foreign
  rcases List.mem_pair.1 member with rfl | rfl
  · exact least _
  · exact least _

theorem Call.sound_of_mem_rules {call : Call α} {rule : Except Fault (Outcome α) → Prop}
    (member : rule ∈ call.rules) : Sound rule := by
  simp only [rules, List.mem_append] at member
  rcases member with rank | supplied | lengths | size | weights | scores | impurities
  · exact sound_of_mem_rankRules rank
  · exact Buffer.sound_of_mem_rules supplied
  · exact sound_of_mem_lengthRules lengths
  · exact sound_of_mem_sizeRules size
  · exact Buffer.sound_of_mem_rules weights
  · exact Buffer.sound_of_mem_rules scores
  · exact Buffer.sound_of_mem_rules impurities

/-! ## One check after the other -/

theorem Buffer.first_require {β : Type} (buffer : Buffer) (required : Nat)
    (given : Option (Array β)) {next : Array β → Except Fault (Admission α)}
    {rules : List (Except Fault (Outcome α) → Prop)}
    (h : ∀ values, given = some values → required ≤ values.size →
      First rules (Admission.answer? (next values))) :
    First (buffer.rules required given ++ rules)
      (Admission.answer? (buffer.require required given >>= next)) := by
  cases given with
  | none => exact .here ⟨rfl, rfl⟩
  | some values =>
      refine .later (fun _ absent => by cases absent.1) ?_
      rw [require]
      split
      · rename_i short
        exact .here ⟨values, rfl, short, rfl⟩
      · rename_i enough
        refine .later ?_ (h values rfl (Nat.not_lt.1 enough))
        rintro _ ⟨_, same, short, -⟩
        cases same
        exact enough short

namespace Call

variable {rules : List (Except Fault (Outcome α) → Prop)}
  {next : Shape → Except Fault (Admission α)}

theorem first_ofLengths {lengths : List Nat} (rank_pos : 0 < lengths.length)
    (rank_le : lengths.length ≤ Shape.maxRank) (positive : ∀ l ∈ lengths, 0 < l)
    (h : ∀ shape, Shape.ofLengths lengths = .ok shape →
      First rules (Admission.answer? (next shape))) :
    First (sizeRules lengths ++ rules)
      (Admission.answer? (Shape.ofLengths lengths >>= next)) := by
  cases made : Shape.ofLengths lengths with
  | error fault =>
      rcases Shape.overflow_of_ofLengths rank_pos rank_le positive made with
        ⟨k, least, rfl⟩ | ⟨within, k, least, rfl⟩
      · exact .here ⟨k, least, rfl⟩
      · refine .later ?_ (.here ⟨k, least, rfl⟩)
        rintro _ ⟨k', least', -⟩
        exact within k' least'.1
  | ok shape =>
      have fits := shape.representable
      rw [Shape.lengths_of_ofLengths made] at fits
      refine .later ?_ (.later ?_ (h shape made))
      · rintro _ ⟨k, least, -⟩
        exact Shape.not_cellsOverflow positive fits.cells_lt k least.1
      · rintro _ ⟨k, least, -⟩
        exact Shape.not_linesOverflow fits.lines_lt k least.1

theorem first_shape? {lengths : List Int} (rank_pos : 0 < lengths.length)
    (rank_le : lengths.length ≤ Shape.maxRank)
    (h : ∀ shape, Shape.ofLengths (lengths.map (·.toNat)) = .ok shape →
      First rules (Admission.answer? (next shape))) :
    First (lengthRules lengths ++ (sizeRules (lengths.map (·.toNat)) ++ rules))
      (Admission.answer? (shape? lengths >>= fun
        | none => pure .emptyTensor
        | some shape => next shape)) := by
  by_cases nonneg : ∀ l ∈ lengths, 0 ≤ l
  · rw [shape?_of_nonneg nonneg]
    refine .later ?_ ?_
    · rintro _ ⟨d, l, -, ⟨⟨l', there, negative⟩, -⟩, -⟩
      exact absurd (nonneg l' (List.mem_of_getElem? there)) (Int.not_le.2 negative)
    · split
      · rename_i zero
        exact .here ⟨zero, rfl⟩
      · rename_i nonzero
        refine .later (fun _ zero => nonzero zero.1) ?_
        -- only now are the lengths what the shape multiplies: none negative, none zero
        have positive : ∀ l ∈ lengths.map (·.toNat), 0 < l := by
          intro n image
          obtain ⟨l, member, rfl⟩ := List.mem_map.1 image
          have := nonneg l member
          have : l ≠ 0 := fun zero => nonzero (zero ▸ member)
          omega
        have made := first_ofLengths (by simpa using rank_pos) (by simpa using rank_le) positive h
        cases shape : Shape.ofLengths (lengths.map (·.toNat)) with
        | error fault => rwa [shape] at made
        | ok shape' => rwa [shape] at made
  · obtain ⟨l, d, found⟩ := exists_negative nonneg
    rw [shape?_of_negative found]
    obtain ⟨there, least⟩ := isLeast_of_find?_zipIdx (p := fun l => decide (l < 0)) found
    exact .here ⟨d, l, there, by simpa only [decide_eq_true_eq] using least, rfl⟩

theorem first_table (call : Call α) (shape : Shape) :
    First (Buffer.weights.rules shape.cellCount call.weights ++
        (Buffer.scores.rules shape.cellCount call.scores ++
          Buffer.impurities.rules shape.lineCount call.impurities))
      (Admission.answer? (call.table shape)) := by
  refine Buffer.first_require _ _ _ fun weights _ _ => ?_
  refine Buffer.first_require _ _ _ fun scores _ _ => ?_
  rw [← List.append_nil (Buffer.rules _ _ call.impurities)]
  exact Buffer.first_require _ _ _ fun impurities _ _ => .silent

/-- The first rule that applies to a call answers it, and only a table is answered by none. -/
theorem first_rules (call : Call α) : First call.rules (Admission.answer? call.admission) := by
  unfold admission rules rankRules
  split
  · rename_i zero
    exact .here ⟨zero, rfl⟩
  · rename_i nonzero
    refine .later (fun _ zero => nonzero zero.1) ?_
    split
    · rename_i negative
      exact .here ⟨negative, rfl⟩
    · rename_i nonneg
      refine .later (fun _ negative => nonneg negative.1) ?_
      split
      · rename_i high
        exact .here ⟨high, rfl⟩
      · rename_i low
        refine .later (fun _ high => low high.1) ?_
        refine Buffer.first_require _ _ _ fun supplied given enough => ?_
        have counted_eq : call.counted = supplied.toList.take call.dimensionCount.toNat := by
          rw [counted, given]
          rfl
        have length_eq : call.counted.length = call.dimensionCount.toNat := by
          rw [counted_eq, List.length_take, Array.length_toList, Nat.min_eq_left enough]
        -- as many lengths count as were declared, which is between 1 and the largest rank
        rw [← counted_eq]
        refine first_shape? (by omega) (by omega) fun shape made => ?_
        have same := Shape.lengths_of_ofLengths made
        have cells_eq : call.cells = shape.cellCount := by
          rw [cells, extents, ← same, ← Shape.product_eq_prod, Shape.cellCount]
        have lines_eq : call.lines = shape.lineCount := by
          rw [lines, extents, ← same, ← Shape.total_eq_sum, cells_eq, Shape.lineCount,
            Shape.lineTotal, Shape.cellCount]
        rw [cells_eq, lines_eq]
        exact first_table call shape

variable [Scalar α]

theorem exists_report_of_answer? {call : Call α} {result : Except Fault (Outcome α)}
    (answer : Admission.answer? call.admission = some result) (fuel : Nat) (limit : Option Nat) :
    ∃ report, call.purify fuel limit = some report ∧ report.result = result := by
  unfold purify
  cases admitted : call.admission with
  | error fault =>
      rw [admitted] at answer
      cases answer
      exact ⟨_, rfl, rfl⟩
  | ok admission =>
      rw [admitted] at answer
      cases admission with
      | zeroDimensions =>
          cases answer
          exact ⟨_, rfl, rfl⟩
      | emptyTensor =>
          cases answer
          exact ⟨_, rfl, rfl⟩
      | table => cases answer

/-- A call gets the one answer of its rules. If they have none, the call has a table, and it is
    purified as soon as the sweep of that table stops. -/
theorem purify_follows_rules (call : Call α) (fuel : Nat) (limit : Option Nat) :
    (∃! answer, First call.rules answer) ∧
    (∀ report, call.purify fuel limit = some report →
      First (call.rules ++ [fun result => ∃ c, result = .ok (.purified c)]) (some report.result) ∧
      ∀ fault, report.result = .error fault → ¬ fault.Foreign) ∧
    (call.purify fuel limit = none →
      First call.rules none ∧
      ∃ shape weights field, call.admission = .ok (.table shape weights field) ∧
        Sweep.run fuel shape call.tolerance limit weights field (call.intercept.map fun _ => 0) =
          none) := by
  have first := first_rules call
  have native : ∀ fault, First call.rules (some (.error fault)) → ¬ fault.Foreign := by
    intro fault answered
    obtain ⟨rule, member, applies⟩ := answered.exists_rule
    exact (sound_of_mem_rules member).native fault applies
  refine ⟨⟨_, first, fun _ h => h.unique (fun _ m => (sound_of_mem_rules m).single) first⟩, ?_⟩
  cases answer : Admission.answer? call.admission with
  | some result =>
      obtain ⟨report, answered, rfl⟩ := exists_report_of_answer? answer fuel limit
      rw [answer] at first
      rw [answered]
      refine ⟨?_, nofun⟩
      rintro _ ⟨⟩
      exact ⟨first.append_some, fun fault same => native fault (same ▸ first)⟩
  | none =>
      obtain ⟨shape, weights, field, admitted⟩ := Admission.exists_table answer
      rw [answer] at first
      rw [purify_of_admission admitted]
      constructor
      · intro report answered
        obtain ⟨swept, -, rfl⟩ := Option.map_eq_some_iff.1 answered
        exact ⟨first.append_none (.here ⟨_, rfl⟩), nofun⟩
      · intro unanswered
        exact ⟨first, shape, weights, field, admitted, Option.map_eq_none_iff.1 unanswered⟩

/-- A call whose lengths are all it has. -/
def bare (dimensionCount : Int) (lengths : Array Int) : Call Float :=
  { tolerance := 0, dimensionCount, lengths := some lengths, weights := none, scores := none,
    impurities := none, intercept := none }

/-- A negative length after a zero, in front of another one that is not counted; cells that can
    be numbered while their lines cannot; and a table with a cell, before its first pass. -/
theorem purify_follows_rules_bare :
    (∃ report, (bare 3 #[0, 2, -3, -1]).purify 0 none = some report ∧
      report.result = .error (.negativeDimensionLength 2 (-3)) ∧
      First ((bare 3 #[0, 2, -3, -1]).rules ++ [fun result => ∃ c, result = .ok (.purified c)])
        (some report.result)) ∧
    (∃ report, (bare 5 #[2 ^ 62, 1, 1, 1, 1]).purify 0 none = some report ∧
      report.result = .error (.cellCountOverflow 4) ∧
      First ((bare 5 #[2 ^ 62, 1, 1, 1, 1]).rules ++
        [fun result => ∃ c, result = .ok (.purified c)]) (some report.result)) ∧
    First { bare 1 #[1] with
      weights := some #[1], scores := some #[2], impurities := some #[0] }.rules none := by
  refine ⟨⟨_, rfl, rfl, ((purify_follows_rules (bare 3 #[0, 2, -3, -1]) 0 none).2.1 _ rfl).1⟩,
    ⟨_, rfl, rfl, ((purify_follows_rules (bare 5 #[2 ^ 62, 1, 1, 1, 1]) 0 none).2.1 _ rfl).1⟩, ?_⟩
  have waiting : ({ bare 1 #[1] with
      weights := some #[1], scores := some #[2], impurities := some #[0] }.purify 0 none).isNone =
      true := by decide +kernel
  exact ((purify_follows_rules _ 0 none).2.2 (Option.isNone_iff_eq_none.1 waiting)).1

end Call

end Purification
