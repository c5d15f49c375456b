import Purification.Proofs.Session.EntryPoints

/-! # What a decomposition is refused for first

The checks on a call look at the rank first, then for a zero among the lengths, and only then at
how large the lengths are. A decomposition goes through these checks too, but it has to declare
its lengths before, and a length that cannot be declared ends it there. So the order is kept
except for tables that have such a length together with too many dimensions or a zero.
-/

namespace Purification

/-- A length, or the number of cells or lines, is too large. -/
inductive Fault.Oversized : Fault → Prop where
  | length (dimension : Nat) (length : Int) : Oversized (.dimensionLengthOverflow dimension length)
  | count (dimension : Nat) : Oversized (.cellCountOverflow dimension)

theorem Fault.Oversized.status_eq {fault : Fault} (h : fault.Oversized) :
    fault.status = .resourceExhausted := by
  cases h with
  | length => rfl
  | count => rfl

variable {α : Type} {lengths : List Nat} {weights scores : Array α}

namespace Decomposition

/-- What the order of the checks promises of a decomposition: too many dimensions are reported
    whatever the lengths are, a zero empties any other table, and only without either can
    something be reported as too large. -/
structure Ordered (lengths : List Nat) (answer : Option (Except Fault (Decomposition α))) :
    Prop where
  rank : Shape.maxRank < lengths.length →
    answer = some (.error (.tooManyDimensions lengths.length Shape.maxRank))
  zero : lengths.length ≤ Shape.maxRank → 0 ∈ lengths →
    ∃ x, answer = some (.ok x) ∧ x.outcome = .emptyTensor
  size : ∀ fault, answer = some (.error fault) → fault.Oversized →
    fault.status = .resourceExhausted ∧ lengths.length ≤ Shape.maxRank ∧ 0 ∉ lengths

theorem Ordered.of_rank_of_zero {answer : Option (Except Fault (Decomposition α))}
    (rank : Shape.maxRank < lengths.length →
      answer = some (.error (.tooManyDimensions lengths.length Shape.maxRank)))
    (zero : lengths.length ≤ Shape.maxRank → 0 ∈ lengths →
      ∃ x, answer = some (.ok x) ∧ x.outcome = .emptyTensor) : Ordered lengths answer := by
  refine ⟨rank, zero, fun fault refused oversized => ?_⟩
  have low : lengths.length ≤ Shape.maxRank := by
    by_contra high
    cases refused.symm.trans (rank (Nat.lt_of_not_le high))
    cases oversized
  refine ⟨oversized.status_eq, low, fun empty => ?_⟩
  obtain ⟨x, made, -⟩ := zero low empty
  cases refused.symm.trans made

theorem ordered_overflow_iff {d : Nat} {l : Int} :
    Ordered lengths (some (.error (.dimensionLengthOverflow d l)) :
        Option (Except Fault (Decomposition α))) ↔
      lengths.length ≤ Shape.maxRank ∧ 0 ∉ lengths := by
  constructor
  · intro ordered
    exact (ordered.size _ rfl (.length d l)).2
  · rintro ⟨low, nonzero⟩
    exact .of_rank_of_zero (fun high => absurd low (Nat.not_le.2 high))
      (fun _ zero => absurd zero nonzero)

theorem declarable_eq_false_iff :
    declarable lengths = false ↔ ∃ l ∈ lengths.take Shape.maxRank, maxLength < l := by
  simp [declarable]

theorem declare_of_isLeast {d : Nat}
    (least : IsLeast {d | ∃ l, (lengths.take Shape.maxRank)[d]? = some l ∧ maxLength < l} d) :
    declare lengths = .error (.dimensionLengthOverflow d maxLength) := by
  unfold declare
  dsimp only
  split
  · rename_i l d' found
    obtain ⟨-, least'⟩ := isLeast_of_find?_zipIdx (p := fun l => decide (maxLength < l)) found
    simp only [decide_eq_true_eq] at least'
    rw [least'.unique least]
  · rename_i unfound
    obtain ⟨l, there, long⟩ := least.1
    have short := forall_of_find?_zipIdx (p := fun l => decide (maxLength < l)) unfound l
      (List.mem_of_getElem? there)
    exact absurd long (of_decide_eq_false short)

end Decomposition

variable [Scalar α]

namespace Session

variable {s : Session α}

/-- A decomposition that makes a call goes through the checks in their order. -/
theorem ordered_of_callOf {call : Call α}
    (called : Decomposition.callOf s.config lengths weights scores = .ok call) (fuel : Nat) :
    Decomposition.Ordered lengths ((s.decompose fuel lengths weights scores).map (·.1)) := by
  have hands := Decomposition.hands_of_callOf called
  rw [decompose, called]
  apply Decomposition.Ordered.of_rank_of_zero
  · intro high
    simp only [purify, Call.purify, hands.admission_of_rank high]
    rfl
  · intro low zero
    have admitted : call.admission = .ok .emptyTensor := by
      rw [hands.admission_eq (List.ne_nil_of_mem zero) low, if_pos zero]
    simp only [purify, Call.purify, admitted]
    exact ⟨_, rfl, rfl⟩

/-- A decomposition keeps the order of the checks exactly if no length that cannot be declared
    comes with too many dimensions or a zero; the first such length is what it is refused for. -/
theorem decompose_ordered_iff (s : Session α) (fuel : Nat) (lengths : List Nat)
    (weights scores : Array α) :
    (Decomposition.Ordered lengths ((s.decompose fuel lengths weights scores).map (·.1)) ↔
      ((∃ l ∈ lengths.take Shape.maxRank, Decomposition.maxLength < l) →
        lengths.length ≤ Shape.maxRank ∧ 0 ∉ lengths)) ∧
    ∀ d, IsLeast {d | ∃ l, (lengths.take Shape.maxRank)[d]? = some l ∧
        Decomposition.maxLength < l} d →
      s.decompose fuel lengths weights scores =
        some (.error (.dimensionLengthOverflow d Decomposition.maxLength), s) := by
  constructor
  · rw [← Decomposition.declarable_eq_false_iff]
    cases called : Decomposition.callOf s.config lengths weights scores with
    | ok call =>
        obtain ⟨declared, hdeclared, -⟩ := bind_eq_ok called
        have declarable := Decomposition.declarable_of_declare hdeclared
        refine ⟨fun _ undeclarable => ?_, fun _ => ordered_of_callOf called fuel⟩
        cases declarable.symm.trans undeclarable
    | error fault =>
        have uncalled : (Request.decompose lengths weights scores).call? s.config =
            .error fault := called
        obtain ⟨undeclarable, d, rfl⟩ := Request.not_declarable_of_call? uncalled
        have refused : (s.decompose fuel lengths weights scores).map (·.1) =
            some (.error (.dimensionLengthOverflow d Decomposition.maxLength)) := by
          rw [decompose, called]
          rfl
        rw [refused, Decomposition.ordered_overflow_iff]
        exact ⟨fun neither _ => neither, fun neither => neither undeclarable⟩
  · intro d least
    rw [decompose, Decomposition.callOf, Decomposition.declare_of_isLeast least]
    rfl

end Session

/-! ## Lengths that cannot be declared -/

/-- Such a length comes in its turn if it is alone, and beyond the lengths that count it is not
    looked at; but it comes before a zero. -/
theorem Session.decompose_ordered_iff_silent :
    let s : Session Float := { config := .standard, observer := { sink := .silent } }
    let ordered := fun lengths =>
      Decomposition.Ordered lengths ((s.decompose 0 lengths #[] #[]).map (·.1))
    ordered [3, 2 ^ 63] ∧ ordered (List.replicate 30 0 ++ [2 ^ 63]) ∧ ¬ ordered [0, 2 ^ 63] ∧
      s.decompose 0 [0, 2 ^ 63] #[] #[] =
        some (.error (.dimensionLengthOverflow 1 Decomposition.maxLength), s) := by
  intro s ordered
  refine ⟨?_, ?_, ?_, ?_⟩
  · exact (decompose_ordered_iff s 0 [3, 2 ^ 63] #[] #[]).1.2 fun _ => by decide
  · refine (decompose_ordered_iff s 0 (List.replicate 30 0 ++ [2 ^ 63]) #[] #[]).1.2 ?_
    rintro ⟨l, member, long⟩
    cases List.eq_of_mem_replicate (n := 30) member
    exact absurd long (by decide)
  · intro order
    have neither := (decompose_ordered_iff s 0 [0, 2 ^ 63] #[] #[]).1.1 order
      ⟨2 ^ 63, by decide, by decide⟩
    exact absurd List.mem_cons_self neither.2
  · refine (decompose_ordered_iff s 0 [0, 2 ^ 63] #[] #[]).2 1
      ⟨⟨2 ^ 63, rfl, by decide⟩, fun d => ?_⟩
    rintro ⟨l, there, long⟩
    by_contra before
    obtain rfl : d = 0 := by omega
    cases there
    exact absurd long (by decide)

/-- Neither promise is kept for all lengths that are words: too many dimensions are not always
    reported, and a zero does not always empty the table. -/
theorem Session.not_forall_decompose_ordered :
    (¬ ∀ (config : Config Float) (sink : Sink) (s : Session Float) (fuel : Nat)
        (lengths : List Nat) (weights scores : Array Float),
      Session.start config sink = .ok s → (∀ l ∈ lengths, l < wordBound) →
      Shape.maxRank < lengths.length →
      (s.decompose fuel lengths weights scores).map (·.1) =
        some (.error (.tooManyDimensions lengths.length Shape.maxRank))) ∧
    ¬ ∀ (config : Config Float) (sink : Sink) (s : Session Float) (fuel : Nat)
        (lengths : List Nat) (weights scores : Array Float),
      Session.start config sink = .ok s → (∀ l ∈ lengths, l < wordBound) →
      lengths.length ≤ Shape.maxRank → 0 ∈ lengths →
      ∃ x, (s.decompose fuel lengths weights scores).map (·.1) = some (.ok x) ∧
        x.outcome = .emptyTensor := by
  constructor
  · intro reported
    have many := reported .standard .silent _ 0 (2 ^ 63 :: List.replicate 30 1) #[] #[]
      (start_standard .silent) (by decide) (by decide)
    cases many
  · intro emptied
    obtain ⟨x, empty, -⟩ := emptied .standard .silent _ 0 [0, 2 ^ 63] #[] #[]
      (start_standard .silent) (by decide) (by decide) List.mem_cons_self
    cases empty

end Purification
