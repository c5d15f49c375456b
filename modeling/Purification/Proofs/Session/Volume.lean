import Purification.Proofs.Call.Declared
import Purification.Proofs.Metrics.Figures
import Purification.Proofs.Session.Request

/-! # Recorded volume

What a session counts as work is the work that was done: the passes that its sweeps made, and the
cells of the tables they were made over. The cells are counted as the call declared them, before
it was known whether it has a table at all.
-/

namespace Purification

variable {α : Type}

/-- The requests that were answered with a sweep of some line. -/
def Session.swept (answered : List (Request α × Except Fault (Outcome α))) :
    List (Request α × Except Fault (Outcome α)) :=
  answered.filter fun pair => Outcome.sweptOf pair.2

section

variable {request : Request α} {result : Except Fault (Outcome α)}
  {later : List (Request α × Except Fault (Outcome α))}

theorem Session.swept_cons_of_swept (sweeps : Outcome.sweptOf result = true) :
    swept ((request, result) :: later) = (request, result) :: swept later :=
  List.filter_cons_of_pos sweeps

theorem Session.swept_cons_of_not_swept (idle : Outcome.sweptOf result = false) :
    swept ((request, result) :: later) = swept later :=
  List.filter_cons_of_neg (by simp [idle])

end

variable [Scalar α]

/-- The request makes a call that hands a table of this shape to a sweep. -/
def Request.Sweeps (config : Config α) (request : Request α) (shape : Shape) : Prop :=
  ∃ call weights field, request.call? config = .ok call ∧
    call.admission = .ok (.table shape weights field)

namespace Session

/-- Between two sessions the counters have grown, modulo 2^64, by the passes that were reported
    with the sweeps and by the cells of the tables that were swept. -/
structure Measures (s : Session α) (answered : List (Request α × Except Fault (Outcome α)))
    (s' : Session α) : Prop where
  passes : s'.counters.passes = s.counters.passes +
    .ofNat ((swept answered).map fun pair => Outcome.passesOf pair.2).sum
  cells : ∃ shapes : List Shape,
    List.Forall₂ (fun pair shape => pair.1.Sweeps s.config shape) (swept answered) shapes ∧
    s'.counters.cellsPurified = s.counters.cellsPurified + .ofNat (shapes.map (·.cellCount)).sum

theorem Measures.nil (s : Session α) : s.Measures [] s where
  passes := by simp [swept]
  cells := ⟨[], .nil, by simp⟩

theorem Measures.refused {s s' : Session α} {request : Request α} {fault : Fault}
    {later : List (Request α × Except Fault (Outcome α))} (rest : s.Measures later s') :
    s.Measures ((request, .error fault) :: later) s' where
  passes := rest.passes
  cells := rest.cells

/-- The call of a request is counted with its passes and its cells if it was swept, and with
    neither if it was not. -/
theorem Measures.note {s s' : Session α} {fuel : Nat} {limit : Option Nat} {call : Call α}
    {report : Report α} {request : Request α}
    {later : List (Request α × Except Fault (Outcome α))}
    (called : request.call? s.config = .ok call) (purified : call.purify fuel limit = some report)
    (rest : (s.note call report).Measures later s') :
    s.Measures ((request, report.result) :: later) s' := by
  let entry : Entry α := ⟨report.result, call.declaredCells⟩
  have passes : (s.note call report).counters.passes =
      s.counters.passes + .ofNat (Outcome.passesOf report.result) :=
    s.counters.get_record entry .passes
  have cells : (s.note call report).counters.cellsPurified = s.counters.cellsPurified +
      .ofNat (if Outcome.sweptOf report.result then call.declaredCells else 0) :=
    s.counters.get_record entry .cells
  obtain ⟨shapes, each, counted⟩ := rest.cells
  cases sweeps : Outcome.sweptOf report.result with
  | false =>
      rw [Call.passesOf_eq_zero purified sweeps] at passes
      rw [sweeps] at cells
      constructor
      · rw [swept_cons_of_not_swept sweeps, rest.passes, passes]
        simp
      · rw [swept_cons_of_not_swept sweeps]
        refine ⟨shapes, each, ?_⟩
        rw [counted, cells]
        simp
  | true =>
      obtain ⟨shape, weights, field, admitted⟩ := Call.exists_table_of_swept purified sweeps
      rw [sweeps, if_pos rfl, Call.declaredCells_of_admission admitted] at cells
      constructor
      · rw [swept_cons_of_swept sweeps, rest.passes, passes, List.map_cons, List.sum_cons,
          UInt64.ofNat_add, UInt64.add_assoc]
      · rw [swept_cons_of_swept sweeps]
        refine ⟨shape :: shapes, .cons ⟨call, weights, field, called, admitted⟩ each, ?_⟩
        rw [counted, cells, List.map_cons, List.sum_cons, UInt64.ofNat_add, UInt64.add_assoc]

theorem Serves.measures {s s' : Session α} {answered : List (Request α × Except Fault (Outcome α))}
    (served : s.Serves answered s') : s.Measures answered s' := by
  induction served with
  | nil s => exact .nil s
  | cons first _ ih =>
      rcases answer_eq_some first with ⟨fault, -, rfl, rfl⟩ |
        ⟨call, report, called, purified, rfl, rfl⟩
      · exact .refused ih
      · exact .note called purified ih

/-- The counters of a session grow by the passes and the cells of exactly those requests that were
    answered with a sweep. The number of cells that a call declares is that of its table, whenever
    it has one; working it out never fails, and it has 64 bits even in a call that is refused. -/
theorem volume_recorded {s s' : Session α}
    {answered : List (Request α × Except Fault (Outcome α))} (served : s.Serves answered s') :
    s.Measures answered s' ∧
    ∀ call : Call α,
      (∀ shape weights field, call.admission = .ok (.table shape weights field) →
        call.declaredCells = shape.cellCount) ∧
      Guarded.declaredCells call = some call.declaredCells ∧ call.declaredCells < wordBound :=
  ⟨served.measures, fun call => ⟨fun _ _ _ => Call.declaredCells_of_admission,
    Guarded.declaredCells_eq call, call.declaredCells_lt⟩⟩

end Session

/-- A line of two cells beside a length that need not be declared. -/
def Call.surplus (dimensionCount : Int) : Call Float :=
  { tolerance := 0, dimensionCount, lengths := some #[2, 7], weights := some #[1, 1],
    scores := some #[3, 1], impurities := some #[0], intercept := none }

/-- Where only the first length is declared, two cells are swept, in two passes. Where more are
    declared than there are, nothing is counted. -/
theorem Session.volume_recorded_surplus :
    ∃ (s' : Session Float) (result : Except Fault (Outcome Float)),
      let s : Session Float := { config := .standard, observer := { sink := .silent } }
      s.Serves [(.purify (.surplus 1), result),
        (.purify (.surplus 3), .error (.bufferTooSmall .dimensionLengths 3 2))] s' ∧
      Outcome.sweptOf result = true ∧
      s'.counters.passes = 2 ∧ s'.counters.cellsPurified = 2 := by
  let s : Session Float := { config := .standard, observer := { sink := .silent } }
  have converges : ((s.answer 2 (.purify (.surplus 1))).map fun (result, _) =>
      (Outcome.sweptOf result, Outcome.passesOf result)) = some (true, 2) := by decide +kernel
  obtain ⟨⟨result, s'⟩, first, told⟩ := Option.map_eq_some_iff.1 converges
  obtain ⟨sweeps, passes⟩ := Prod.mk.inj told
  have second : s'.answer 0 (.purify (.surplus 3)) =
      some (.error (.bufferTooSmall .dimensionLengths 3 2), _) := rfl
  have served := Serves.cons first (.cons second (.nil _))
  obtain ⟨measured, declared⟩ := volume_recorded served
  have worked : swept [(.purify (.surplus 1), result),
      (.purify (.surplus 3), .error (.bufferTooSmall .dimensionLengths 3 2))] =
        [(.purify (.surplus 1), result)] := swept_cons_of_swept sweeps
  refine ⟨_, result, served, sweeps, ?_, ?_⟩
  · rw [measured.passes, worked, List.map_singleton, List.sum_singleton, passes]
    rfl
  · obtain ⟨shapes, each, counted⟩ := measured.cells
    rw [worked] at each
    cases each with
    | cons sweep rest =>
        cases rest
        obtain ⟨call, weights, field, called, admitted⟩ := sweep
        cases called
        have two : (Call.surplus 1).declaredCells = _ := (declared _).1 _ _ _ admitted
        rw [counted, List.map_singleton, List.sum_singleton, ← two]
        rfl

end Purification
