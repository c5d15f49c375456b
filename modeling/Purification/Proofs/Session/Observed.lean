import Purification.Proofs.Call.Told
import Purification.Proofs.Metrics.Figures
import Purification.Proofs.Session.Request

/-! # Which requests are observed

A request that makes a call is counted once and told as one block of events, from the call's
coming in to its end. A decomposition whose lengths cannot be declared makes no call, and so
nobody learns of it. A sequence of requests is therefore observed in full exactly if all
lengths in it can be declared.
-/

namespace Purification

variable {α : Type}

/-! ## Sequences of requests -/

/-- Between two sessions each of the answered requests was counted once, and a recording has
    one block of events for each, closed with the result of the request. -/
structure Session.Observes (s : Session α) (answered : List (Request α × Except Fault (Outcome α)))
    (s' : Session α) : Prop where
  counted : s'.counters.calls = s.counters.calls + .ofNat answered.length
  told : s.observer.sink = .recording →
    ∃ blocks, List.Forall₂ (fun pair events => Event.Block pair.2 events) answered blocks ∧
      s'.observer.events = s.observer.events ++ blocks.flatten

namespace Session

variable {s s' : Session α} {answered answered' : List (Request α × Except Fault (Outcome α))}

theorem Observes.nil (s : Session α) : s.Observes [] s where
  counted := by simp
  told _ := ⟨[], .nil, by simp⟩

theorem Observes.length_eq (recording : s.observer.sink = .recording)
    (h : s.Observes answered s') (h' : s.Observes answered' s') :
    answered.length = answered'.length := by
  obtain ⟨blocks, each, told⟩ := h.told recording
  obtain ⟨blocks', each', told'⟩ := h'.told recording
  -- the two lists of blocks may cut the recording differently, but each opens as many calls
  have same : blocks.flatten = blocks'.flatten := List.append_cancel_left (told.symm.trans told')
  rw [← Event.countP_flatten each, same, Event.countP_flatten each']

end Session

variable [Scalar α]

/-! ## What a session takes note of -/

namespace Session

theorem Observes.note {s s' : Session α} {fuel : Nat} {limit : Option Nat} {call : Call α}
    {report : Report α} {request : Request α}
    {later : List (Request α × Except Fault (Outcome α))}
    (purified : call.purify fuel limit = some report)
    (rest : (s.note call report).Observes later s') :
    s.Observes ((request, report.result) :: later) s' where
  counted := by
    have once : (s.note call report).counters.calls = s.counters.calls + 1 :=
      s.counters.get_record ⟨report.result, call.declaredCells⟩ .calls
    rw [rest.counted, once, List.length_cons, UInt64.ofNat_add, UInt64.add_assoc,
      UInt64.add_comm 1]
    rfl
  told recording := by
    have kept : (s.note call report).observer.events = s.observer.events ++ report.events :=
      Observer.events_tell recording _
    obtain ⟨blocks, each, told⟩ := rest.told ((Observer.sink_tell _ _).trans recording)
    refine ⟨report.events :: blocks, .cons ?_ each, ?_⟩
    · rw [Call.events_eq purified]
      exact .intro _ _ fun _ => Event.notice_of_mem_notices
    · rw [told, kept, List.append_assoc, List.flatten_cons]

variable {s s' : Session α} {answered : List (Request α × Except Fault (Outcome α))}

/-- The requests that make a call are observed, and no others. -/
theorem Serves.observes (served : s.Serves answered s') :
    s.Observes (answered.filter (·.1.declarable)) s' := by
  induction served with
  | nil s => exact .nil s
  | cons first _ ih =>
      rcases answer_eq_some first with ⟨fault, uncalled, -, rfl⟩ |
        ⟨call, report, called, purified, rfl, rfl⟩
      · rw [List.filter_cons_of_neg (by simp [(Request.not_declarable_of_call? uncalled).1])]
        exact ih
      · rw [List.filter_cons_of_pos (by simp [Request.declarable_of_call? called])]
        exact .note purified ih

theorem Serves.result_of_not_declarable (served : s.Serves answered s')
    {pair : Request α × Except Fault (Outcome α)} (member : pair ∈ answered)
    (uncalled : pair.1.declarable = false) :
    ∃ d, pair.2 = .error (.dimensionLengthOverflow d Decomposition.maxLength) := by
  induction served with
  | nil => cases member
  | cons first _ ih =>
      rcases List.mem_cons.1 member with rfl | later
      · rcases answer_eq_some first with ⟨fault, refused, rfl, -⟩ | ⟨call, report, called, -⟩
        · obtain ⟨d, rfl⟩ := (Request.not_declarable_of_call? refused).2
          exact ⟨d, rfl⟩
        · cases (Request.declarable_of_call? called).symm.trans uncalled
      · exact ih later

/-- Of a sequence of requests exactly those that make a call are counted and told, once each
    and with the result that they are answered with. So all of them are just if none is a
    decomposition with a length, among those that count, that cannot be declared; and such a
    decomposition is answered with this fault. -/
theorem observes_iff (served : s.Serves answered s') :
    s.Observes (answered.filter (·.1.declarable)) s' ∧
      (s.observer.sink = .recording →
        (s.Observes answered s' ↔ ∀ pair ∈ answered, pair.1.declarable = true)) ∧
      ∀ pair ∈ answered, pair.1.declarable = false →
        ∃ d, pair.2 = .error (.dimensionLengthOverflow d Decomposition.maxLength) := by
  refine ⟨served.observes, fun recording => ⟨fun all => ?_, fun declarable => ?_⟩,
    fun pair => served.result_of_not_declarable⟩
  · exact List.length_filter_eq_length_iff.1 (served.observes.length_eq recording all)
  · have observed := served.observes
    rwa [List.filter_eq_self.2 declarable] at observed

end Session

/-! ## A decomposition that nobody learns of -/

/-- A decomposition whose one length is beyond what a call can declare. -/
def Request.undeclarable : Request Float := .decompose [9223372036854775808] #[] #[]

def Request.overflow : Except Fault (Outcome Float) :=
  .error (.dimensionLengthOverflow 0 Decomposition.maxLength)

theorem Session.answer_undeclarable (s : Session Float) :
    s.answer 0 .undeclarable = some (Request.overflow, s) := rfl

/-- In a recording session, a call with a negative rank and buffers of an empty table are
    observed; the decomposition between them is answered as well, but not observed. -/
theorem observes_iff_standard :
    ∃ s s' : Session Float, ∃ first last : Request Float × Except Fault (Outcome Float),
      Session.start .standard .recording = .ok s ∧
      s.Serves [first, (.undeclarable, Request.overflow), last] s' ∧
      first.2 = .error (.negativeDimensionCount (-4)) ∧ last.2 = .ok .emptyTensor ∧
      s.Observes [first, last] s' ∧
      ¬ s.Observes [first, (.undeclarable, Request.overflow), last] s' ∧
      ∃ d, Request.overflow = .error (.dimensionLengthOverflow d Decomposition.maxLength) := by
  let start : Session Float := { config := .standard, observer := { sink := .recording } }
  let negative : Request Float := .purify ⟨0, -4, none, none, none, none, some 3⟩
  let empty : Request Float := .purifyBuffers #[2, 0] #[] #[] #[] 5
  have first : start.answer 0 negative = some (.error (.negativeDimensionCount (-4)), _) := rfl
  have last : ∀ s : Session Float, ∃ s', s.answer 0 empty = some (.ok .emptyTensor, s') :=
    fun s => ⟨_, rfl⟩
  obtain ⟨s', last⟩ := last _
  have served : start.Serves [(negative, .error (.negativeDimensionCount (-4))),
      (.undeclarable, Request.overflow), (empty, .ok .emptyTensor)] s' :=
    .cons first (.cons (Session.answer_undeclarable _) (.cons last (.nil s')))
  obtain ⟨observed, all, overflow⟩ := Session.observes_iff served
  refine ⟨start, s', _, _, Session.start_standard .recording, served, rfl, rfl, observed,
    fun three => ?_, overflow (.undeclarable, Request.overflow) (by simp) rfl⟩
  cases (all rfl).1 three (.undeclarable, Request.overflow) (by simp)

/-- Not every request to a recording session is observed. -/
theorem not_forall_observes :
    ¬ ∀ (config : Config Float) (s s' : Session Float)
        (answered : List (Request Float × Except Fault (Outcome Float))),
      Session.start config .recording = .ok s → s.Serves answered s' →
      s.Observes answered s' := by
  intro all
  have observed := all .standard _ _ _ (Session.start_standard .recording)
    (.cons (Session.answer_undeclarable _) (.nil _))
  exact absurd observed.counted (by decide)

end Purification
