import Purification.Guarded.Call
import Purification.Proofs.Call.Table
import Purification.Proofs.Guarded.Sweep

/-! # Guarded calls

No step of the boundary fails, whatever the call: what has not been checked yet is not reached.
Nor do the functions of a shape that was accepted, whatever they are given.
-/

namespace Purification

namespace Guarded

/-- What a check finds that does not fail. -/
def found {β : Type} (result : Except Fault β) : Check β := some result

variable {α : Type}

/-! ## One check after the other -/

section

variable {β γ δ : Type} {image : δ → γ}

theorem liftM_bind (x : β) (next : β → Check γ) : (liftM (some x) : Check β) >>= next = next x :=
  rfl

theorem bind_found {ε : Type} {check : Check β} {result : Except Fault ε} {shown : ε → β}
    {next : β → Check γ} {plain : ε → Except Fault δ} (h : check = found (result.map shown))
    (later : ∀ x, result = .ok x → next (shown x) = found ((plain x).map image)) :
    check >>= next = found ((result >>= plain).map image) := by
  rw [h]
  cases result with
  | error fault => rfl
  | ok x => exact later x rfl

theorem bind_require {buffer : Buffer} {required : Nat} {given : Option (Array β)}
    {next : Slice β → Check γ} {plain : Array β → Except Fault δ}
    (later : ∀ values (within : required ≤ values.size), given = some values →
      next ⟨values, required, within⟩ = found ((plain values).map image)) :
    require buffer required given >>= next =
      found ((buffer.require required given >>= plain).map image) := by
  cases given with
  | none => rfl
  | some values =>
      unfold require Buffer.require
      dsimp only
      split
      · rfl
      · rename_i enough
        rw [Slice.of?_eq (Nat.not_lt.1 enough)]
        exact later values (Nat.not_lt.1 enough) rfl

end

theorem layout_eq {rank : Nat} {lengths : List Int} (whole : lengths.length = rank)
    (few : rank ≤ Shape.maxRank) :
    layout rank lengths = found ((Call.shape? lengths).map (·.map Layout.ofShape)) := by
  unfold layout
  split
  · rename_i found
    rw [Call.shape?_of_negative found]
    rfl
  · rename_i unfound
    have nonneg := Call.nonneg_of_find?_eq_none unfound
    rw [Call.shape?_of_nonneg nonneg]
    split
    · rfl
    rw [Call.convert_eq nonneg, MonadExcept.ofExcept, pure_bind]
    have all : (lengths.map (·.toNat)).take Shape.maxRank = lengths.map (·.toNat) :=
      List.take_of_length_le (by rwa [List.length_map, whole])
    have count : (lengths.map (·.toNat)).length = rank := by rw [List.length_map, whole]
    have slots : slice? (slotsOf ((lengths.map (·.toNat)).take Shape.maxRank)) rank =
        some (lengths.map (·.toNat)) := by
      rw [all, ← count]
      exact slice?_slotsOf _
    dsimp only
    rw [slots, liftM_bind, Layout.measure_eq]
    cases Shape.ofLengths (lengths.map (·.toNat)) with
    | error fault => rfl
    | ok shape => rfl

theorem table_eq (call : Call α) (shape : Shape) :
    table call (.ofShape shape) = found ((call.table shape).map .ofAdmission) := by
  refine bind_require fun weights _ _ => ?_
  refine bind_require fun scores _ _ => ?_
  exact bind_require fun impurities _ _ => rfl

theorem admission_eq (call : Call α) :
    admission call = found (call.admission.map .ofAdmission) := by
  unfold admission Call.admission
  split
  · rfl
  split
  · rfl
  split
  · rfl
  rename_i low
  refine bind_require fun lengths enough _ => ?_
  have whole : (lengths.toList.take call.dimensionCount.toNat).length =
      call.dimensionCount.toNat := by
    rw [List.length_take, Array.length_toList, Nat.min_eq_left enough]
  refine bind_found (layout_eq whole (by omega)) fun shape _ => ?_
  cases shape with
  | none => rfl
  | some shape => exact table_eq call shape

theorem purify_eq [Scalar α] (fuel : Nat) (limit : Option Nat) (call : Call α) :
    purify fuel limit call = some (call.purify fuel limit) := by
  unfold purify Call.purify
  rw [admission_eq]
  cases admitted : call.admission with
  | error fault => rfl
  | ok admission =>
      cases admission with
      | zeroDimensions => rfl
      | emptyTensor => rfl
      | table shape weights field =>
          have admits := Call.admits_of_admission admitted
          change (run fuel (.ofShape shape) call.tolerance limit weights field
            (call.intercept.map fun _ => 0)).bind _ = _
          rw [run_eq admits.weights_le admits.covers]
          dsimp only
          cases Sweep.run fuel shape call.tolerance limit weights field
              (call.intercept.map fun _ => 0) with
          | none => rfl
          | some swept => rfl

/-- What is asked of the layout of a shape never fails, whatever the arguments. A cursor through
    its lines is asked wherever it can come to stand, and a line for its cells if it is one of
    the shape. -/
structure Safe (s : Shape) : Prop where
  linesAlong : ∀ d, (Layout.ofShape s).linesAlong d = some (s.linesAlong d)
  offset : ∀ d, (Layout.ofShape s).offset d = some (s.offset d)
  encode : ∀ coords, (Layout.ofShape s).encode coords = some (s.encode coords)
  decode : ∀ cell buffer,
    (Layout.ofShape s).decodeInto cell buffer = some (s.decodeInto cell buffer)
  line : ∀ i, (Layout.ofShape s).line i = some (s.line? i)
  lineAlong : ∀ d i, (Layout.ofShape s).lineAlong d i = some (s.lineAlong? d i)
  surfaceIndex : ∀ d coords,
    (Layout.ofShape s).surfaceIndex d coords = some (s.surfaceIndex? d coords)
  next : ∀ k, let c := (({} : Shape.LineCursor).take s k).2
    (Layout.ofShape s).next c = some (c.next s) ∧
      (Layout.ofShape s).remaining c = some (c.remaining s)
  cells : ∀ i line, s.line? i = some line → Layout.cells line = some line.cells

theorem safe (s : Shape) : Safe s where
  linesAlong := Layout.linesAlong_eq s
  offset := Layout.offset_eq s
  encode := Layout.encode_eq s
  decode := Layout.decodeInto_eq s
  line := Layout.line_eq s
  lineAlong := Layout.lineAlong_eq s
  surfaceIndex := Layout.surfaceIndex_eq s
  next k :=
    have stands := ((Shape.LineCursor.At.start s).take k).2
    ⟨Layout.next_eq stands, Layout.remaining_eq stands⟩
  cells _ _ decoded := Layout.cells_eq (Shape.line?_eq_some_iff.1 decoded)

/-- No call, no list of lengths and no use of a shape leads to a number without a word, to a
    division by zero, or out of a slice: each guarded computation is the plain one. -/
theorem never_fails [Scalar α] :
    (∀ (fuel : Nat) (limit : Option Nat) (call : Call α),
      purify fuel limit call = some (call.purify fuel limit)) ∧
    (∀ lengths, Layout.measure lengths = some ((Shape.ofLengths lengths).map Layout.ofShape)) ∧
    ∀ s : Shape, Safe s :=
  ⟨purify_eq, Layout.measure_eq, safe⟩

end Guarded

end Purification
