import Purification.Guarded.Layout
import Purification.Proofs.Shape.Overflow

/-! # The guarded layout of a shape

That no guard is ever hit is shown by proving that a guarded computation is `some` of the plain
one. Here it is shown of the measures of a shape: products and sums without a word are the faults
that the plain scan reports, and every other result has one.
-/

namespace Purification

namespace Word

variable {a b : Nat}

theorem add?_eq (h : a + b < wordBound) : add? a b = some (a + b) := if_pos h

theorem add?_eq_none (h : wordBound ≤ a + b) : add? a b = none := if_neg (Nat.not_lt.2 h)

theorem mul?_eq (h : a * b < wordBound) : mul? a b = some (a * b) := if_pos h

theorem mul?_eq_none (h : wordBound ≤ a * b) : mul? a b = none := if_neg (Nat.not_lt.2 h)

theorem sub?_eq (h : b ≤ a) : sub? a b = some (a - b) := if_pos h

theorem div?_eq (h : 0 < b) : div? a b = some (a / b) := if_neg (Nat.ne_of_gt h)

theorem mod?_eq (h : 0 < b) : mod? a b = some (a % b) := if_neg (Nat.ne_of_gt h)

/-- If a digit put above a number comes to a word, so does what the digit stands for. -/
theorem bind_mul?_add? {β : Type} {low digit radix : Nat} (h : low + digit * radix < wordBound)
    (next : Nat → Option β) :
    ((mul? digit radix).bind fun step => (add? low step).bind next) =
      next (low + digit * radix) := by
  have step : digit * radix < wordBound := Nat.lt_of_le_of_lt (Nat.le_add_left _ _) h
  rw [mul?_eq step, Option.bind_some, add?_eq h, Option.bind_some]

end Word

/-! ## Slots -/

theorem put?_slotsOf {values : List Nat} (room : values.length < Shape.maxRank) (value : Nat) :
    put? (slotsOf values) values.length value = some (slotsOf (values ++ [value])) := by
  obtain ⟨k, hk⟩ : ∃ k, Shape.maxRank - values.length = k + 1 :=
    ⟨Shape.maxRank - values.length - 1, by omega⟩
  have rest : Shape.maxRank - (values ++ [value]).length = k := by
    rw [List.length_append, List.length_singleton]
    omega
  rw [put?, slotsOf, slotsOf, rest, hk, if_pos (by simp), List.set_append_right _ _ (Nat.le_refl _),
    Nat.sub_self, List.replicate_succ, List.set_cons_zero, List.append_assoc]
  rfl

theorem getElem?_slotsOf {values : List Nat} {i : Nat} (inside : i < values.length) :
    (slotsOf values)[i]? = values[i]? := List.getElem?_append_left inside

theorem slice?_slotsOf (values : List Nat) :
    slice? (slotsOf values) values.length = some values := by
  have inside : values.length ≤ (slotsOf values).length := by simp [slotsOf]
  rw [slice?, if_pos inside, slotsOf, List.take_left]

/-! ## The layout of a shape -/

namespace Layout

@[simp] theorem length_stridesOf (lengths : List Nat) :
    (stridesOf lengths).length = lengths.length := by simp [stridesOf]

@[simp] theorem length_offsetsOf (cells : Nat) (lengths : List Nat) :
    (offsetsOf cells lengths).length = lengths.length := by simp [offsetsOf]

theorem map_range_append {β : Type} (f : List Nat → β) (before : List Nat) (l : Nat) :
    ((List.range (before ++ [l]).length).map fun d => f ((before ++ [l]).take d)) =
      ((List.range before.length).map fun d => f (before.take d)) ++ [f before] := by
  rw [List.length_append, List.length_singleton, List.range_succ, List.map_append,
    List.map_singleton, List.take_left]
  congr 1
  apply List.map_congr_left
  intro d hd
  rw [List.take_append_of_le_length (Nat.le_of_lt (List.mem_range.1 hd))]

theorem stridesOf_append (before : List Nat) (l : Nat) :
    stridesOf (before ++ [l]) = stridesOf before ++ [Shape.product before] :=
  map_range_append _ before l

theorem offsetsOf_append (cells : Nat) (before : List Nat) (l : Nat) :
    offsetsOf cells (before ++ [l]) =
      offsetsOf cells before ++ [Shape.total (before.map (cells / ·))] :=
  map_range_append (fun lengths => Shape.total (lengths.map (cells / ·))) before l

/-- Multiplying on the lengths after `before` meets the fault that the plain scan meets. -/
theorem widen_eq {l : Layout} {before after : List Nat}
    (room : before.length + after.length ≤ Shape.maxRank)
    (lengths_eq : l.lengths = slotsOf before) (strides_eq : l.strides = slotsOf (stridesOf before))
    (cellCount_eq : l.cellCount = Shape.product before) :
    l.widen before.length after = some (match Shape.cellFault? before.length l.cellCount after with
      | some fault => .error fault
      | none => .ok { l with
          lengths := slotsOf (before ++ after)
          strides := slotsOf (stridesOf (before ++ after))
          cellCount := Shape.product (before ++ after) }) := by
  induction after generalizing l before with
  | nil =>
      simp only [widen, Shape.cellFault?, List.append_nil, ← lengths_eq, ← strides_eq,
        ← cellCount_eq]
  | cons length after ih =>
      rw [List.length_cons] at room
      have here : before.length < Shape.maxRank := by omega
      have here' : (stridesOf before).length < Shape.maxRank := by simpa using here
      have strides : put? l.strides before.length l.cellCount =
          some (slotsOf (stridesOf (before ++ [length]))) := by
        rw [strides_eq, ← length_stridesOf before, put?_slotsOf here', cellCount_eq,
          stridesOf_append]
      rw [widen, Shape.cellFault?]
      split
      · rfl
      simp only [lengths_eq, put?_slotsOf here, strides, Option.bind_eq_bind, Option.bind_some]
      by_cases beyond : wordBound ≤ l.cellCount * length
      · rw [Word.mul?_eq_none beyond, if_pos beyond]
        rfl
      · rw [Word.mul?_eq (Nat.not_le.1 beyond), if_neg beyond]
        -- the slots written so far are those of a prefix that is longer by this length
        have next := @ih { l with
            lengths := slotsOf (before ++ [length])
            strides := slotsOf (stridesOf (before ++ [length]))
            cellCount := l.cellCount * length } (before ++ [length])
          (by simp only [List.length_append, List.length_singleton]; omega) rfl rfl
          (by simp [Shape.product_append, cellCount_eq])
        simpa only [List.length_append, List.length_singleton, List.append_assoc,
          List.singleton_append] using next

theorem block_eq {l : Layout} {before after : List Nat} (positive : ∀ m ∈ after, 0 < m)
    (room : before.length + after.length ≤ Shape.maxRank)
    (lengths_eq : l.lengths = slotsOf (before ++ after))
    (offsets_eq : l.offsets = slotsOf (offsetsOf l.cellCount before))
    (lineCount_eq : l.lineCount = Shape.total (before.map (l.cellCount / ·))) :
    l.block (List.range' before.length after.length) =
      some (match Shape.lineFault? l.cellCount before.length l.lineCount after with
        | some fault => .error fault
        | none => .ok { l with
            offsets := slotsOf (offsetsOf l.cellCount (before ++ after))
            lineCount := Shape.total ((before ++ after).map (l.cellCount / ·)) }) := by
  induction after generalizing l before with
  | nil =>
      simp only [List.length_nil, List.range'_zero, block, Shape.lineFault?, List.append_nil,
        ← offsets_eq, ← lineCount_eq]
  | cons length after ih =>
      rw [List.length_cons] at room
      have here : (offsetsOf l.cellCount before).length < Shape.maxRank := by
        rw [length_offsetsOf]
        omega
      have offsets : put? l.offsets before.length l.lineCount =
          some (slotsOf (offsetsOf l.cellCount (before ++ [length]))) := by
        rw [offsets_eq, ← length_offsetsOf l.cellCount before, put?_slotsOf here, lineCount_eq,
          offsetsOf_append]
      have read : l.lengths[before.length]? = some length := by
        rw [lengths_eq, getElem?_slotsOf (by simp)]
        simp
      have lines := Word.div?_eq (a := l.cellCount) (positive length List.mem_cons_self)
      rw [List.length_cons, List.range'_succ, block, Shape.lineFault?]
      simp only [offsets, read, lines, Option.bind_eq_bind, Option.bind_some]
      by_cases beyond : wordBound ≤ l.lineCount + l.cellCount / length
      · rw [Word.add?_eq_none beyond, if_pos beyond]
        rfl
      · rw [Word.add?_eq (Nat.not_le.1 beyond), if_neg beyond]
        have next := @ih { l with
            offsets := slotsOf (offsetsOf l.cellCount (before ++ [length]))
            lineCount := l.lineCount + l.cellCount / length } (before ++ [length])
          (fun m member => positive m (List.mem_cons_of_mem _ member))
          (by simp only [List.length_append, List.length_singleton]; omega)
          (by simpa using lengths_eq) rfl
          (by simp [Shape.total_append, lineCount_eq])
        simpa only [List.length_append, List.length_singleton, List.append_assoc,
          List.singleton_append] using next

/-- Measuring lengths never fails, and gives the layout of their shape or its fault. -/
theorem measure_eq (lengths : List Nat) :
    measure lengths = some ((Shape.ofLengths lengths).map ofShape) := by
  by_cases empty : lengths.length = 0
  · have found : Shape.fault? lengths = some .emptyShape := if_pos empty
    rw [measure, if_pos empty, Shape.ofLengths_of_fault? found]
    rfl
  by_cases high : Shape.maxRank < lengths.length
  · have found : Shape.fault? lengths =
        some (.tooManyDimensions lengths.length Shape.maxRank) := by
      rw [Shape.fault?, if_neg empty, if_pos high]
    rw [measure, if_neg empty, if_pos high, Shape.ofLengths_of_fault? found]
    rfl
  have fault : Shape.fault? lengths = (Shape.cellFault? 0 1 lengths).or
      (Shape.lineFault? (Shape.product lengths) 0 0 lengths) := by
    rw [Shape.fault?, if_neg empty, if_neg high]
  have widened := @widen_eq (blank lengths.length) [] lengths (by simpa using Nat.not_lt.1 high)
    rfl rfl rfl
  rw [measure, if_neg empty, if_neg high]
  simp only [List.length_nil] at widened
  rw [widened]
  cases cells : Shape.cellFault? 0 1 lengths with
  | some found =>
      rw [cells] at fault
      rw [Shape.ofLengths_of_fault? fault]
      simp [blank, cells, Except.map]
  | none =>
      rw [cells, Option.none_or] at fault
      have positive := (Shape.of_cellFault?_eq_none (by decide) cells).1
      have blocks := @block_eq { blank lengths.length with
          lengths := slotsOf lengths
          strides := slotsOf (stridesOf lengths)
          cellCount := Shape.product lengths } [] lengths positive
        (by simpa using Nat.not_lt.1 high) rfl rfl rfl
      rw [List.length_nil, ← List.range_eq_range'] at blocks
      simp only [blank, cells, List.nil_append, Option.bind_eq_bind, Option.bind_some] at blocks ⊢
      rw [blocks]
      cases lines : Shape.lineFault? (Shape.product lengths) 0 0 lengths with
      | some found =>
          rw [lines] at fault
          rw [Shape.ofLengths_of_fault? fault]
          rfl
      | none =>
          rw [lines] at fault
          obtain ⟨s, made, rfl⟩ := Shape.exists_ofLengths_of_fault? fault
          rw [made]
          rfl

/-- The cells of this table have a word, but one more of them would not. -/
example : (measure [2, 2 ^ 63 - 1]).map (fun measured => measured.toOption.map fun l =>
    (l.cellCount, l.lineCount)) = some (some (2 ^ 64 - 2, 2 ^ 63 + 1)) := by decide

end Layout

end Purification
