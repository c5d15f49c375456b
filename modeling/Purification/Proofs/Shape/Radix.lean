import Purification.Shape.Line

/-! # Strides and mixed-radix numbers

The stride of a dimension is the product of the lengths before it, so a cell splits
into what the lower dimensions say, one coordinate, and what the higher ones say.
Decoding a cell and encoding its coordinates again gives the cell back.
-/

namespace Purification.Shape

theorem product_append (ms ns : List Nat) : product (ms ++ ns) = product ms * product ns := by
  induction ms with
  | nil => simp
  | cons m ms ih => simp [ih, Nat.mul_assoc]

theorem total_append (ms ns : List Nat) : total (ms ++ ns) = total ms + total ns := by
  induction ms with
  | nil => simp
  | cons m ms ih => simp [ih, Nat.add_assoc]

theorem product_pos {ns : List Nat} (positive : ∀ n ∈ ns, 0 < n) : 0 < product ns := by
  induction ns with
  | nil => simp
  | cons n ns ih =>
      have tail := ih fun m hm => positive m (List.mem_cons_of_mem n hm)
      exact Nat.mul_pos (positive n List.mem_cons_self) tail

theorem cellOfCoords_coordsOfCell {lengths : List Nat} {cell : Nat}
    (bound : cell < product lengths) :
    cellOfCoords lengths (coordsOfCell lengths cell) = some cell := by
  induction lengths generalizing cell with
  | nil =>
      have : cell = 0 := by simpa using bound
      simp [this, coordsOfCell, cellOfCoords]
  | cons l ls ih =>
      rw [product_cons] at bound
      have positive : 0 < l := Nat.pos_of_mul_pos_right (Nat.zero_lt_of_lt bound)
      have rest := ih (Nat.div_lt_of_lt_mul bound)
      simp [coordsOfCell, cellOfCoords, Nat.mod_lt cell positive, rest, Nat.mod_add_div]

section

variable (s : Shape) (d : Nat)

/-- The length of dimension `d`, and 1 for a dimension the shape does not have. -/
def axis : Nat := s.lengths.getD d 1

/-- The number of settings of the dimensions above `d`. -/
def span : Nat := product (s.lengths.drop (d + 1))

theorem stride_pos : 0 < s.stride d :=
  product_pos fun l hl => s.representable.length_pos l (List.mem_of_mem_take hl)

theorem axis_pos : 0 < s.axis d := by
  unfold axis
  cases h : s.lengths[d]? with
  | none => simp [h]
  | some l => simpa [h] using s.representable.length_pos l (List.mem_of_getElem? h)

theorem stride_succ : s.stride (d + 1) = s.stride d * s.axis d := by
  unfold stride axis
  rw [List.take_add_one, product_append]
  cases h : s.lengths[d]? with
  | none => simp [h]
  | some l => simp [h]

theorem cellCount_eq : s.cellCount = s.stride (d + 1) * s.span d := by
  rw [cellCount, stride, span, ← product_append, List.take_append_drop]

theorem cellCount_pos : 0 < s.cellCount := product_pos s.representable.length_pos

end

variable {s : Shape} {d cell : Nat}

theorem getElem?_lengths (hd : d < s.rank) : s.lengths[d]? = some (s.axis d) := by
  rw [List.getElem?_eq_getElem hd, axis, List.getD_eq_getElem?_getD, List.getElem?_eq_getElem hd,
    Option.getD_some]

theorem linesAlong_eq (hd : d < s.rank) : s.linesAlong d = s.stride d * s.span d := by
  simp only [linesAlong, getElem?_lengths hd]
  rw [cellCount_eq s d, stride_succ, Nat.mul_right_comm]
  exact Nat.mul_div_cancel _ (s.axis_pos d)

theorem lt_rank_of_lt_linesAlong {i : Nat} (h : i < s.linesAlong d) : d < s.rank := by
  apply Nat.lt_of_not_le
  intro beyond
  rw [linesAlong, List.getElem?_eq_none beyond] at h
  exact absurd h (Nat.not_lt_zero i)

theorem offset_succ (hd : d < s.rank) : s.offset (d + 1) = s.offset d + s.linesAlong d := by
  simp only [offset, linesAlong, List.take_add_one, getElem?_lengths hd, List.map_append,
    total_append]
  simp

theorem offset_rank : s.offset s.rank = s.lineCount := by
  rw [offset, rank, List.take_length]
  rfl

theorem offset_mono {d' : Nat} (h : d ≤ d') (hd : d' ≤ s.rank) : s.offset d ≤ s.offset d' := by
  induction h with
  | refl => exact Nat.le_refl _
  | step h ih =>
      rw [Nat.succ_eq_add_one, offset_succ hd]
      exact Nat.le_trans (ih (Nat.le_of_succ_le hd)) (Nat.le_add_right _ _)

theorem decode_eq (bound : cell < s.cellCount) :
    s.decode cell = some (coordsOfCell s.lengths cell) := if_pos bound

theorem encode_coordsOfCell (bound : cell < s.cellCount) :
    s.encode (coordsOfCell s.lengths cell) = some cell := cellOfCoords_coordsOfCell bound

end Purification.Shape
