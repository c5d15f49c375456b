import Purification.Proofs.Shape.Moves

/-! # The numbering of lines

A line is found in three ways: by going through all lines in order, by taking whole blocks off
its number, and by its number within its block. They agree, and the numbers are exactly those
below the line count. The other way round, coordinates and a dimension name the line through
their cell, on which the cell has the place of its coordinate along that dimension.
-/

namespace Purification.Shape

/-! ## By blocks -/

theorem locate?_eq_some_iff {cells i d r : Nat} {lengths : List Nat} :
    locate? cells lengths i = some (d, r) ↔
      ∃ l, lengths[d]? = some l ∧ r < cells / l ∧
        i = total ((lengths.take d).map (cells / ·)) + r := by
  induction lengths generalizing i d with
  | nil => simp [locate?]
  | cons l ls ih =>
      rw [locate?]
      split
      · rename_i inside
        constructor
        · intro h
          cases h
          exact ⟨l, rfl, inside, by simp⟩
        · rintro ⟨l', there, hr, rfl⟩
          cases d with
          | zero => simp
          | succ d =>
              simp only [List.take_succ_cons, List.map_cons, total_cons] at inside
              omega
      · rename_i beyond
        cases d with
        | zero =>
            constructor
            · intro h
              obtain ⟨_, _, same⟩ := Option.map_eq_some_iff.1 h
              cases same
            · rintro ⟨l', there, hr, rfl⟩
              cases there
              exact absurd (by simpa using hr) beyond
        | succ d =>
            rw [Option.map_eq_some_iff]
            simp only [List.getElem?_cons_succ, List.take_succ_cons, List.map_cons, total_cons]
            constructor
            · rintro ⟨⟨d', r'⟩, located, same⟩
              obtain ⟨rfl, rfl⟩ : d' = d ∧ r' = r := by simpa using same
              obtain ⟨l', there, hr, number⟩ := ih.1 located
              exact ⟨l', there, hr, by omega⟩
            · rintro ⟨l', there, hr, number⟩
              exact ⟨(d, r), ih.2 ⟨l', there, hr, by omega⟩, rfl⟩

variable {s : Shape} {d i : Nat} {line : Line}

theorem lineAlong?_eq_some_iff :
    s.lineAlong? d i = some line ↔ i < s.linesAlong d ∧ line = s.lineAt d i := by
  unfold lineAlong?
  split
  · rename_i inside
    simp [inside, eq_comm]
  · rename_i beyond
    simp [beyond]

theorem linesAlong_of_getElem? {l : Nat} (h : s.lengths[d]? = some l) :
    s.linesAlong d = s.cellCount / l := by
  simp [linesAlong, h]

/-- Taking whole blocks off a number leads to the line that is listed with it. -/
theorem line?_eq_some_iff : s.line? i = some line ↔ (i, line) ∈ s.lines := by
  rw [mem_lines_iff, line?, Option.bind_eq_bind, Option.bind_eq_some_iff]
  constructor
  · rintro ⟨⟨d, r⟩, located, along⟩
    obtain ⟨l, there, -, rfl⟩ := locate?_eq_some_iff.1 located
    obtain ⟨inside, rfl⟩ := lineAlong?_eq_some_iff.1 along
    exact ⟨d, (List.getElem?_eq_some_iff.1 there).1, r, inside, rfl, rfl⟩
  · rintro ⟨d, hd, r, inside, rfl, rfl⟩
    have there := getElem?_lengths hd
    refine ⟨(d, r), locate?_eq_some_iff.2 ⟨_, there, ?_, rfl⟩,
      lineAlong?_eq_some_iff.2 ⟨inside, rfl⟩⟩
    rwa [← linesAlong_of_getElem? there]

/-! ## In order -/

theorem map_fst_flatMap_linesOf {n : Nat} (hn : n ≤ s.rank) :
    ((List.range n).flatMap s.linesOf).map (·.1) = List.range (s.offset n) := by
  induction n with
  | zero => simp [offset]
  | succ n ih =>
      rw [flatMap_linesOf_succ, List.map_append, ih (Nat.le_of_succ_le hn), offset_succ hn,
        List.range_add]
      simp [linesOf, Function.comp_def]

theorem map_fst_lines : s.lines.map (·.1) = List.range s.lineCount := by
  rw [lines, map_fst_flatMap_linesOf (Nat.le_refl _), offset_rank]

theorem nodup_map_fst_lines : (s.lines.map (·.1)).Nodup := map_fst_lines ▸ List.nodup_range

theorem length_lines : s.lines.length = s.lineCount := by
  rw [← List.length_map, map_fst_lines, List.length_range]

theorem getElem?_lines_eq_some {place : Nat} {item : Nat × Line}
    (h : s.lines[place]? = some item) : item.1 = place := by
  have number : (s.lines.map (·.1))[place]? = some item.1 := by rw [List.getElem?_map, h]; rfl
  rw [map_fst_lines] at number
  obtain ⟨inside, same⟩ := List.getElem?_eq_some_iff.1 number
  rw [← same, List.getElem_range]

theorem getElem?_lines : s.lines[i]? = (s.line? i).map (i, ·) := by
  ext item
  rw [Option.map_eq_some_iff]
  constructor
  · intro listed
    cases getElem?_lines_eq_some listed
    exact ⟨item.2, line?_eq_some_iff.2 (List.mem_of_getElem? listed), rfl⟩
  · rintro ⟨line, decoded, rfl⟩
    obtain ⟨place, listed⟩ := List.mem_iff_getElem?.1 (line?_eq_some_iff.1 decoded)
    cases getElem?_lines_eq_some listed
    exact listed

theorem getElem?_lines_offset (hd : d < s.rank) (inside : i < s.linesAlong d) :
    s.lines[s.offset d + i]? = some (s.offset d + i, s.lineAt d i) := by
  rw [getElem?_lines, line?_eq_some_iff.2 (mem_lines_iff.2 ⟨d, hd, i, inside, rfl, rfl⟩),
    Option.map_some]

theorem line?_eq_none (beyond : s.lineCount ≤ i) : s.line? i = none := by
  have past : s.lines[i]? = none := by rwa [List.getElem?_eq_none_iff, length_lines]
  rwa [getElem?_lines, Option.map_eq_none_iff] at past

theorem exists_line (inside : i < s.lineCount) : ∃ line, s.line? i = some line := by
  rw [← length_lines] at inside
  have listed := List.getElem?_eq_getElem inside
  rw [getElem?_lines] at listed
  obtain ⟨line, decoded, -⟩ := Option.map_eq_some_iff.1 listed
  exact ⟨line, decoded⟩

/-! ## One after the other -/

@[simp] theorem linesAlong_rank : s.linesAlong s.rank = 0 := by simp [linesAlong, rank]

namespace LineCursor

/-- The cursor stands before line `n`. -/
structure At (s : Shape) (n : Nat) (c : LineCursor) : Prop where
  slot_eq : c.slot = n
  dimension_le : c.dimension ≤ s.rank
  surface_le : c.surface ≤ s.linesAlong c.dimension
  number_eq : s.offset c.dimension + c.surface = n

variable {n : Nat} {c : LineCursor}

theorem At.start (s : Shape) : At s 0 {} where
  slot_eq := rfl
  dimension_le := Nat.zero_le _
  surface_le := Nat.zero_le _
  number_eq := by simp [offset]

theorem At.remaining_eq (h : At s n c) : c.remaining s = s.lineCount - n := by
  rw [remaining, h.slot_eq]

theorem At.nextBlock (h : At s n c) (inside : c.dimension < s.rank)
    (past : s.lineAlong? c.dimension c.surface = none) :
    At s n { c with dimension := c.dimension + 1, surface := 0 } where
  slot_eq := h.slot_eq
  dimension_le := inside
  surface_le := Nat.zero_le _
  number_eq := by
    have atEnd : s.linesAlong c.dimension ≤ c.surface := by simpa [lineAlong?] using past
    calc s.offset (c.dimension + 1) + 0
        = s.offset c.dimension + s.linesAlong c.dimension := offset_succ inside
      _ = s.offset c.dimension + c.surface := by rw [Nat.le_antisymm atEnd h.surface_le]
      _ = n := h.number_eq

theorem At.beyond (s : Shape) : At s s.lineCount ⟨s.rank, 0, s.lineCount⟩ where
  slot_eq := rfl
  dimension_le := Nat.le_refl _
  surface_le := Nat.zero_le _
  number_eq := offset_rank

/-- One step: before a line it yields that line and stands before the next one, and after the
    last line it yields nothing and stands beyond the last block. -/
theorem At.next (h : At s n c) :
    (c.next s = (none, ⟨s.rank, 0, s.lineCount⟩) ∧ n = s.lineCount) ∨
      ∃ line c', c.next s = (some (n, line), c') ∧ s.line? n = some line ∧ At s (n + 1) c' := by
  fun_induction LineCursor.next s c with
  | case1 c inside line along =>
      obtain ⟨within, rfl⟩ := lineAlong?_eq_some_iff.1 along
      have listed : (n, s.lineAt c.dimension c.surface) ∈ s.lines :=
        mem_lines_iff.2 ⟨c.dimension, inside, c.surface, within, h.number_eq.symm, rfl⟩
      refine .inr ⟨_, _, by rw [h.slot_eq], line?_eq_some_iff.2 listed, ?_⟩
      exact ⟨rfl, h.dimension_le, within, congrArg (· + 1) h.number_eq⟩
  | case2 c inside past ih =>
      -- the cursor has moved, but it still stands before the same line
      exact ih (h.nextBlock inside past)
  | case3 c outside =>
      have whole : c.dimension = s.rank := Nat.le_antisymm h.dimension_le (Nat.not_lt.1 outside)
      have first : c.surface = 0 := by
        have bound := h.surface_le
        rw [whole, linesAlong_rank] at bound
        exact Nat.le_zero.1 bound
      have done : n = s.lineCount := by rw [← h.number_eq, whole, first, offset_rank, Nat.add_zero]
      obtain ⟨dimension, surface, slot⟩ := c
      exact .inl ⟨by rw [← done, ← whole, ← first, ← h.slot_eq], done⟩

theorem At.le (h : At s n c) : n ≤ s.lineCount := by
  rw [← h.number_eq]
  rcases Nat.lt_or_eq_of_le h.dimension_le with inside | whole
  · calc s.offset c.dimension + c.surface
        ≤ s.offset c.dimension + s.linesAlong c.dimension := Nat.add_le_add_left h.surface_le _
      _ = s.offset (c.dimension + 1) := (offset_succ inside).symm
      _ ≤ s.offset s.rank := offset_mono inside (Nat.le_refl _)
      _ = s.lineCount := offset_rank
  · have first := h.surface_le
    rw [whole, linesAlong_rank, Nat.le_zero] at first
    exact Nat.le_of_eq (by rw [first, whole, offset_rank, Nat.add_zero])

theorem At.take (h : At s n c) (k : Nat) :
    (c.take s k).1 = (s.lines.drop n).take k ∧ At s (min (n + k) s.lineCount) (c.take s k).2 := by
  induction k generalizing n c with
  | zero =>
      refine ⟨by simp [LineCursor.take], ?_⟩
      rwa [Nat.add_zero, Nat.min_eq_left h.le]
  | succ k ih =>
      rcases h.next with ⟨step, rfl⟩ | ⟨line, c', step, decoded, later⟩
      · have empty : s.lines.drop s.lineCount = [] := by rw [← length_lines, List.drop_length]
        obtain ⟨items, last⟩ := ih (At.beyond s)
        simp only [LineCursor.take, step, items, empty, List.take_nil, Option.toList_none,
          List.append_nil, true_and]
        rwa [Nat.min_eq_right (Nat.le_add_right _ _)] at last ⊢
      · have listed : s.lines[n]? = some (n, line) := by rw [getElem?_lines, decoded]; rfl
        obtain ⟨within, same⟩ := List.getElem?_eq_some_iff.1 listed
        obtain ⟨items, last⟩ := ih later
        simp only [LineCursor.take, step]
        refine ⟨?_, ?_⟩
        · rw [items, List.drop_eq_getElem_cons within, same, List.take_succ_cons]
          rfl
        · rwa [Nat.add_right_comm, Nat.add_assoc] at last

theorem At.take_beyond (h : At s n c) {k : Nat} (many : s.lineCount < n + k) :
    (c.take s k).2 = ⟨s.rank, 0, s.lineCount⟩ := by
  induction k generalizing n c with
  | zero => exact absurd h.le (by omega)
  | succ k ih =>
      simp only [LineCursor.take]
      rcases h.next with ⟨step, rfl⟩ | ⟨line, c', step, -, later⟩
      · rw [step]
        cases k with
        | zero => rfl
        | succ k => exact ih (At.beyond s) (by omega)
      · rw [step]
        exact ih later (by omega)

/-- What a cursor has still to yield: these lines with their numbers, and as many of them as it
    says there are. -/
structure Yields (s : Shape) (c : LineCursor) (items : List (Nat × Line)) : Prop where
  next : (c.next s).1 = items.head?
  take : ∀ k, (c.take s k).1 = items.take k
  remaining : c.remaining s = items.length

theorem At.yields (h : At s n c) : c.Yields s (s.lines.drop n) where
  next := by
    rw [List.head?_drop, getElem?_lines]
    rcases h.next with ⟨step, rfl⟩ | ⟨line, c', step, decoded, -⟩
    · rw [step, line?_eq_none (Nat.le_refl _)]
      rfl
    · rw [step, decoded]
      rfl
  take k := (h.take k).1
  remaining := by rw [h.remaining_eq, List.length_drop, length_lines]

end LineCursor

/-! ## By coordinates -/

@[simp] theorem dimension_lineAt : (s.lineAt d i).dimension = d := rfl

theorem start_lineAt :
    (s.lineAt d i).start = i % s.stride d + i / s.stride d * (s.stride d * s.axis d) := rfl

theorem getElem?_cells_lineAt_surface {cell : Nat} :
    (s.lineAt d (s.surface d cell)).cells[s.coordinate d cell]? = some cell := by
  rw [cells_lineAt_surface, List.getElem?_map, List.getElem?_range coordinate_lt, Option.map_some,
    moved_coordinate]

/-- Line `i` in order, by blocks and within its block, and what leads back to `i`. -/
structure Numbered (s : Shape) (i : Nat) (line : Line) : Prop where
  listed : s.lines[i]? = some (i, line)
  decoded : s.line? i = some line
  offset_le : s.offset line.dimension ≤ i
  along : s.lineAlong? line.dimension (i - s.offset line.dimension) = some line
  /-- The other coordinates of the line are the digits of its number within the block. -/
  start : s.decode line.start =
    some ((coordsOfCell (s.lengths.eraseIdx line.dimension)
      (i - s.offset line.dimension)).insertIdx line.dimension 0)
  named : ∀ cell ∈ line.cells, cell < s.cellCount ∧
    ∃ coords, s.decode cell = some coords ∧ s.surfaceIndex? line.dimension coords = some i

/-- Line `i` runs along dimension `d` through the cell at these coordinates. -/
structure Through (s : Shape) (d : Nat) (coords : List Nat) (i : Nat) (line : Line) : Prop where
  named : s.surfaceIndex? d coords = some i
  decoded : s.line? i = some line
  dimension_eq : line.dimension = d
  place : ∃ k cell, coords[d]? = some k ∧ s.encode coords = some cell ∧ line.cells[k]? = some cell
  /-- The number within the block is what the other coordinates stand for. -/
  others : cellOfCoords (s.lengths.eraseIdx d) (coords.eraseIdx d) = some (i - s.offset d)

theorem numbered_of_line? (decoded : s.line? i = some line) : s.Numbered i line := by
  have member := line?_eq_some_iff.1 decoded
  obtain ⟨d, hd, r, inside, rfl, rfl⟩ := mem_lines_iff.1 member
  have within : s.offset d + r - s.offset d = r := Nat.add_sub_cancel_left _ _
  constructor
  · rw [getElem?_lines, decoded]
    rfl
  · exact decoded
  · exact Nat.le_add_right _ _
  · rw [dimension_lineAt, within]
    exact lineAlong?_eq_some_iff.2 ⟨inside, rfl⟩
  · rw [decode_eq (cell_lt_of_mem_lines member start_mem), dimension_lineAt, within]
    exact congrArg some (coordsOfCell_first s.representable.length_pos (getElem?_lengths hd) r)
  · intro cell on
    have bound := cell_lt_of_mem_lines member on
    refine ⟨bound, _, decode_eq bound, ?_⟩
    have back := (slot_eq_iff member hd bound).2 ⟨rfl, on⟩
    rw [dimension_lineAt, surfaceIndex?_coordsOfCell hd bound, back]

theorem exists_through (hd : d < s.rank) {coords : List Nat}
    (within : List.Forall₂ (· < ·) coords s.lengths) : ∃ i line, s.Through d coords i line := by
  obtain ⟨cell, encoded⟩ := exists_cellOfCoords within
  obtain ⟨bound, rfl⟩ := of_cellOfCoords encoded
  refine ⟨s.slot d cell, s.lineAt d (s.surface d cell), ?_⟩
  constructor
  · exact surfaceIndex?_coordsOfCell hd bound
  · exact line?_eq_some_iff.2 (slot_mem_lines hd bound)
  · rfl
  · exact ⟨_, cell, getElem?_coords hd, encoded, getElem?_cells_lineAt_surface⟩
  · rw [slot_sub_offset]
    exact cellOfCoords_eraseIdx d bound

/-! ## The lines of one dimension -/

theorem nodup_cells_linesOf : ((s.linesOf d).flatMap (·.2.cells)).Nodup := by
  rw [linesOf, List.flatMap_map, List.nodup_flatMap]
  refine ⟨fun r _ => cells_lineAt_nodup, List.nodup_range.imp fun {r r'} differ cell on on' => ?_⟩
  exact differ ((surface_of_mem on).symm.trans (surface_of_mem on'))

/-- Strung together, the lines along a dimension are the cells in another order. -/
theorem cells_linesOf_perm (hd : d < s.rank) :
    ((s.linesOf d).flatMap (·.2.cells)).Perm (List.range s.cellCount) := by
  rw [List.perm_ext_iff_of_nodup nodup_cells_linesOf List.nodup_range]
  intro cell
  simp only [linesOf, List.flatMap_map, List.mem_flatMap, List.mem_range, mem_lineAt_iff]
  rw [← surface_lt_iff hd]
  constructor
  · rintro ⟨r, inside, rfl⟩
    exact inside
  · intro inside
    exact ⟨_, inside, rfl⟩

theorem existsUnique_line (hd : d < s.rank) {cell : Nat} (bound : cell < s.cellCount) :
    ∃! i, ∃ line, s.line? i = some line ∧ line.dimension = d ∧ cell ∈ line.cells := by
  refine ⟨s.slot d cell, ⟨s.lineAt d (s.surface d cell),
    line?_eq_some_iff.2 (slot_mem_lines hd bound), rfl, mem_lineAt_surface⟩, ?_⟩
  -- any other line along the same dimension with the cell on it has the same slot
  rintro i ⟨line, decoded, rfl, on⟩
  exact ((slot_eq_iff (line?_eq_some_iff.1 decoded) hd bound).2 ⟨rfl, on⟩).symm

/-- The lines of every shape are numbered from 0 to the line count, one line to a number. Going
    through them in order, taking blocks off the number and decoding the number within the block
    give the same line; its cells lead back to its number, and the coordinates of any cell to the
    line through it. A cursor that was stepped beyond the last line yields nothing ever after.
    Each dimension's lines have every cell on exactly one of them. -/
theorem lines_numbered (s : Shape) :
    s.lines.length = s.lineCount ∧
    (∀ i < s.lineCount, ∃ line, s.Numbered i line) ∧
    (∀ i, s.lineCount ≤ i → s.line? i = none) ∧
    (∀ n, (LineCursor.take s {} n).1 = s.lines.take n ∧
      (LineCursor.take s {} n).2.Yields s (s.lines.drop n)) ∧
    (∀ n, s.lineCount < n → (LineCursor.take s {} n).2 = ⟨s.rank, 0, s.lineCount⟩) ∧
    ∀ d < s.rank,
      (∀ coords, List.Forall₂ (· < ·) coords s.lengths → ∃ i line, s.Through d coords i line) ∧
      ((s.linesOf d).flatMap (·.2.cells)).Perm (List.range s.cellCount) ∧
      ∀ cell < s.cellCount,
        ∃! i, ∃ line, s.line? i = some line ∧ line.dimension = d ∧ cell ∈ line.cells := by
  refine ⟨length_lines, ?_, fun i => line?_eq_none, ?_, ?_, fun d hd => ⟨?_, ?_, ?_⟩⟩
  · intro i inside
    obtain ⟨line, decoded⟩ := exists_line inside
    exact ⟨line, numbered_of_line? decoded⟩
  · intro n
    obtain ⟨items, last⟩ := (LineCursor.At.start s).take n
    refine ⟨items, ?_⟩
    have := last.yields
    rwa [Nat.zero_add, ← length_lines, ← List.drop_eq_drop_min] at this
  · intro n many
    exact (LineCursor.At.start s).take_beyond (by omega)
  · exact fun coords => exists_through hd
  · exact cells_linesOf_perm hd
  · exact fun cell => existsUnique_line hd

/-- A shape with a dimension of length 1 in the middle. -/
def slab : Shape := ⟨[2, 1, 3], representable_of_fault?_eq_none (by decide)⟩

/-- Its last line, the number after it, a cursor that has passed two lines, and cell 5. -/
theorem lines_numbered_slab :
    (∃ line, slab.Numbered 10 line ∧ line = ⟨2, 1, 2, 3⟩) ∧
    slab.line? 11 = none ∧
    (LineCursor.take slab {} 2).2.Yields slab (slab.lines.drop 2) ∧
    (∃ i line, slab.Through 0 [1, 0, 2] i line ∧ i = 2) ∧
    ∃! i, ∃ line, slab.line? i = some line ∧ line.dimension = 1 ∧ 5 ∈ line.cells := by
  obtain ⟨-, numbered, beyond, steps, -, along⟩ := lines_numbered slab
  refine ⟨?_, beyond 11 (by decide), (steps 2).2, ?_, (along 1 (by decide)).2.2 5 (by decide)⟩
  · obtain ⟨line, last⟩ := numbered 10 (by decide)
    have decoded : slab.line? 10 = some ⟨2, 1, 2, 3⟩ := by decide
    exact ⟨line, last, Option.some.inj (last.decoded.symm.trans decoded)⟩
  · obtain ⟨i, line, through⟩ := (along 0 (by decide)).1 [1, 0, 2] (by decide)
    have named : slab.surfaceIndex? 0 [1, 0, 2] = some 2 := by decide
    exact ⟨i, line, through, Option.some.inj (through.named.symm.trans named)⟩

end Purification.Shape
