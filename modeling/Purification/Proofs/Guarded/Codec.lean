import Mathlib.Tactic.Ring
import Purification.Proofs.Guarded.Layout
import Purification.Proofs.Shape.Numbering

/-! # Guarded cells, coordinates and lines

The loops that turn coordinates into cells, cells into coordinates, and numbers into lines, over
the slots of a layout. What they add up stays below the stride they have reached, and the last
stride is the number of cells, which has a word.
-/

namespace Purification

/-! ## Strides -/

namespace Shape

variable {s : Shape} {d : Nat}

theorem stride_lt_wordBound (s : Shape) (d : Nat) : s.stride d < wordBound :=
  Nat.lt_of_le_of_lt (product_take_le s.representable.length_pos d) s.representable.cells_lt

theorem drop_lengths (hd : d < s.rank) :
    s.lengths.drop d = s.axis d :: s.lengths.drop (d + 1) := by
  rw [List.drop_eq_getElem_cons hd]
  congr 1
  exact Option.some.inj ((List.getElem?_eq_getElem hd).symm.trans (getElem?_lengths hd))

theorem succ_lt_wordBound (hd : d < s.rank) : d + 1 < wordBound :=
  Nat.lt_of_le_of_lt (Nat.le_trans hd s.representable.rank_le) (by decide)

theorem add_mul_lt {low radix digit length : Nat} (hlow : low < radix) (hdigit : digit < length) :
    low + digit * radix < radix * length := by
  calc low + digit * radix < radix + digit * radix := Nat.add_lt_add_right hlow _
    _ = radix * (digit + 1) := by ring
    _ ≤ radix * length := Nat.mul_le_mul_left radix hdigit

theorem add_mul_stride_lt {low coord : Nat} (hlow : low < s.stride d) (hcoord : coord < s.axis d) :
    low + coord * s.stride d < s.stride (d + 1) := by
  rw [stride_succ]
  exact add_mul_lt hlow hcoord

theorem mul_axis_le {radix : Nat} (within : radix ≤ s.stride d) :
    radix * s.axis d ≤ s.stride (d + 1) := by
  rw [stride_succ]
  exact Nat.mul_le_mul_right _ within

theorem stride_le_succ (s : Shape) (d : Nat) : s.stride d ≤ s.stride (d + 1) := by
  rw [stride_succ]
  exact Nat.le_mul_of_pos_right _ (s.axis_pos d)

end Shape

namespace Layout

variable {s : Shape} {d : Nat}

@[simp] theorem rank_ofShape : (ofShape s).rank = s.rank := rfl

@[simp] theorem cellCount_ofShape : (ofShape s).cellCount = s.cellCount := rfl

@[simp] theorem lineCount_ofShape : (ofShape s).lineCount = s.lineCount := rfl

theorem getElem?_lengths (hd : d < s.rank) : (ofShape s).lengths[d]? = some (s.axis d) := by
  rw [← Shape.getElem?_lengths hd]
  exact getElem?_slotsOf hd

theorem getElem?_strides (hd : d < s.rank) : (ofShape s).strides[d]? = some (s.stride d) := by
  have inside : d < (stridesOf s.lengths).length := by rwa [length_stridesOf]
  refine (getElem?_slotsOf inside).trans ?_
  rw [stridesOf, List.getElem?_map, List.getElem?_range (show d < s.lengths.length from hd)]
  rfl

theorem getElem?_offsets (hd : d < s.rank) : (ofShape s).offsets[d]? = some (s.offset d) := by
  have inside : d < (offsetsOf s.cellCount s.lengths).length := by rwa [length_offsetsOf]
  refine (getElem?_slotsOf inside).trans ?_
  rw [offsetsOf, List.getElem?_map, List.getElem?_range (show d < s.lengths.length from hd)]
  rfl

theorem linesAlong_eq (s : Shape) (d : Nat) : (ofShape s).linesAlong d = some (s.linesAlong d) := by
  unfold linesAlong Shape.linesAlong
  split
  · rename_i beyond
    rw [List.getElem?_eq_none beyond]
  · rename_i inside
    have hd : d < s.rank := Nat.not_le.1 inside
    simp only [getElem?_lengths hd, Shape.getElem?_lengths hd, Option.bind_eq_bind,
      Option.bind_some]
    exact Word.div?_eq (s.axis_pos d)

theorem offset_eq (s : Shape) (d : Nat) : (ofShape s).offset d = some (s.offset d) := by
  unfold offset
  split
  · rename_i beyond
    have all : s.lengths.take d = s.lengths.take s.rank := by
      rw [List.take_of_length_le beyond, Shape.rank, List.take_length]
    rw [Shape.offset, all]
    exact congrArg some Shape.offset_rank.symm
  · rename_i inside
    exact getElem?_offsets (Nat.not_le.1 inside)

/-! ## Coordinates and cells -/

theorem encodeFrom_eq {cell : Nat} {coords : List Nat} (all : d + coords.length = s.rank)
    (low : cell < s.stride d) :
    (ofShape s).encodeFrom d cell coords =
      some ((Shape.cellOfCoords (s.lengths.drop d) coords).map (cell + s.stride d * ·)) := by
  induction coords generalizing d cell with
  | nil =>
      have empty : s.lengths.drop d = [] := List.drop_eq_nil_of_le (Nat.le_of_eq all.symm)
      simp [encodeFrom, empty, Shape.cellOfCoords]
  | cons coord coords ih =>
      rw [List.length_cons] at all
      have hd : d < s.rank := by omega
      rw [encodeFrom, Shape.drop_lengths hd, Shape.cellOfCoords]
      simp only [getElem?_lengths hd, getElem?_strides hd, Option.bind_eq_bind, Option.bind_some]
      by_cases inside : coord < s.axis d
      · -- no sum reaches the stride of the dimension to come, and every stride has a word
        have below := Shape.add_mul_stride_lt low inside
        have word := Nat.lt_trans below (s.stride_lt_wordBound (d + 1))
        rw [if_neg (Nat.not_le.2 inside), if_pos inside, Word.bind_mul?_add? word,
          ih (by omega) below, Option.map_map]
        congr 2
        funext rest
        rw [Function.comp, Shape.stride_succ]
        ring
      · rw [if_pos (Nat.not_lt.1 inside), if_neg inside]
        rfl

theorem encode_eq (s : Shape) (coords : List Nat) :
    (ofShape s).encode coords = some (s.encode coords) := by
  unfold encode
  split
  · rename_i other
    symm
    rw [Option.some.injEq, Option.eq_none_iff_forall_ne_some]
    intro cell encoded
    apply other
    rw [← (Shape.of_cellOfCoords encoded).2, Shape.length_coordsOfCell]
    rfl
  · rename_i all
    have start : 0 < s.stride 0 := s.stride_pos 0
    rw [encodeFrom_eq (by simpa using all) start, List.drop_zero]
    simp [Shape.encode, Shape.stride]

theorem digits_eq {lengths buffer : List Nat} (positive : ∀ l ∈ lengths, 0 < l)
    (room : lengths.length ≤ buffer.length) (cell : Nat) :
    digits cell lengths buffer =
      some (Shape.coordsOfCell lengths cell ++ buffer.drop lengths.length) := by
  induction lengths generalizing buffer cell with
  | nil => rfl
  | cons length lengths ih =>
      cases buffer with
      | nil => simp at room
      | cons old buffer =>
          have first := positive length List.mem_cons_self
          rw [digits, Word.mod?_eq first, Word.div?_eq first]
          simp only [Option.bind_eq_bind, Option.bind_some]
          rw [ih (fun l member => positive l (List.mem_cons_of_mem _ member))
            (by simpa using room)]
          rfl

theorem decodeInto_eq (s : Shape) (cell : Nat) (buffer : List Nat) :
    (ofShape s).decodeInto cell buffer = some (s.decodeInto cell buffer) := by
  unfold decodeInto Shape.decodeInto
  split
  · rename_i refused
    rcases refused with beyond | short
    · have outside : s.decode cell = none := if_neg (Nat.not_lt.2 beyond)
      rw [outside]
    · cases s.decode cell with
      | none => rfl
      | some coords =>
          rw [rank_ofShape] at short
          simp only [if_neg (Nat.not_le.2 short)]
  · rename_i accepted
    rw [not_or, Nat.not_le, Nat.not_lt] at accepted
    obtain ⟨inside, room⟩ := accepted
    rw [rank_ofShape] at room
    have lengths : slice? (ofShape s).lengths (ofShape s).rank = some s.lengths :=
      slice?_slotsOf s.lengths
    have whole : s.rank ≤ (Shape.coordsOfCell s.lengths cell ++ buffer.drop s.rank).length := by
      rw [List.length_append, Shape.length_coordsOfCell]
      exact Nat.le_add_right _ _
    have coords : slice? (Shape.coordsOfCell s.lengths cell ++ buffer.drop s.rank) s.rank =
        some (Shape.coordsOfCell s.lengths cell) := by
      rw [slice?, if_pos whole]
      exact congrArg some (List.take_left' (Shape.length_coordsOfCell _ _))
    rw [lengths, Shape.decode_eq inside]
    simp only [Option.bind_eq_bind, Option.bind_some,
      digits_eq s.representable.length_pos room cell, if_pos room, rank_ofShape]
    change (slice? (Shape.coordsOfCell s.lengths cell ++ buffer.drop s.rank) s.rank).bind _ = _
    rw [coords]
    rfl

/-! ## Lines -/

/-- The digits of a number along all dimensions from `d` on, none of them left out. -/
theorem startFrom_eq {n along remaining start : Nat} (all : d + n = s.rank) (past : along < d)
    (low : start < s.stride d) :
    (ofShape s).startFrom along remaining start (List.range' d n) =
      some (start + s.stride d * (remaining % Shape.product (s.lengths.drop d))) := by
  induction n generalizing d remaining start with
  | zero =>
      have empty : s.lengths.drop d = [] := List.drop_eq_nil_of_le (Nat.le_of_eq all.symm)
      simp [startFrom, empty, Nat.mod_one]
  | succ n ih =>
      have hd : d < s.rank := by omega
      have below := Shape.add_mul_stride_lt low (Nat.mod_lt remaining (s.axis_pos d))
      have word := Nat.lt_trans below (s.stride_lt_wordBound (d + 1))
      rw [List.range'_succ, startFrom, if_neg (Nat.ne_of_gt past)]
      simp only [getElem?_lengths hd, getElem?_strides hd, Option.bind_eq_bind, Option.bind_some,
        Word.mod?_eq (s.axis_pos d), Word.div?_eq (s.axis_pos d)]
      rw [Word.bind_mul?_add? word, ih (by omega) (by omega) below, Shape.drop_lengths hd,
        Shape.product_cons, Nat.mod_mul, Shape.stride_succ]
      congr 1
      ring

/-- The digits of a number along the dimensions from `d` on, the one along `along` left out. -/
theorem startFrom_skip_eq {n along remaining start : Nat} (all : d + n = s.rank)
    (ahead : d ≤ along) (inside : along < s.rank) (low : start < s.stride d) :
    (ofShape s).startFrom along remaining start (List.range' d n) =
      some (start + s.stride d * (remaining % Shape.product ((s.lengths.take along).drop d)) +
        s.stride (along + 1) *
          (remaining / Shape.product ((s.lengths.take along).drop d) % s.span along)) := by
  induction n generalizing d remaining start with
  | zero => omega
  | succ n ih =>
      rw [List.range'_succ, startFrom]
      split
      · -- the digit left out: nothing is added for it, and no dimension after it is left out
        rename_i here
        subst here
        have wider : start < s.stride (d + 1) := Nat.lt_of_lt_of_le low (s.stride_le_succ d)
        have empty : (s.lengths.take d).drop d = [] :=
          List.drop_eq_nil_of_le (List.length_take_le _ _)
        rw [startFrom_eq (by omega) (Nat.lt_succ_self d) wider, empty]
        simp [Nat.mod_one, Shape.span]
      · rename_i elsewhere
        have hd : d < s.rank := by omega
        have later : d + 1 ≤ along := by omega
        have below := Shape.add_mul_stride_lt low (Nat.mod_lt remaining (s.axis_pos d))
        have word := Nat.lt_trans below (s.stride_lt_wordBound (d + 1))
        have gap : (s.lengths.take along).drop d =
            s.axis d :: (s.lengths.take along).drop (d + 1) := by
          rw [List.drop_take, List.drop_take, Shape.drop_lengths hd, ← List.take_succ_cons]
          congr 1
          omega
        simp only [getElem?_lengths hd, getElem?_strides hd, Option.bind_eq_bind,
          Option.bind_some, Word.mod?_eq (s.axis_pos d), Word.div?_eq (s.axis_pos d)]
        rw [Word.bind_mul?_add? word, ih (by omega) later below, gap, Shape.product_cons,
          Nat.mod_mul, ← Nat.div_div_eq_div_mul, Shape.stride_succ]
        congr 1
        ring

theorem lineAlong_eq (s : Shape) (d surface : Nat) :
    (ofShape s).lineAlong d surface = some (s.lineAlong? d surface) := by
  unfold lineAlong Shape.lineAlong?
  rw [linesAlong_eq]
  simp only [Option.bind_eq_bind, Option.bind_some]
  split
  · rename_i beyond
    rw [if_neg (Nat.not_lt.2 beyond)]
    rfl
  · rename_i inside
    rw [Nat.not_le] at inside
    have hd : d < s.rank := Shape.lt_rank_of_lt_linesAlong inside
    have high : surface / s.stride d < s.span d := by
      rw [Shape.linesAlong_eq hd] at inside
      exact Nat.div_lt_of_lt_mul inside
    have start : (ofShape s).startFrom d surface 0 (List.range s.rank) =
        some (s.lineAt d surface).start := by
      rw [List.range_eq_range', startFrom_skip_eq (Nat.zero_add _) (Nat.zero_le d) hd
        (s.stride_pos 0), List.drop_zero, ← Shape.stride, Nat.mod_eq_of_lt high,
        Shape.start_lineAt, ← Shape.stride_succ]
      have one : s.stride 0 = 1 := rfl
      rw [one, Nat.zero_add, Nat.one_mul, Nat.mul_comm (s.stride (d + 1))]
    rw [if_pos inside, rank_ofShape, start, getElem?_lengths hd, getElem?_strides hd]
    rfl

theorem locateFrom_eq {left : Nat} (all : d + left = s.rank) (surface : Nat) :
    (ofShape s).locateFrom d surface left =
      (Shape.locate? s.cellCount (s.lengths.drop d) surface).map fun place =>
        (d + place.1, place.2) := by
  induction left generalizing d surface with
  | zero =>
      have empty : s.lengths.drop d = [] := List.drop_eq_nil_of_le (Nat.le_of_eq all.symm)
      simp [locateFrom, empty, Shape.locate?]
  | succ left ih =>
      have hd : d < s.rank := by omega
      have lines : s.cellCount / s.axis d = s.linesAlong d :=
        (Shape.linesAlong_of_getElem? (Shape.getElem?_lengths hd)).symm
      rw [locateFrom, linesAlong_eq, Shape.drop_lengths hd, Shape.locate?, lines]
      simp only [Option.bind_eq_bind, Option.bind_some]
      split
      · rfl
      · rename_i beyond
        rw [Word.add?_eq (Shape.succ_lt_wordBound hd), Word.sub?_eq (Nat.not_lt.1 beyond),
          Option.bind_some, Option.bind_some, ih (by omega), Option.map_map]
        congr 1
        funext place
        simp only [Function.comp, Nat.add_assoc, Nat.add_comm 1]

theorem line_eq (s : Shape) (i : Nat) : (ofShape s).line i = some (s.line? i) := by
  unfold line
  split
  · rename_i beyond
    rw [Shape.line?_eq_none beyond]
  · rename_i inside
    obtain ⟨line, decoded⟩ := Shape.exists_line (Nat.not_le.1 inside)
    obtain ⟨⟨d, surface⟩, located, along⟩ := Option.bind_eq_some_iff.1 decoded
    rw [rank_ofShape, locateFrom_eq (Nat.zero_add _), List.drop_zero, located, decoded, ← along]
    simp only [Option.map_some, Option.bind_eq_bind, Option.bind_some, Nat.zero_add]
    exact lineAlong_eq s d surface

/-! ## From coordinates to lines -/

theorem surfaceFrom_eq {n along surface radix : Nat} {coords : List Nat}
    (all : d + n = s.rank) (given : coords.length = s.rank) (past : along < d)
    (low : surface < radix) (within : radix ≤ s.stride d) :
    (ofShape s).surfaceFrom along coords surface radix (List.range' d n) =
      some ((Shape.cellOfCoords (s.lengths.drop d) (coords.drop d)).map (surface + radix * ·)) := by
  induction n generalizing d surface radix with
  | zero =>
      have empty : s.lengths.drop d = [] := List.drop_eq_nil_of_le (Nat.le_of_eq all.symm)
      have empty' : coords.drop d = [] := List.drop_eq_nil_of_le (by omega)
      simp [surfaceFrom, empty, empty', Shape.cellOfCoords]
  | succ n ih =>
      have hd : d < s.rank := by omega
      have hd' : d < coords.length := by omega
      rw [List.range'_succ, surfaceFrom, List.getElem?_eq_getElem hd', getElem?_lengths hd,
        Shape.drop_lengths hd, List.drop_eq_getElem_cons hd', Shape.cellOfCoords]
      simp only [Option.bind_eq_bind, Option.bind_some]
      by_cases inside : coords[d] < s.axis d
      · have below : surface + coords[d] * radix < radix * s.axis d :=
          Shape.add_mul_lt low inside
        have reach := Shape.mul_axis_le within
        have word := Nat.lt_of_le_of_lt reach (s.stride_lt_wordBound (d + 1))
        rw [if_neg (Nat.not_le.2 inside), if_pos inside, if_neg (Nat.ne_of_gt past),
          Word.bind_mul?_add? (Nat.lt_trans below word), Word.mul?_eq word, Option.bind_some,
          ih (by omega) (by omega) below reach, Option.map_map]
        congr 2
        funext rest
        rw [Function.comp]
        ring
      · rw [if_pos (Nat.not_lt.1 inside), if_neg inside]
        rfl

theorem surfaceFrom_skip_eq {n along surface radix : Nat} {coords : List Nat}
    (all : d + n = s.rank) (given : coords.length = s.rank) (ahead : d ≤ along)
    (exists_along : along < s.rank) (low : surface < radix) (within : radix ≤ s.stride d) :
    (ofShape s).surfaceFrom along coords surface radix (List.range' d n) =
      some ((Shape.cellOfCoords (s.lengths.drop d) (coords.drop d)).bind fun _ =>
        (Shape.cellOfCoords ((s.lengths.drop d).eraseIdx (along - d))
          ((coords.drop d).eraseIdx (along - d))).map (surface + radix * ·)) := by
  induction n generalizing d surface radix with
  | zero => omega
  | succ n ih =>
      have hd : d < s.rank := by omega
      have hd' : d < coords.length := by omega
      rw [List.range'_succ, surfaceFrom, List.getElem?_eq_getElem hd', getElem?_lengths hd,
        Shape.drop_lengths hd, List.drop_eq_getElem_cons hd', Shape.cellOfCoords]
      simp only [Option.bind_eq_bind, Option.bind_some]
      by_cases inside : coords[d] < s.axis d
      · rw [if_neg (Nat.not_le.2 inside), if_pos inside]
        split
        · -- the coordinate left out: the radix stays, and falls behind the stride
          rename_i here
          subst here
          have wider : radix ≤ s.stride (d + 1) := Nat.le_trans within (s.stride_le_succ d)
          rw [surfaceFrom_eq (by omega) given (Nat.lt_succ_self d) low wider, Nat.sub_self,
            List.eraseIdx_zero, List.eraseIdx_zero, List.tail_cons, List.tail_cons]
          cases Shape.cellOfCoords (s.lengths.drop (d + 1)) (coords.drop (d + 1)) with
          | none => rfl
          | some rest => rfl
        · rename_i elsewhere
          have later : d + 1 ≤ along := by omega
          have below : surface + coords[d] * radix < radix * s.axis d :=
            Shape.add_mul_lt low inside
          have reach := Shape.mul_axis_le within
          have word := Nat.lt_of_le_of_lt reach (s.stride_lt_wordBound (d + 1))
          have step : along - d = (along - (d + 1)) + 1 := by omega
          rw [Word.bind_mul?_add? (Nat.lt_trans below word), Word.mul?_eq word, Option.bind_some,
            ih (by omega) later below reach, step, List.eraseIdx_cons_succ,
            List.eraseIdx_cons_succ, Shape.cellOfCoords, if_pos inside]
          cases Shape.cellOfCoords (s.lengths.drop (d + 1)) (coords.drop (d + 1)) with
          | none => rfl
          | some rest =>
              simp only [Option.bind_some, Option.map_some, Option.map_map]
              congr 2
              funext rest
              rw [Function.comp]
              ring
      · rw [if_pos (Nat.not_lt.1 inside), if_neg inside]
        rfl

theorem surfaceIndex_eq (s : Shape) (d : Nat) (coords : List Nat) :
    (ofShape s).surfaceIndex d coords = some (s.surfaceIndex? d coords) := by
  unfold surfaceIndex
  split
  · rename_i refused
    symm
    rw [Option.some.injEq, Option.eq_none_iff_forall_ne_some]
    intro slot named
    obtain ⟨cell, encoded, named⟩ := Option.bind_eq_some_iff.1 named
    obtain ⟨length, there, -⟩ := Option.bind_eq_some_iff.1 named
    rcases refused with beyond | other
    · rw [List.getElem?_eq_none beyond] at there
      cases there
    · apply other
      rw [← (Shape.of_cellOfCoords encoded).2, Shape.length_coordsOfCell]
      rfl
  · rename_i accepted
    rw [not_or, Nat.not_le, not_not] at accepted
    obtain ⟨hd, given⟩ := accepted
    rw [rank_ofShape] at hd given
    have surface := surfaceFrom_skip_eq (Nat.zero_add _) given (Nat.zero_le d) hd Nat.zero_lt_one
      (s.stride_pos 0)
    rw [← List.range_eq_range', List.drop_zero, List.drop_zero, Nat.sub_zero] at surface
    rw [rank_ofShape, surface]
    cases encoded : Shape.cellOfCoords s.lengths coords with
    | none =>
        have outside : s.encode coords = none := encoded
        rw [Shape.surfaceIndex?, outside]
        rfl
    | some cell =>
        obtain ⟨inside, rfl⟩ := Shape.of_cellOfCoords encoded
        have fits : s.offset d + s.surface d cell < wordBound :=
          Nat.lt_trans (Shape.slot_lt hd inside) s.representable.lines_lt
        have others := Shape.cellOfCoords_eraseIdx d inside
        rw [← Shape.stride, ← Shape.stride, ← Shape.surface] at others
        rw [Shape.surfaceIndex?_coordsOfCell hd inside, others]
        simp only [Option.bind_eq_bind, Option.bind_some, Option.map_some, getElem?_offsets hd,
          Nat.zero_add, Nat.one_mul, Word.add?_eq fits]
        rfl

end Layout

end Purification
