import Purification.Proofs.Guarded.Codec

/-! # Guarded steps through the lines

A cursor counts the dimension, the line within its block and the slot in words. Once it stands
before a line it never counts beyond the number of lines, and no cell of a line lies beyond the
number of cells.
-/

namespace Purification

theorem mapM_eq_some {β γ : Type} {step : β → Option γ} {f : β → γ} {values : List β}
    (each : ∀ x ∈ values, step x = some (f x)) : values.mapM step = some (values.map f) := by
  induction values with
  | nil => rfl
  | cons x values ih =>
      have rest := ih fun y member => each y (List.mem_cons_of_mem _ member)
      rw [List.mapM_cons, each x List.mem_cons_self, rest]
      rfl

namespace Layout

open Shape

variable {s : Shape} {n : Nat} {c : LineCursor}

theorem next_eq (h : c.At s n) : (ofShape s).next c = some (c.next s) := by
  fun_induction LineCursor.next s c with
  | case1 c inside line along =>
      obtain ⟨within, rfl⟩ := lineAlong?_eq_some_iff.1 along
      -- the number of a line that exists bounds both the slot and the place in its block
      have numbered : n < s.lineCount := slot_lt_of_mem_lines (mem_lines_iff.2
        ⟨c.dimension, inside, c.surface, within, h.number_eq.symm, rfl⟩)
      have word : s.lineCount < wordBound := s.representable.lines_lt
      have number := h.number_eq
      have slot := h.slot_eq
      unfold next
      rw [rank_ofShape, if_pos inside, lineAlong_eq, along]
      simp only [Option.bind_eq_bind, Option.bind_some]
      rw [Word.add?_eq (by omega), Word.add?_eq (by omega)]
      rfl
  | case2 c inside past ih =>
      have few : c.dimension + 1 < wordBound := succ_lt_wordBound inside
      unfold next
      rw [rank_ofShape, if_pos inside, lineAlong_eq, past]
      simp only [Option.bind_eq_bind, Option.bind_some]
      split
      · rename_i failed
        rw [Word.add?_eq few] at failed
        cases failed
      · rename_i dimension stepped
        cases Word.eq_of_add? stepped
        exact ih (h.nextBlock inside past)
  | case3 c outside =>
      unfold next
      exact if_neg outside

theorem remaining_eq (h : c.At s n) : (ofShape s).remaining c = some (c.remaining s) := by
  have within : c.slot ≤ s.lineCount := by
    rw [h.slot_eq]
    exact h.le
  exact Word.sub?_eq within

theorem collect_eq (h : c.At s n) {fuel : Nat} (enough : s.lineCount - n < fuel) :
    (ofShape s).collect fuel c = some (s.lines.drop n) := by
  induction fuel generalizing n c with
  | zero => omega
  | succ fuel ih =>
      rw [collect, next_eq h]
      rcases h.next with ⟨step, rfl⟩ | ⟨line, c', step, decoded, later⟩
      · rw [step, List.drop_eq_nil_of_le (by rw [length_lines])]
        rfl
      · have listed : s.lines[n]? = some (n, line) := by
          rw [getElem?_lines, decoded]
          rfl
        obtain ⟨inside, same⟩ := List.getElem?_eq_some_iff.1 listed
        have within : n < s.lineCount := by rwa [length_lines] at inside
        rw [step]
        simp only [Option.bind_eq_bind, Option.bind_some]
        rw [ih later (by omega), List.drop_eq_getElem_cons inside, same]
        rfl

theorem lines_eq (s : Shape) : (ofShape s).lines = some s.lines :=
  collect_eq (.start s) (Nat.lt_succ_self _)

theorem cells_eq {slot : Nat} {line : Line} (member : (slot, line) ∈ s.lines) :
    cells line = some line.cells := by
  rw [Line.cells, Line.firstCells, Nat.min_self]
  apply mapM_eq_some
  intro i hi
  have on : line.start + i * line.stride ∈ line.cells := by
    rw [Line.cells, Line.firstCells, Nat.min_self]
    exact List.mem_map_of_mem hi
  have word : line.start + i * line.stride < wordBound :=
    Nat.lt_trans (cell_lt_of_mem_lines member on) s.representable.cells_lt
  rw [Word.mul?_eq (by omega), Option.bind_eq_bind, Option.bind_some, Word.add?_eq word]

end Layout

end Purification
