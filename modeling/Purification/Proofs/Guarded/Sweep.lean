import Purification.Guarded.Sweep
import Purification.Proofs.Guarded.Lines
import Purification.Proofs.Sweep.Opening

/-! # Guarded sweeps

Every entry that a sweep reads or writes is one of its slices, so the guarded sweep is the plain
one.
-/

namespace Purification

/-! ## Slices -/

namespace Slice

variable {α : Type} {x : Slice α} {i : Nat}

theorem of?_eq {values : Array α} {n : Nat} (within : n ≤ values.size) :
    of? values n = some ⟨values, n, within⟩ := dif_pos within

theorem get?_eq [Zero α] (inside : i < x.length) : x.get? i = some (x.values.getD i 0) := by
  have there : i < x.values.size := Nat.lt_of_lt_of_le inside x.within
  rw [get?, if_pos inside, Array.getD_eq_getD_getElem?, Array.getElem?_eq_getElem there,
    Option.getD_some]

theorem foldlM_modify? {places : List Nat} (change : α → α)
    (inside : ∀ place ∈ places, place < x.length) :
    places.foldlM (fun x place => x.modify? place change) x =
      some ⟨places.foldl (fun values place => values.modify place change) x.values, x.length,
        by rw [size_foldl_modify]; exact x.within⟩ := by
  induction places generalizing x with
  | nil => rfl
  | cons place places ih =>
      have here : x.modify? place change = some _ := if_pos (inside place List.mem_cons_self)
      rw [List.foldlM_cons, here, Option.bind_eq_bind, Option.bind_some]
      exact ih fun p member => inside p (List.mem_cons_of_mem _ member)

end Slice

theorem foldlM_eq_some {β γ : Type} {step : γ → β → Option γ} {f : γ → β → γ} {values : List β}
    (each : ∀ a, ∀ x ∈ values, step a x = some (f a x)) (a : γ) :
    values.foldlM step a = some (values.foldl f a) := by
  induction values generalizing a with
  | nil => rfl
  | cons x values ih =>
      rw [List.foldlM_cons, each a x List.mem_cons_self, Option.bind_eq_bind, Option.bind_some,
        ih fun b y member => each b y (List.mem_cons_of_mem _ member)]
      rfl

/-! ## One pass -/

namespace Guarded

variable {α : Type} [Scalar α] {s : Shape} {f : Field α} {weights : Array α}

/-- The slices of a field that covers a shape. -/
def held (f : Field α) (covers : f.Covers s) : Held α :=
  ⟨⟨f.scores, s.cellCount, covers.cells⟩, ⟨f.impurities, s.lineCount, covers.lines⟩⟩

theorem mean_eq {line : Line} {weights scores : Slice α}
    (cells : Layout.cells line = some line.cells)
    (inside : ∀ cell ∈ line.cells, cell < weights.length ∧ cell < scores.length) :
    mean line weights scores = some (line.mean weights.values scores.values) := by
  have sums := @foldlM_eq_some _ _
    (fun (sums : α × α) cell => do
      let weight ← weights.get? cell
      let score ← scores.get? cell
      return (sums.1 + score * weight, sums.2 + weight))
    (fun sums cell => (sums.1 + scores.values.getD cell 0 * weights.values.getD cell 0,
      sums.2 + weights.values.getD cell 0))
    line.cells
    (fun sums cell on => by
      rw [Slice.get?_eq (inside cell on).1, Slice.get?_eq (inside cell on).2]
      rfl)
    (0, 0)
  rw [mean, cells, Option.bind_eq_bind, Option.bind_some, sums]
  rfl

variable {threshold : α}

theorem centre_eq (enough : s.cellCount ≤ weights.size) (covers : f.Covers s) {slot : Nat}
    {line : Line} (member : (slot, line) ∈ s.lines) (t : Tally α) :
    centre ⟨weights, s.cellCount, enough⟩ threshold (held f covers, t) (slot, line) =
      some (held (f.remove slot line (line.mean weights f.scores)) (covers.remove slot _),
        t.note threshold (line.mean weights f.scores)) := by
  have cells := Layout.cells_eq member
  have inside : ∀ cell ∈ line.cells, cell < s.cellCount :=
    fun cell on => Shape.cell_lt_of_mem_lines member on
  have mean : mean line ⟨weights, s.cellCount, enough⟩ (held f covers).scores =
      some (line.mean weights f.scores) :=
    mean_eq cells fun cell on => ⟨inside cell on, inside cell on⟩
  have slots : (held f covers).impurities.modify? slot (· + line.mean weights f.scores) =
      some _ := if_pos (Shape.slot_lt_of_mem_lines member)
  have scores := Slice.foldlM_modify? (x := (held f covers).scores)
    (· - line.mean weights f.scores) inside
  simp only [centre, mean, slots, cells, Option.bind_eq_bind, Option.bind_some, scores]
  rfl

theorem foldlM_centre (enough : s.cellCount ≤ weights.size) {lines : List (Nat × Line)}
    (within : ∀ numbered ∈ lines, numbered ∈ s.lines) (covers : f.Covers s) (t : Tally α) :
    lines.foldlM (centre ⟨weights, s.cellCount, enough⟩ threshold) (held f covers, t) =
      some (held (lines.foldl (Purification.centre weights threshold) (f, t)).1
          (covers.foldl_centre t),
        (lines.foldl (Purification.centre weights threshold) (f, t)).2) := by
  induction lines generalizing f t with
  | nil => rfl
  | cons numbered lines ih =>
      rw [List.foldlM_cons, centre_eq enough covers (within _ List.mem_cons_self),
        Option.bind_eq_bind, Option.bind_some,
        ih fun numbered later => within numbered (List.mem_cons_of_mem _ later)]
      rfl

theorem pass_eq (enough : s.cellCount ≤ weights.size) (covers : f.Covers s) :
    pass (.ofShape s) ⟨weights, s.cellCount, enough⟩ threshold (held f covers) =
      some (held (f.pass weights threshold s.lines).1 covers.pass,
        (f.pass weights threshold s.lines).2) := by
  rw [pass, Layout.lines_eq, Option.bind_eq_bind, Option.bind_some]
  exact foldlM_centre enough (fun _ member => member) covers Tally.start

/-! ## A whole run -/

theorem loop_eq (enough : s.cellCount ≤ weights.size) (covers : f.Covers s) (threshold : α)
    (limit : Option Nat) (fuel passes : Nat) (previous : Option α) :
    ∃ ended, loop (.ofShape s) ⟨weights, s.cellCount, enough⟩ threshold limit fuel passes previous
        (held f covers) = some ended ∧
      ended.map (fun (c, last) => (c, last.field)) =
        Sweep.loop ⟨weights, s.lines, threshold, limit⟩ fuel passes previous f := by
  induction fuel generalizing passes previous f with
  | zero => exact ⟨none, rfl, rfl⟩
  | succ fuel ih =>
      rw [loop, pass_eq enough covers, Sweep.loop]
      simp only [Option.bind_eq_bind, Option.bind_some]
      cases Sweep.stop? limit previous (passes + 1) (f.pass weights threshold s.lines).2 with
      | some stop => exact ⟨_, rfl, rfl⟩
      | none => exact ih covers.pass _ _

theorem run_eq (enough : s.cellCount ≤ weights.size) (covers : f.Covers s) (fuel : Nat)
    (tolerance : α) (limit : Option Nat) (intercept : Option α) :
    run fuel (.ofShape s) tolerance limit weights f intercept =
      some (Sweep.run fuel s tolerance limit weights f intercept) := by
  have slices : run fuel (.ofShape s) tolerance limit weights f intercept =
      if Scalar.isZero (s.totals weights f.scores).weight then
        some (some { convergence := ⟨.zeroWeight, 0, 0, 0⟩, field := f, intercept })
      else do
        let ended ← loop (.ofShape s) ⟨weights, s.cellCount, enough⟩
          ((s.totals weights f.scores).threshold tolerance) limit fuel 0 none
          (held (f.opening s weights intercept) (covers.opening weights intercept))
        return ended.map fun (convergence, held) =>
          { convergence, field := held.field,
            intercept := intercept.map fun _ => (s.totals weights f.scores).mean } := by
    unfold run
    rw [Layout.cellCount_ofShape, Layout.lineCount_ofShape, Slice.of?_eq enough,
      Slice.of?_eq covers.cells, Slice.of?_eq covers.lines]
    cases intercept with
    | none => rfl
    | some mean => rfl
  rw [slices]
  cases weighty : Scalar.isZero (s.totals weights f.scores).weight with
  | true =>
      rw [Sweep.run_of_isZero fuel weighty]
      rfl
  | false =>
      obtain ⟨ended, ran, shown⟩ := loop_eq enough (covers.opening weights intercept)
        ((s.totals weights f.scores).threshold tolerance) limit fuel 0 none
      rw [Sweep.run_of_not_isZero fuel weighty, Shape.setting, ← shown, ran, Option.map_map]
      rfl

end Guarded

end Purification
