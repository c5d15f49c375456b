import Purification.Proofs.Double.NotANumber

/-! # The order of doubles

Doubles that are numbers are ordered like their levels: the sign and kind first, then the
exponent, then the mantissa. There are finitely many doubles, so none can be lowered for
ever.
-/

namespace Purification.Double

open Float.Model UnpackedFloat

/-- Where a double stands among those that are numbers. -/
def level : UnpackedFloat → ℤ ×ₗ ℤ ×ₗ ℤ
  | .infinity .negative => toLex (-2, toLex (0, 0))
  | .finite .negative mantissa exponent _ => toLex (-1, toLex (-exponent, -mantissa))
  | .zero _ => toLex (0, toLex (0, 0))
  | .notANumber => toLex (0, toLex (0, 0))
  | .finite .positive mantissa exponent _ => toLex (1, toLex (exponent, mantissa))
  | .infinity .positive => toLex (2, toLex (0, 0))

section

variable {a b : UnpackedFloat}

theorem compare_then_eq_lt {m n : Nat} {d e : Int} :
    (compare d e).then (compare m n) = .lt ↔ d < e ∨ d = e ∧ m < n := by
  rw [Ordering.then_eq_lt, Int.compare_eq_lt, Int.compare_eq_eq, Nat.compare_eq_lt]

theorem compare_then_eq_gt {m n : Nat} {d e : Int} :
    (compare d e).then (compare m n) = .gt ↔ e < d ∨ d = e ∧ n < m := by
  rw [Ordering.then_eq_gt, Int.compare_eq_gt, Int.compare_eq_eq, Nat.compare_eq_gt]

theorem lt_iff_level :
    a.lt b = true ↔ a.isNaN = false ∧ b.isNaN = false ∧ level a < level b := by
  have signs : compare Sign.negative Sign.positive = .lt := rfl
  rcases a with (_ | _) | _ | _ | (_ | _) <;> rcases b with (_ | _) | _ | _ | (_ | _) <;>
    simp [UnpackedFloat.lt, UnpackedFloat.compare, level, Prod.Lex.toLex_lt_toLex,
      UnpackedFloat.isNaN, signs, compare_then_eq_lt, compare_then_eq_gt]

theorem compare_eq_none_iff : a.compare b = none ↔ a.isNaN = true ∨ b.isNaN = true := by
  rcases a with (_ | _) | _ | _ | (_ | _) <;> rcases b with (_ | _) | _ | _ | (_ | _) <;>
    simp [UnpackedFloat.compare, UnpackedFloat.isNaN]

theorem compare_swap : b.compare a = (a.compare b).map Ordering.swap := by
  have turn : ∀ s t : Sign, (compare s t).swap = compare t s := by
    intro s t
    cases s <;> cases t <;> rfl
  rcases a with (_ | _) | _ | _ | (_ | _) <;> rcases b with (_ | _) | _ | _ | (_ | _) <;>
    simp [UnpackedFloat.compare, turn, Ordering.swap_then, Int.compare_swap,
      Nat.compare_swap]

theorem lt_of_not_le (ha : a.isNaN = false) (hb : b.isNaN = false) (above : a.le b = false) :
    b.lt a = true := by
  cases order : a.compare b with
  | none =>
      rcases compare_eq_none_iff.1 order with none | none
      · exact absurd none (by rw [ha]; decide)
      · exact absurd none (by rw [hb]; decide)
  | some o =>
      rw [UnpackedFloat.le, order, Option.any_some, Ordering.isLE_eq_false] at above
      rw [UnpackedFloat.lt, compare_swap, order, above]
      rfl

end

/-! ## Doubles -/

theorem lt_iff {x y : Float} : x < y ↔ x.toModel.unpack.lt y.toModel.unpack = true :=
  decide_eq_true_iff

theorem le_iff {x y : Float} : x ≤ y ↔ x.toModel.unpack.le y.toModel.unpack = true :=
  decide_eq_true_iff

theorem lt_trans {x y z : Float} (hxy : x < y) (hyz : y < z) : x < z := by
  obtain ⟨number, -, below⟩ := lt_iff_level.1 (lt_iff.1 hxy)
  obtain ⟨-, number', above⟩ := lt_iff_level.1 (lt_iff.1 hyz)
  exact lt_iff.2 (lt_iff_level.2 ⟨number, number', below.trans above⟩)

theorem lt_irrefl (x : Float) : ¬ x < x := fun h => (lt_iff_level.1 (lt_iff.1 h)).2.2.false

theorem lt_of_not_le_of_isNaN {x y : Float} (hx : x.isNaN = false) (hy : y.isNaN = false)
    (above : ¬ x ≤ y) : y < x := by
  rw [le_iff, Bool.not_eq_true] at above
  exact lt_iff.2 (lt_of_not_le hx hy above)

theorem not_le_of_isNaN {x y : Float} (h : x.isNaN = true ∨ y.isNaN = true) : ¬ x ≤ y := by
  intro le
  have order := compare_eq_none_iff.2 h
  rw [le_iff, UnpackedFloat.le, order] at le
  cases le

theorem not_le_of_lt {x y : Float} (h : y < x) : ¬ x ≤ y := by
  intro le
  have order : y.toModel.unpack.compare x.toModel.unpack = some .lt := beq_iff_eq.1 (lt_iff.1 h)
  rw [le_iff, UnpackedFloat.le, compare_swap, order] at le
  cases le

instance finite : Finite Float :=
  Finite.of_injective (fun x : Float => x.toBits.toBitVec.toFin) fun _ _ same =>
    Float.toBits_inj.1 (UInt64.toBitVec_inj.1 (BitVec.toFin_inj.1 same))

theorem wellFounded_lt : WellFounded fun x y : Float => x < y :=
  have : IsTrans Float fun x y => x < y := ⟨fun _ _ _ => lt_trans⟩
  have : Std.Irrefl fun x y : Float => x < y := ⟨lt_irrefl⟩
  Finite.wellFounded_of_trans_of_irrefl _

/-- No sequence of doubles falls for ever. -/
theorem exists_not_lt (values : Nat → Float) (n : Nat) : ∃ m ≥ n, ¬ values (m + 1) < values m := by
  obtain ⟨least, ⟨m, late, rfl⟩, below⟩ :=
    wellFounded_lt.has_min (values '' {m | n ≤ m}) ⟨_, n, Nat.le_refl n, rfl⟩
  exact ⟨m, late, below _ ⟨m + 1, Nat.le_succ_of_le late, rfl⟩⟩

end Purification.Double
