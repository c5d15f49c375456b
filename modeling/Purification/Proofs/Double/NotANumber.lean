import Mathlib
import Purification.Number

/-! # Results that are not numbers

An operation on a double that is not a number gives none. Adding up magnitudes, which are
not below zero, cannot give one either unless a magnitude is none: there are no infinities
of opposite sign among them.
-/

namespace Purification.Double

open Float.Model UnpackedFloat

/-- A zero, a number or an infinity of positive sign. -/
inductive IsPlus : UnpackedFloat → Prop where
  | infinity : IsPlus (.infinity .positive)
  | zero : IsPlus (.zero .positive)
  | finite (mantissa : Nat) (exponent : Int) (positive : 0 < mantissa) :
      IsPlus (.finite .positive mantissa exponent positive)

/-- A double of positive sign that is not NaN. -/
def Plus (x : Float) : Prop := IsPlus x.toModel.unpack

section

variable {a b : UnpackedFloat}

theorem not_isNaN_of_isPlus (h : IsPlus a) : a.isNaN = false := by
  cases h with
  | infinity => rfl
  | zero => rfl
  | finite => rfl

theorem isPlus_abs (number : a.isNaN = false) : IsPlus a.abs := by
  cases a with
  | infinity => exact .infinity
  | notANumber => cases number
  | zero => exact .zero
  | finite _ mantissa exponent positive => exact .finite mantissa exponent positive

theorem isPlus_roundWithAccuracy (spec : Format) (mantissa : Nat) (exponent : Int)
    (accuracy : Accuracy) :
    IsPlus (roundWithAccuracy spec .positive mantissa exponent accuracy) := by
  unfold roundWithAccuracy
  dsimp only
  split
  · exact .zero
  · exact .finite _ _ _

theorem isPlus_normalize (spec : Format) {mantissa : Int} (nonneg : 0 ≤ mantissa)
    (exponent : Int) : IsPlus (UnpackedFloat.normalize spec mantissa exponent .positive) := by
  unfold UnpackedFloat.normalize
  cases sign : compare mantissa 0 with
  | lt => exact absurd nonneg (Int.not_le.2 (Int.compare_eq_lt.1 sign))
  | eq => exact .zero
  | gt => exact isPlus_roundWithAccuracy _ _ _ _

theorem isPlus_add (spec : Format) (ha : IsPlus a) (hb : IsPlus b) :
    IsPlus (UnpackedFloat.add spec a b) := by
  cases ha with
  | infinity =>
      cases hb with
      | infinity => exact .infinity
      | zero => exact .infinity
      | finite => exact .infinity
  | zero =>
      cases hb with
      | infinity => exact .infinity
      | zero => exact .zero
      | finite mantissa exponent positive => exact .finite mantissa exponent positive
  | finite mantissa exponent positive =>
      cases hb with
      | infinity => exact .infinity
      | zero => exact .finite mantissa exponent positive
      | finite =>
          refine isPlus_normalize spec (Int.add_nonneg ?_ ?_) _
          · exact Int.natCast_nonneg _
          · exact Int.natCast_nonneg _

end

/-! ## Packing -/

section

variable {spec : Format}

theorem isPlus_unpack {bits : BitVec spec.numBits} (sign : unpackSign bits = Sign.positive.toBitVec)
    (inRange : unpackExponent bits ≠ -1#_) : IsPlus (UnpackedFloat.unpack spec bits) := by
  have positive : Sign.ofBitVec (unpackSign bits) = .positive := by
    rw [sign]
    rfl
  unfold UnpackedFloat.unpack
  dsimp only
  rw [if_neg inRange, positive]
  split
  · split
    · exact .zero
    · exact .finite _ _ _
  · exact .finite _ _ _

end

theorem unpack_packedInfinity : UnpackedFloat.unpack Format.binary64
    (packedInfinity Format.binary64 .positive) = .infinity .positive := rfl

theorem isPlus_unpack_pack {a : UnpackedFloat} (h : IsPlus a) :
    IsPlus (UnpackedFloat.unpack Format.binary64 (UnpackedFloat.pack Format.binary64 a)) := by
  cases h with
  | infinity => exact unpack_packedInfinity ▸ .infinity
  | zero => exact .zero
  | finite mantissa exponent positive =>
      unfold UnpackedFloat.pack
      dsimp only
      generalize (exponent + Format.binary64.exponentBias +
        Format.binary64.mantissaBitsWithoutImplicit : Int).toNat = biased
      split
      · exact unpack_packedInfinity ▸ .infinity
      · rename_i inRange
        split
        · refine isPlus_unpack (unpackSign_packComponents _ _ _) fun top => inRange ?_
          rw [unpackExponent_packComponents] at top
          have field : biased % 2 ^ 11 = 2 ^ 11 - 1 := congrArg BitVec.toNat top
          show 2 ^ 11 ≤ biased + 1
          omega
        · refine isPlus_unpack (unpackSign_packComponents _ _ _) ?_
          rw [unpackExponent_packComponents]
          decide

/-! ## Doubles -/

section

variable {x y : Float}

theorem isNaN_of_absorbs (op : UnpackedFloat → UnpackedFloat → UnpackedFloat)
    (left : ∀ b, op .notANumber b = .notANumber) (right : ∀ a, op a .notANumber = .notANumber)
    (h : x.isNaN = true ∨ y.isNaN = true) :
    (Float.ofModel (.pack (op x.toModel.unpack y.toModel.unpack))).isNaN = true := by
  have lost : op x.toModel.unpack y.toModel.unpack = .notANumber := by
    rcases h with h | h
    · rw [isNaN_iff.1 h, left]
    · rw [isNaN_iff.1 h, right]
  rw [lost]
  rfl

theorem isNaN_add (h : x.isNaN = true ∨ y.isNaN = true) : (x + y).isNaN = true :=
  isNaN_of_absorbs (.add .binary64) (fun _ => rfl) (fun a => by cases a <;> rfl) h

theorem isNaN_sub (h : x.isNaN = true ∨ y.isNaN = true) : (x - y).isNaN = true :=
  isNaN_of_absorbs (.sub .binary64) (fun _ => rfl) (fun a => by cases a <;> rfl) h

theorem isNaN_mul (h : x.isNaN = true ∨ y.isNaN = true) : (x * y).isNaN = true :=
  isNaN_of_absorbs (.mul .binary64) (fun _ => rfl) (fun a => by cases a <;> rfl) h

theorem isNaN_div (h : x.isNaN = true ∨ y.isNaN = true) : (x / y).isNaN = true :=
  isNaN_of_absorbs (.div .binary64) (fun _ => rfl) (fun a => by cases a <;> rfl) h

theorem isNaN_abs (h : x.isNaN = true) : x.abs.isNaN = true := by
  show (Float.ofModel (.pack x.toModel.unpack.abs)).isNaN = true
  rw [isNaN_iff.1 h]
  rfl

theorem Plus.isNaN (h : Plus x) : x.isNaN = false := not_isNaN_of_isPlus h

theorem plus_zero : Plus (0 : Float) := IsPlus.zero

theorem plus_abs (number : x.isNaN = false) : Plus x.abs := isPlus_unpack_pack (isPlus_abs number)

theorem Plus.add (hx : Plus x) (hy : Plus y) : Plus (x + y) :=
  isPlus_unpack_pack (isPlus_add _ hx hy)

end

end Purification.Double
