import LatexFigures.Proofs.Number.Comparison

/-! Numbers that are not negative. Rounding keeps the sign, so that sums and quotients of such
numbers are not negative either, nor is the difference of two numbers in order.
-/

namespace LatexFigures.Number

open Float.Model UnpackedFloat

/-- The parts of a zero of either sign, or of a positive number. -/
inductive IsNonnegative : UnpackedFloat → Prop
  | zero (sign : Sign) : IsNonnegative (.zero sign)
  | finite (mantissa : Nat) (exponent : Int) (positive : 0 < mantissa)
    : IsNonnegative (.finite .positive mantissa exponent positive)
  | infinity : IsNonnegative (.infinity .positive)

variable {x y : Float}

theorem zero_le_iff (x : Float) : 0 ≤ x ↔ IsNonnegative x.toModel.unpack := by
  rw [le_iff, unpack_zero]
  generalize x.toModel.unpack = parts
  constructor
  · intro le
    cases parts with
    | notANumber => cases le
    | zero sign => exact .zero sign
    | infinity sign | finite sign =>
        cases sign with
        | positive => constructor
        | negative => cases le
  · intro nonnegative
    cases nonnegative <;> rfl

-----------------------------------------------------------------------------------------
-- Rounding and packing
-----------------------------------------------------------------------------------------

theorem isNonnegative_unpack_packComponents (exponent : BitVec 11) (mantissa : BitVec 52)
    (number : exponent = -1#11 → mantissa = 0#52)
    : IsNonnegative
        (UnpackedFloat.unpack Format.binary64
          (packComponents Format.binary64 .positive exponent mantissa)) := by
  rw [unpack_packComponents]
  split
  · rename_i greatest
    rw [if_pos (number greatest)]
    constructor
  · split
    · split <;> constructor
    · constructor

/-- Packing may end in zero or in infinity, but keeps the sign. -/
theorem isNonnegative_pack {parts : UnpackedFloat} (nonnegative : IsNonnegative parts)
    : IsNonnegative (Float.Model.pack parts).unpack := by
  change IsNonnegative
    (UnpackedFloat.unpack Format.binary64 (UnpackedFloat.pack Format.binary64 parts))
  cases nonnegative with
  | zero sign => cases sign <;> exact .zero _
  | infinity => exact .infinity
  | finite mantissa exponent =>
      simp only [UnpackedFloat.pack, exponentBias_binary64]
      split
      · exact .infinity
      · split
        · apply isNonnegative_unpack_packComponents
          intro greatest
          have field := congrArg BitVec.toNat greatest
          rw [BitVec.toNat_ofNat] at field
          change _ = 2047 at field
          omega
        · apply isNonnegative_unpack_packComponents
          intro greatest
          cases greatest

theorem isNonnegative_roundWithAccuracy (mantissa : Nat) (exponent : Int) (accuracy : Accuracy)
    : IsNonnegative
        (roundWithAccuracy Format.binary64 .positive mantissa exponent accuracy) := by
  unfold roundWithAccuracy
  dsimp only
  split <;> constructor

theorem isNonnegative_normalize {mantissa : Int} (nonnegative : 0 ≤ mantissa) (exponent : Int)
    (sign : Sign)
    : IsNonnegative (UnpackedFloat.normalize Format.binary64 mantissa exponent sign) := by
  unfold UnpackedFloat.normalize
  split
  · rename_i less
    exact absurd (Int.compare_eq_lt.mp less) (by omega)
  · exact .zero sign
  · exact isNonnegative_roundWithAccuracy _ _ .exact

-----------------------------------------------------------------------------------------
-- Operations
-----------------------------------------------------------------------------------------

theorem zero_le_add (nonnegative : 0 ≤ x) (nonnegative' : 0 ≤ y) : 0 ≤ x + y := by
  rw [zero_le_iff] at nonnegative nonnegative' ⊢
  apply isNonnegative_pack
  generalize x.toModel.unpack = parts at nonnegative
  generalize y.toModel.unpack = parts' at nonnegative'
  cases nonnegative with
  | zero sign =>
      cases nonnegative' with
      | zero sign' =>
          simp only [UnpackedFloat.add]
          split <;> constructor
      | finite | infinity => constructor
  | infinity => cases nonnegative' <;> constructor
  | finite =>
      cases nonnegative' with
      | zero | infinity => constructor
      | finite =>
          exact isNonnegative_normalize
            (Int.add_nonneg (Int.natCast_nonneg _) (Int.natCast_nonneg _)) _ _

/-- A number that can be divided by keeps the sign of the dividend if it is positive. -/
theorem zero_le_div (nonnegative : 0 ≤ x) (finite : y.isFinite = true) (positive : 0 < y)
    : 0 ≤ x / y := by
  rw [zero_le_iff] at nonnegative ⊢
  rw [lt_iff, unpack_zero] at positive
  apply isNonnegative_pack
  rcases parts_of_isFinite finite with ⟨sign', parts'⟩ | ⟨sign', _, _, _, parts'⟩
  · rw [parts'] at positive
    cases positive
  · rw [parts'] at positive ⊢
    cases sign' with
    | negative => cases positive
    | positive =>
        generalize x.toModel.unpack = parts at nonnegative
        cases nonnegative with
        | zero | infinity => constructor
        | finite => exact isNonnegative_roundWithAccuracy _ _ _

/-- Numbers in order have a difference, if only an infinite one, and it is not negative. -/
theorem zero_le_sub (finite : x.isFinite = true) (finite' : y.isFinite = true) (le : x ≤ y)
    : 0 ≤ y - x := by
  rw [le_iff] at le
  rw [zero_le_iff]
  apply isNonnegative_pack
  rcases parts_of_isFinite finite with ⟨sign, parts⟩ | ⟨sign, mantissa, exponent, _, parts⟩ <;>
    rcases parts_of_isFinite finite'
      with ⟨sign', parts'⟩ | ⟨sign', mantissa', exponent', _, parts'⟩ <;>
    rw [parts, parts'] at le ⊢
  · simp only [UnpackedFloat.sub]
    split <;> constructor
  · cases sign' with
    | negative => cases le
    | positive => constructor
  · cases sign with
    | positive => cases le
    | negative => constructor
  · apply isNonnegative_normalize
    have aligned := compare_then_compare (isCanonical_unpack parts)
      (isCanonical_unpack parts') (Int.min_le_right exponent' exponent)
      (Int.min_le_left exponent' exponent)
    cases sign with
    | negative =>
        cases sign' with
        | negative =>
            change ((compare exponent exponent').then (compare mantissa mantissa')).swap.isLE
              = true at le
            rw [aligned, Ordering.isLE_swap, Nat.isGE_compare] at le
            exact Int.sub_nonneg.mpr (Int.neg_le_neg (Int.ofNat_le.mpr le))
        | positive =>
            change (0 : Int) ≤ (_ : Nat) - -((_ : Nat) : Int)
            rw [Int.sub_neg]
            exact Int.add_nonneg (Int.natCast_nonneg _) (Int.natCast_nonneg _)
    | positive =>
        cases sign' with
        | negative => cases le
        | positive =>
            change ((compare exponent exponent').then (compare mantissa mantissa')).isLE
              = true at le
            rw [aligned, Nat.isLE_compare] at le
            exact Int.sub_nonneg.mpr (Int.ofNat_le.mpr le)

end LatexFigures.Number
