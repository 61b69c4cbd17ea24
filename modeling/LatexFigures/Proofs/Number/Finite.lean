import Mathlib
import LatexFigures.Number.Scalar

/-! Which floats are finite. A float is packed from a sign, a mantissa and an exponent, and is
finite as long as its exponent fits; so division by a hundred and rounding to whole numbers keep a
number finite or infinite, and of the steps to two decimals multiplication alone can overflow.
-/

namespace LatexFigures.Number

open Float.Model UnpackedFloat

-----------------------------------------------------------------------------------------
-- Parts of floats
-----------------------------------------------------------------------------------------

/-- The parts are those of zero, or of a number with at most this exponent. -/
def ExponentAtMost (most : Int) : UnpackedFloat → Prop
  | .zero _ => True
  | .finite _ _ exponent _ => exponent ≤ most
  | .infinity _ | .notANumber => False

/-- The exponent of the greatest floats, whose mantissa is a whole number. -/
def greatestExponent : Int := 971

theorem exponentBias_binary64 : Format.binary64.exponentBias = 1023 := by decide

/-- The greatest exponent field is kept for what is not finite. -/
theorem isFinite_unpack_iff (bits : BitVec Format.binary64.numBits)
    : (UnpackedFloat.unpack Format.binary64 bits).isFinite = true
      ↔ @unpackExponent Format.binary64 bits ≠ -1#_ := by
  unfold UnpackedFloat.unpack
  dsimp only
  split
  · rename_i greatest
    split <;> exact iff_of_false Bool.false_ne_true (not_not_intro greatest)
  · rename_i other
    split
    · split <;> exact iff_of_true rfl other
    · exact iff_of_true rfl other

section Unpacked

variable {bits : BitVec Format.binary64.numBits}

/-- What the parts of a nonzero number are: a mantissa of at most 53 bits, and an exponent told by
the exponent field, which stands for the least exponent if it is 0.
-/
theorem unpack_eq_finite {sign : Sign} {mantissa : Nat} {exponent : Int} {positive : 0 < mantissa}
    (parts
      : UnpackedFloat.unpack Format.binary64 bits = .finite sign mantissa exponent positive)
    : mantissa < 2 ^ 53
      ∧ exponent = (max (@unpackExponent Format.binary64 bits).toNat 1 : Nat) - 1075 := by
  unfold UnpackedFloat.unpack at parts
  dsimp only at parts
  split at parts
  · split at parts <;> cases parts
  · split at parts
    · rename_i zero
      split at parts
      · cases parts
      · obtain ⟨-, rfl, rfl⟩ := UnpackedFloat.finite.inj parts
        refine ⟨Nat.lt_of_lt_of_le (BitVec.isLt _) (by decide), ?_⟩
        rw [zero, exponentBias_binary64]
        rfl
    · rename_i some
      obtain ⟨-, rfl, rfl⟩ := UnpackedFloat.finite.inj parts
      refine ⟨(1#1 ++ @unpackMantissa Format.binary64 bits).isLt, ?_⟩
      have nonzero := mt BitVec.eq_of_toNat_eq some
      rw [BitVec.toNat_ofNat, Nat.zero_mod] at nonzero
      rw [exponentBias_binary64]
      omega

theorem exponentAtMost_unpack
    (finite : (UnpackedFloat.unpack Format.binary64 bits).isFinite = true)
    : ExponentAtMost greatestExponent (UnpackedFloat.unpack Format.binary64 bits) := by
  have below := (@unpackExponent Format.binary64 bits).isLt
  have other := mt BitVec.eq_of_toNat_eq ((isFinite_unpack_iff bits).mp finite)
  simp only [BitVec.neg_one_eq_allOnes, BitVec.toNat_allOnes] at other below
  cases parts : UnpackedFloat.unpack Format.binary64 bits with
  | zero => trivial
  | infinity | notANumber =>
      rw [parts] at finite
      cases finite
  | finite sign mantissa exponent positive =>
      rw [ExponentAtMost, (unpack_eq_finite parts).2, greatestExponent]
      omega

end Unpacked

/-- Only parts with an exponent in range are packed in a finite float. -/
theorem isFinite_pack_iff (parts : UnpackedFloat)
    : (Float.ofModel (Float.Model.pack parts)).isFinite = true
      ↔ ExponentAtMost greatestExponent parts := by
  apply (isFinite_unpack_iff (UnpackedFloat.pack Format.binary64 parts)).trans
  cases parts with
  | notANumber => simp [UnpackedFloat.pack, packedNaN, ExponentAtMost]
  | infinity sign => simp [UnpackedFloat.pack, packedInfinity, ExponentAtMost]
  | zero sign => simp [UnpackedFloat.pack, packedZero, ExponentAtMost]
  | finite sign mantissa exponent positive =>
      simp only [UnpackedFloat.pack, ExponentAtMost, greatestExponent, exponentBias_binary64]
      split
      · simp only [packedInfinity, unpackExponent_packComponents, ne_eq, not_true_eq_false,
          false_iff]
        omega
      · split
        · rw [unpackExponent_packComponents]
          refine ⟨fun _ => by omega, fun _ same => ?_⟩
          have same := congrArg BitVec.toNat same
          simp only [BitVec.toNat_ofNat, BitVec.neg_one_eq_allOnes, BitVec.toNat_allOnes] at same
          omega
        · rw [unpackExponent_packComponents]
          exact ⟨fun _ => by omega, fun _ => by decide⟩

-----------------------------------------------------------------------------------------
-- Rounding
-----------------------------------------------------------------------------------------

theorem shiftRight_mantissa (extended : ExtendedMantissa) (places : Nat)
    : (extended >>> places).mantissa = extended.mantissa / 2 ^ places := by
  induction places with
  | zero => exact (Nat.div_one _).symm
  | succ places ih =>
      have last : (extended >>> (places + 1)).mantissa = (extended >>> places).mantissa / 2 := rfl
      rw [last, ih, Nat.div_div_eq_div_mul, Nat.pow_succ]

theorem ofMantissaAndAccuracy_mantissa (mantissa : Nat) (accuracy : Accuracy)
    : (ExtendedMantissa.ofMantissaAndAccuracy mantissa accuracy).mantissa = mantissa := by
  unfold ExtendedMantissa.ofMantissaAndAccuracy
  split <;> rfl

theorem roundedMantissa_le (extended : ExtendedMantissa)
    : extended.roundedMantissa ≤ extended.mantissa + 1 := by
  unfold ExtendedMantissa.roundedMantissa Accuracy.roundToNearestEven
  split <;> omega

/-- How many places of a mantissa are dropped so that 53 bits are left, or more for the smallest
floats.
-/
def droppedPlaces (mantissa : Nat) (exponent : Int) : Nat :=
  (max (mantissa.log2 + 1 + exponent - 53) (-1074) - exponent).toNat

theorem shiftToTargetExponent_eq (mantissa : Nat) (exponent : Int) (accuracy : Accuracy)
    : shiftToTargetExponent Format.binary64 mantissa exponent accuracy
      = (ExtendedMantissa.ofMantissaAndAccuracy mantissa accuracy
            >>> droppedPlaces mantissa exponent,
          exponent + droppedPlaces mantissa exponent) :=
  rfl

theorem log2_lt_of_lt_two_pow {n places : Nat} (positive : 0 < places) (short : n < 2 ^ places)
    : n.log2 < places := by
  rcases Nat.eq_zero_or_pos n with rfl | some
  · exact positive
  · exact (Nat.log2_lt (Nat.ne_of_gt some)).mpr short

section Rounding

variable {mantissa : Nat} {exponent most : Int} (low : -1074 ≤ most)
include low

/-- A number whose mantissa would have 53 bits at some exponent is not shifted beyond that. -/
theorem exponent_add_droppedPlaces_le (here : exponent ≤ most)
    (short : mantissa < 2 ^ (most + 53 - exponent).toNat)
    : exponent + droppedPlaces mantissa exponent ≤ most := by
  have log := log2_lt_of_lt_two_pow (by omega) short
  rw [droppedPlaces]
  omega

/-- Rounding adds at most one to that exponent, since it may carry out of the mantissa. -/
theorem exponentAtMost_roundWithAccuracy (sign : Sign) (accuracy : Accuracy)
    (here : exponent ≤ most) (short : mantissa < 2 ^ (most + 53 - exponent).toNat)
    : ExponentAtMost (most + 1)
        (roundWithAccuracy Format.binary64 sign mantissa exponent accuracy) := by
  have shifted := exponent_add_droppedPlaces_le low here short
  let places := droppedPlaces mantissa exponent
  let extended := ExtendedMantissa.ofMantissaAndAccuracy mantissa accuracy >>> places
  have kept : extended.mantissa < 2 ^ (most + 53 - (exponent + places)).toNat := by
    rw [shiftRight_mantissa, ofMantissaAndAccuracy_mantissa,
      Nat.div_lt_iff_lt_mul (Nat.two_pow_pos places), ← Nat.pow_add]
    exact Nat.lt_of_lt_of_le short (Nat.pow_le_pow_right (by decide) (by omega))
  have rounded : extended.roundedMantissa < 2 ^ (most + 1 + 53 - (exponent + places)).toNat := by
    have once := roundedMantissa_le extended
    have twice : (most + 1 + 53 - (exponent + places)).toNat
        = (most + 53 - (exponent + places)).toNat + 1 := by
      omega
    rw [twice, Nat.pow_succ]
    omega
  have again := exponent_add_droppedPlaces_le (by omega) (by omega) rounded
  unfold roundWithAccuracy
  rw [shiftToTargetExponent_eq]
  dsimp only
  split
  · trivial
  · exact again

end Rounding

theorem ExponentAtMost.mono {parts : UnpackedFloat} {most more : Int}
    (h : ExponentAtMost most parts) (below : most ≤ more)
    : ExponentAtMost more parts := by
  cases parts with
  | zero => trivial
  | finite => exact Int.le_trans h below
  | infinity | notANumber => exact h.elim

-----------------------------------------------------------------------------------------
-- Operations
-----------------------------------------------------------------------------------------

theorem isFinite_iff (x : Float)
    : x.isFinite = true ↔ ExponentAtMost greatestExponent x.toModel.unpack := by
  constructor
  · exact exponentAtMost_unpack
  · intro inRange
    rw [Float.isFinite, Float.Model.isFinite]
    cases parts : x.toModel.unpack with
    | zero | finite => rfl
    | infinity | notANumber => exact (parts ▸ inRange).elim

theorem isFinite_neg (x : Float) : (-x).isFinite = x.isFinite := by
  rw [Bool.eq_iff_iff, isFinite_iff x]
  apply (isFinite_pack_iff x.toModel.unpack.neg).trans
  cases x.toModel.unpack <;> rfl

theorem isFinite_signed (negative : Bool) (magnitude : Float)
    : (Dyadic.signed negative magnitude).isFinite = magnitude.isFinite := by
  cases negative with
  | true => exact isFinite_neg magnitude
  | false => rfl

/-- Whole numbers of 64 bits are far below the greatest float. -/
theorem isFinite_toFloat (n : UInt64) : n.toFloat.isFinite = true := by
  apply (isFinite_pack_iff (UnpackedFloat.normalize Format.binary64 n.toNat 0 .positive)).mpr
  unfold UnpackedFloat.normalize
  split
  · rename_i negative
    exact absurd (Int.compare_eq_lt.mp negative) (by omega)
  · trivial
  · simp only [UnpackedFloat.round, decreaseExponent]
    generalize (0 - Format.binary64.targetExponent _ : Int).toNat = places
    have short : (n.toNat : Int).toNat <<< places < 2 ^ (12 + 53 - (0 - (places : Int))).toNat := by
      have whole : (12 + 53 - (0 - (places : Int))).toNat = 65 + places := by omega
      rw [Int.toNat_natCast, Nat.shiftLeft_eq, whole, Nat.pow_add]
      apply Nat.mul_lt_mul_of_pos_right _ (Nat.two_pow_pos places)
      exact Nat.lt_trans n.toNat_lt (by decide)
    have rounded :=
      exponentAtMost_roundWithAccuracy (by decide) .positive .exact (by omega) short
    exact rounded.mono (by decide)

theorem unpack_hundred
    : (Scalar.ofNat 100 : Float).toModel.unpack
      = .finite .positive 7036874417766400 (-46) (by decide) :=
  rfl

theorem targetExponent_binary64 (total : Int)
    : Format.binary64.targetExponent total = max (total - 53) (-1074) :=
  rfl

/-- A quotient by a hundred has a smaller exponent than its dividend. -/
theorem exponentAtMost_div_hundred (sign : Sign) {mantissa : Nat} {exponent : Int}
    (positive : 0 < mantissa) (short : mantissa < 2 ^ 53) (inRange : exponent ≤ greatestExponent)
    : ExponentAtMost greatestExponent
        (UnpackedFloat.div Format.binary64 (.finite sign mantissa exponent positive)
          (.finite .positive 7036874417766400 (-46) (by decide))) := by
  have log := log2_lt_of_lt_two_pow (by decide) short
  have logHundred : (7036874417766400 : Nat).log2 = 52 := by decide +kernel
  simp only [UnpackedFloat.div, divCore, targetExponent_binary64, totalExponent, logHundred]
  rw [greatestExponent] at inRange ⊢
  generalize same : min (exponent - -46) _ = target
  have below : target ≤ 966 := by omega
  refine ExponentAtMost.mono (exponentAtMost_roundWithAccuracy (by decide) _ _ below ?_) (by decide)
  rw [Nat.div_lt_iff_lt_mul (by decide), Nat.shiftLeft_eq]
  calc
    mantissa * 2 ^ (exponent - -46 - target).toNat
      < 2 ^ 53 * 2 ^ (exponent - -46 - target).toNat := by
        exact Nat.mul_lt_mul_of_pos_right short (Nat.two_pow_pos _)
    _ = 2 ^ (53 + (exponent - -46 - target).toNat) := by
        rw [Nat.pow_add]
    _ ≤ 2 ^ ((966 + 53 - target).toNat + 52) := by
        exact Nat.pow_le_pow_right (by decide) (by omega)
    _ = 2 ^ (966 + 53 - target).toNat * 2 ^ 52 := by
        rw [Nat.pow_add]
    _ ≤ 2 ^ (966 + 53 - target).toNat * 7036874417766400 := by
        exact Nat.mul_le_mul_left _ (by decide)

theorem isFinite_div_hundred (x : Float) : (x / Scalar.ofNat 100).isFinite = x.isFinite := by
  rw [Bool.eq_iff_iff, isFinite_iff x]
  apply (isFinite_pack_iff (UnpackedFloat.div Format.binary64 x.toModel.unpack
    (Scalar.ofNat 100 : Float).toModel.unpack)).trans
  rw [unpack_hundred]
  cases parts : x.toModel.unpack with
  | zero | infinity | notANumber => rfl
  | finite sign mantissa exponent positive =>
      have finite : x.isFinite = true := by
        rw [Float.isFinite, Float.Model.isFinite, parts]
        rfl
      have inRange := (isFinite_iff x).mp finite
      rw [parts] at inRange
      exact iff_of_true
        (exponentAtMost_div_hundred sign positive (unpack_eq_finite parts).1 inRange) inRange

theorem isFinite_toWhole (choose : Dyadic → Nat) (x : Float)
    : (toWhole choose x).isFinite = x.isFinite := by
  unfold toWhole
  split
  · rename_i finite
    dsimp only
    split
    · rfl
    · rw [isFinite_signed, isFinite_toFloat, finite]
  · rfl

theorem isFinite_roundAway (x : Float) : (roundAway x).isFinite = x.isFinite := by
  rw [roundAway, isFinite_toWhole]

/-- Of the steps to two decimals the product alone can overflow. -/
theorem isFinite_hundredths (x : Float)
    : (hundredths x).isFinite = (x * Scalar.ofNat 100).isFinite := by
  rw [hundredths, isFinite_div_hundred]
  exact isFinite_roundAway (x * Scalar.ofNat 100)

-----------------------------------------------------------------------------------------
-- Moderate numbers
-----------------------------------------------------------------------------------------

/-- The exponent field is cut out of the bits alike by either reader. -/
theorem toNat_unpackExponent (bits : UInt64)
    : (@unpackExponent Format.binary64 bits.toBitVec).toNat
      = ((bits >>> 52) &&& 0x7ff).toNat := by
  have mask : (0x7ff : UInt64).toNat = 2 ^ 11 - 1 := rfl
  have places : (52 : UInt64).toNat % 64 = 52 := rfl
  rw [UInt64.toNat_and, UInt64.toNat_shiftRight, places, mask, Nat.and_two_pow_sub_one_eq_mod]
  unfold unpackExponent
  rw [BitVec.toNat_cast, BitVec.extractLsb_toNat]
  rfl

theorem exponent_ofFloat {x : Float} {sign : Sign} {mantissa : Nat} {exponent : Int}
    {positive : 0 < mantissa}
    (parts : x.toModel.unpack = .finite sign mantissa exponent positive)
    : (Dyadic.ofFloat x).exponent = exponent := by
  have field := toNat_unpackExponent x.toBits
  have told := (unpack_eq_finite parts).2
  simp only [Dyadic.ofFloat]
  rw [← field]
  exact told.symm

/-- A product with a hundred is finite for magnitudes below 2^1016. -/
theorem isFinite_mul_hundred {x : Float} (finite : x.isFinite = true)
    (moderate : (Dyadic.ofFloat x).exponent ≤ 963)
    : (x * Scalar.ofNat 100).isFinite = true := by
  have inRange := (isFinite_iff x).mp finite
  apply (isFinite_pack_iff (UnpackedFloat.mul Format.binary64 x.toModel.unpack
    (Scalar.ofNat 100 : Float).toModel.unpack)).mpr
  rw [unpack_hundred]
  cases parts : x.toModel.unpack with
  | zero => trivial
  | infinity | notANumber => exact (parts ▸ inRange).elim
  | finite sign mantissa exponent positive =>
      rw [exponent_ofFloat parts] at moderate
      have short : mantissa * 7036874417766400 < 2 ^ (970 + 53 - (exponent + -46)).toNat :=
        calc
          mantissa * 7036874417766400 < 2 ^ 53 * 2 ^ 53 := by
            exact Nat.mul_lt_mul_of_lt_of_lt (unpack_eq_finite parts).1 (by decide)
          _ = 2 ^ 106 := by
            rw [← Nat.pow_add]
          _ ≤ 2 ^ (970 + 53 - (exponent + -46)).toNat := by
            exact Nat.pow_le_pow_right (by decide) (by omega)
      exact exponentAtMost_roundWithAccuracy (by decide) _ .exact (by omega) short

end LatexFigures.Number
