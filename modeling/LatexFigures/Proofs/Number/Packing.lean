import LatexFigures.Proofs.Number.Finite

/-! What is left of a number when it is packed in a float and unpacked again. Canonical parts are, as
long as their exponent is in range; the sign is in any case.
-/

namespace LatexFigures.Number

open Float.Model UnpackedFloat

/-- The mantissa and the exponent are those of a float: the mantissa has 53 bits, or fewer at the
least exponent.
-/
structure IsCanonical (mantissa : Nat) (exponent : Int) : Prop where
  short : mantissa < 2 ^ 53
  least : -1074 ≤ exponent
  full : 2 ^ 52 ≤ mantissa ∨ exponent = -1074

variable {sign : Sign} {mantissa : Nat} {exponent : Int} {positive : 0 < mantissa} {x : Float}

-----------------------------------------------------------------------------------------
-- Packed fields
-----------------------------------------------------------------------------------------

theorem sign_packComponents (sign : Sign) (exponent : BitVec 11) (mantissa : BitVec 52)
    : Sign.ofBitVec
        (@unpackSign Format.binary64 (packComponents Format.binary64 sign exponent mantissa))
      = sign := by
  simp only [unpackSign, packComponents, BitVec.extractLsb]
  rw [BitVec.extractLsb'_append_eq_of_le (by decide),
    BitVec.extractLsb'_append_eq_of_le (by decide)]
  cases sign <;> rfl

theorem toNat_one_append (fraction : BitVec 52)
    : (1#1 ++ fraction).toNat = 2 ^ 52 + fraction.toNat := by
  rw [BitVec.toNat_append, ← Nat.shiftLeft_add_eq_or_of_lt fraction.isLt]
  rfl

theorem unpack_packComponents (sign : Sign) (exponent : BitVec 11) (mantissa : BitVec 52)
    : UnpackedFloat.unpack Format.binary64 (packComponents Format.binary64 sign exponent mantissa)
      = if exponent = -1#11 then if mantissa = 0#52 then .infinity sign else .notANumber
        else if exponent = 0#11 then
          if h : mantissa = 0#52 then .zero sign
          else
            .finite sign mantissa.toNat (-1074)
              (Nat.pos_of_ne_zero fun none => h (BitVec.eq_of_toNat_eq none))
        else
          .finite sign (2 ^ 52 + mantissa.toNat) (exponent.toNat - 1075)
            (Nat.add_pos_left (Nat.two_pow_pos 52) _) := by
  simp only [UnpackedFloat.unpack, unpackMantissa_packComponents, unpackExponent_packComponents,
    sign_packComponents, exponentBias_binary64, toNat_one_append]
  split
  · rfl
  · split
    · rename_i zero
      subst zero
      split <;> rfl
    · rfl

-----------------------------------------------------------------------------------------
-- Parts of a float
-----------------------------------------------------------------------------------------

theorem parts_of_isFinite (finite : x.isFinite = true)
    : (∃ sign, x.toModel.unpack = .zero sign)
      ∨ ∃ sign mantissa exponent positive,
          x.toModel.unpack = .finite sign mantissa exponent positive := by
  rw [Float.isFinite, Float.Model.isFinite] at finite
  generalize x.toModel.unpack = parts at finite
  cases parts with
  | notANumber | infinity => cases finite
  | zero sign => exact .inl ⟨sign, rfl⟩
  | finite sign mantissa exponent positive =>
      exact .inr ⟨sign, mantissa, exponent, positive, rfl⟩

/-- The parts of a float are canonical. -/
theorem isCanonical_unpack {bits : BitVec Format.binary64.numBits}
    (parts : UnpackedFloat.unpack Format.binary64 bits = .finite sign mantissa exponent positive)
    : IsCanonical mantissa exponent := by
  obtain ⟨short, told⟩ := unpack_eq_finite parts
  refine ⟨short, by omega, ?_⟩
  unfold UnpackedFloat.unpack at parts
  dsimp only at parts
  split at parts
  · split at parts <;> cases parts
  · split at parts
    · rename_i zero
      rw [zero] at told
      exact .inr told
    · obtain ⟨-, rfl, -⟩ := UnpackedFloat.finite.inj parts
      rw [toNat_one_append]
      exact .inl (Nat.le_add_right _ _)

theorem log2_add_one_eq_iff (short : mantissa < 2 ^ 53)
    : mantissa.log2 + 1 = 53 ↔ 2 ^ 52 ≤ mantissa := by
  have log := log2_lt_of_lt_two_pow (by decide) short
  rcases Nat.eq_zero_or_pos mantissa with rfl | positive
  · decide
  · rw [← Nat.le_log2 (Nat.ne_of_gt positive)]
    omega

theorem ne_of_toNat_ne {width : Nat} {a b : BitVec width} (differ : a.toNat ≠ b.toNat) : a ≠ b :=
  mt (congrArg BitVec.toNat) differ

/-- Canonical parts come back as they are if the exponent is in range. -/
theorem unpack_pack (canonical : IsCanonical mantissa exponent)
    (inRange : exponent ≤ greatestExponent)
    : (Float.Model.pack (.finite sign mantissa exponent positive)).unpack
      = .finite sign mantissa exponent positive := by
  obtain ⟨short, least, full⟩ := canonical
  change UnpackedFloat.unpack Format.binary64
    (UnpackedFloat.pack Format.binary64 (.finite sign mantissa exponent positive)) = _
  have bits : Format.binary64.mantissaBits = 53 := rfl
  rw [greatestExponent] at inRange
  simp only [UnpackedFloat.pack, exponentBias_binary64, bits, log2_add_one_eq_iff short]
  rw [if_neg (by omega)]
  split
  · rename_i normal
    have field : (BitVec.ofNat 11 (exponent + 1075).toNat).toNat = (exponent + 1075).toNat := by
      rw [BitVec.toNat_ofNat, Nat.mod_eq_of_lt (by omega)]
    have fraction : (BitVec.ofNat 52 mantissa).toNat = mantissa - 2 ^ 52 := by
      rw [BitVec.toNat_ofNat]
      omega
    have bias : exponent + (1023 : Nat) + (52 : Nat) = exponent + 1075 := by omega
    have infinite : BitVec.ofNat 11 (exponent + 1075).toNat ≠ -1#11 :=
      ne_of_toNat_ne (by rw [field]; change _ ≠ 2047; omega)
    have least : BitVec.ofNat 11 (exponent + 1075).toNat ≠ 0#11 :=
      ne_of_toNat_ne (by rw [field]; change _ ≠ 0; omega)
    rw [bias, unpack_packComponents, if_neg infinite, if_neg least]
    simp only [field, fraction, UnpackedFloat.finite.injEq, true_and]
    omega
  · rename_i subnormal
    obtain rfl := full.resolve_left subnormal
    have fraction : (BitVec.ofNat 52 mantissa).toNat = mantissa := by
      rw [BitVec.toNat_ofNat, Nat.mod_eq_of_lt (by omega)]
    have some : BitVec.ofNat 52 mantissa ≠ 0#52 :=
      ne_of_toNat_ne (by rw [fraction]; exact Nat.ne_of_gt positive)
    rw [unpack_packComponents, if_neg (by decide), if_pos rfl, dif_neg some]
    simp only [fraction]

/-- Beyond that numbers are infinite. -/
theorem unpack_pack_of_lt (beyond : greatestExponent < exponent)
    : (Float.Model.pack (.finite sign mantissa exponent positive)).unpack = .infinity sign := by
  change UnpackedFloat.unpack Format.binary64
    (UnpackedFloat.pack Format.binary64 (.finite sign mantissa exponent positive)) = _
  rw [greatestExponent] at beyond
  simp only [UnpackedFloat.pack, exponentBias_binary64]
  rw [if_pos (by omega)]
  cases sign <;> rfl

/-- A float comes back. -/
theorem unpack_pack_unpack (x : Float)
    : (Float.Model.pack x.toModel.unpack).unpack = x.toModel.unpack := by
  cases parts : x.toModel.unpack with
  | notANumber => rfl
  | zero sign | infinity sign => cases sign <;> rfl
  | finite sign mantissa exponent positive =>
      have finite : x.isFinite = true := by
        rw [Float.isFinite, Float.Model.isFinite, parts]
        rfl
      have inRange := (isFinite_iff x).mp finite
      rw [parts] at inRange
      exact unpack_pack (isCanonical_unpack parts) inRange

-----------------------------------------------------------------------------------------
-- The other reader
-----------------------------------------------------------------------------------------

/-- The fraction is cut out of the bits alike by either reader. -/
theorem toNat_unpackMantissa (bits : UInt64)
    : (@unpackMantissa Format.binary64 bits.toBitVec).toNat
      = (bits &&& 0xfffffffffffff).toNat := by
  have mask : (0xfffffffffffff : UInt64).toNat = 2 ^ 52 - 1 := rfl
  rw [UInt64.toNat_and, mask, Nat.and_two_pow_sub_one_eq_mod]
  unfold unpackMantissa
  rw [BitVec.toNat_cast, BitVec.extractLsb_toNat]
  rfl

/-- The same for the sign. -/
theorem toNat_unpackSign (bits : UInt64)
    : (@unpackSign Format.binary64 bits.toBitVec).toNat = (bits >>> 63).toNat := by
  have places : (63 : UInt64).toNat % 64 = 63 := rfl
  have single : bits.toNat >>> 63 < 2 := by
    have below := bits.toNat_lt
    rw [Nat.shiftRight_eq_div_pow]
    omega
  rw [UInt64.toNat_shiftRight, places, ← Nat.mod_eq_of_lt single]
  unfold unpackSign
  rw [BitVec.toNat_cast, BitVec.extractLsb_toNat]
  rfl

theorem negative_ofFloat (x : Float)
    : (Dyadic.ofFloat x).negative
      = (Sign.ofBitVec (@unpackSign Format.binary64 x.toBits.toBitVec) == .negative) := by
  have side := toNat_unpackSign x.toBits
  change (x.toBits >>> 63 != 0) = _
  rcases BitVec.eq_zero_or_eq_one (@unpackSign Format.binary64 x.toBits.toBitVec) with bit | bit
  · rw [bit] at side ⊢
    have none : x.toBits >>> 63 = 0 := UInt64.toNat_inj.mp side.symm
    rw [none]
    rfl
  · rw [bit] at side ⊢
    have one : x.toBits >>> 63 = 1 := UInt64.toNat_inj.mp side.symm
    rw [one]
    rfl

theorem mantissa_ofFloat (x : Float)
    : (Dyadic.ofFloat x).mantissa
      = if @unpackExponent Format.binary64 x.toBits.toBitVec = 0#11 then
          (@unpackMantissa Format.binary64 x.toBits.toBitVec).toNat
        else (1#1 ++ @unpackMantissa Format.binary64 x.toBits.toBitVec).toNat := by
  have leading : leadingBit = 2 ^ 52 := rfl
  simp only [Dyadic.ofFloat]
  rw [← toNat_unpackExponent, ← toNat_unpackMantissa, toNat_one_append, leading, Nat.add_comm]
  simp only [← BitVec.toNat_inj]
  rfl

/-- The parts of a float are found alike by either reader. -/
theorem ofFloat_of_finite
    (parts : x.toModel.unpack = .finite sign mantissa exponent positive)
    : Dyadic.ofFloat x = ⟨sign == .negative, mantissa, exponent⟩ := by
  have fields : (Dyadic.ofFloat x).negative = (sign == .negative)
      ∧ (Dyadic.ofFloat x).mantissa = mantissa := by
    rw [negative_ofFloat, mantissa_ofFloat]
    change UnpackedFloat.unpack Format.binary64 x.toBits.toBitVec = _ at parts
    unfold UnpackedFloat.unpack at parts
    dsimp only at parts
    split at parts
    · split at parts <;> cases parts
    · split at parts
      · rename_i least
        split at parts
        · cases parts
        · obtain ⟨rfl, rfl, -⟩ := UnpackedFloat.finite.inj parts
          exact ⟨rfl, if_pos least⟩
      · rename_i normal
        obtain ⟨rfl, rfl, -⟩ := UnpackedFloat.finite.inj parts
        exact ⟨rfl, if_neg normal⟩
  rw [← fields.1, ← fields.2, ← exponent_ofFloat parts]

theorem mantissa_ofFloat_of_zero (parts : x.toModel.unpack = .zero sign)
    : (Dyadic.ofFloat x).mantissa = 0 := by
  rw [mantissa_ofFloat]
  change UnpackedFloat.unpack Format.binary64 x.toBits.toBitVec = _ at parts
  unfold UnpackedFloat.unpack at parts
  dsimp only at parts
  split at parts
  · split at parts <;> cases parts
  · split at parts
    · rename_i least
      split at parts
      · rename_i none
        rw [if_pos least, none]
        rfl
      · cases parts
    · cases parts

end LatexFigures.Number
