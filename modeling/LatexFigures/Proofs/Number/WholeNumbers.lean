import LatexFigures.Proofs.Number.Nonnegative
import LatexFigures.Proofs.Number.Rounding
import LatexFigures.Proofs.Number.ZeroSigns

/-! Whole numbers as floats. Small ones are exact, so that they are compared and read back as
themselves; one more than a whole float of any size is the float that is nearest to the next whole
number.
-/

namespace LatexFigures.Number

open Float.Model UnpackedFloat

variable {n : Nat} {x : Float}

/-- The float that is nearest to a whole number. -/
def nearest (n : Nat) : Float := Float.ofModel (Float.Model.ofNat n)

theorem ofNat_eq_nearest (small : n < 2 ^ 64) : (Scalar.ofNat n : Float) = nearest n := by
  have same : n.toUInt64.toNat = n := UInt64.toNat_ofNat_of_lt small
  change Float.ofModel (Float.Model.pack (UnpackedFloat.ofNat Format.binary64 n.toUInt64.toNat)) = _
  rw [same]
  rfl

theorem normalize_natCast (some : 0 < n) (exponent : Int) (sign : Sign)
    : UnpackedFloat.normalize Format.binary64 n exponent sign
      = round Format.binary64 .positive n exponent := by
  have greater : compare (n : Int) 0 = .gt := Int.compare_eq_gt.mpr (by omega)
  rw [UnpackedFloat.normalize, greater]
  rfl

/-- How a positive whole number is rounded. -/
theorem nearest_eq (some : 0 < n)
    : nearest n = Float.ofModel (Float.Model.pack (round Format.binary64 .positive n 0)) := by
  rw [← normalize_natCast some 0 .positive]
  rfl

theorem zero_le_nearest (n : Nat) : 0 ≤ nearest n :=
  (zero_le_iff _).mpr (isNonnegative_pack (isNonnegative_normalize (Int.natCast_nonneg n) 0 _))

-----------------------------------------------------------------------------------------
-- Exact numbers
-----------------------------------------------------------------------------------------

theorem isCanonical_shiftLeft (some : 0 < n) (short : n < 2 ^ 53)
    : IsCanonical (n <<< (52 - n.log2)) (0 - (52 - n.log2 : Nat)) := by
  have log := log2_lt_of_lt_two_pow (by decide) short
  have shifted : (n <<< (52 - n.log2)).log2 = 52 := by
    rw [log2_shiftLeft some]
    omega
  have nonzero : n <<< (52 - n.log2) ≠ 0 := Nat.ne_of_gt (Nat.shiftLeft_pos_iff.mpr some)
  obtain ⟨low, high⟩ := (Nat.log2_eq_iff nonzero).mp shifted
  exact ⟨high, by omega, .inl low⟩

/-- A number of at most 53 bits is not rounded. -/
theorem unpack_nearest (some : 0 < n) (short : n < 2 ^ 53)
    : (nearest n).toModel.unpack
      = .finite .positive (n <<< (52 - n.log2)) (0 - (52 - n.log2 : Nat))
          (Nat.shiftLeft_pos_iff.mpr some) := by
  have canonical := isCanonical_shiftLeft some short
  rw [nearest_eq some, ← round_shiftLeft .positive some 0 (52 - n.log2),
    round_of_isCanonical .positive (Nat.shiftLeft_pos_iff.mpr some) canonical]
  exact unpack_pack canonical (by rw [greatestExponent]; omega)

/-- A longer one is rounded to a whole number with at least as many bits. -/
theorem unpack_nearest_of_le (long : 2 ^ 53 ≤ n)
    : (nearest n).toModel.unpack = .infinity .positive
      ∨ ∃ m e positive,
          (nearest n).toModel.unpack = .finite .positive m e positive
          ∧ IsCanonical m e
          ∧ 0 < e := by
  have some : 0 < n := Nat.lt_of_lt_of_le (Nat.two_pow_pos 53) long
  have log : 53 ≤ n.log2 := (Nat.le_log2 (Nat.ne_of_gt some)).mpr long
  obtain ⟨m, e, positive, rounded, canonical, leading⟩ :=
    round_eq_finite .positive some (show (-1074 : Int) ≤ 0 by decide)
  rw [nearest_eq some, rounded]
  by_cases inRange : e ≤ greatestExponent
  · refine .inr ⟨m, e, positive, unpack_pack canonical inRange, canonical, by omega⟩
  · exact .inl (unpack_pack_of_lt (Int.not_le.mp inRange))

-----------------------------------------------------------------------------------------
-- Comparisons
-----------------------------------------------------------------------------------------

/-- An exact number and any other are compared like the floats nearest to them. -/
theorem nearest_le_nearest {least n : Nat} (exact : least < 2 ^ 53)
    : nearest least ≤ nearest n ↔ least ≤ n := by
  rcases Nat.eq_zero_or_pos least with rfl | someLeast
  · exact iff_of_true (zero_le_nearest n) (Nat.zero_le n)
  · rw [le_iff, unpack_nearest someLeast exact]
    rcases Nat.eq_zero_or_pos n with rfl | some
    · exact iff_of_false Bool.false_ne_true (Nat.not_le_of_lt someLeast)
    · rcases Nat.lt_or_ge n (2 ^ 53) with short | long
      · have aligned := compare_then_compare (isCanonical_shiftLeft someLeast exact)
          (isCanonical_shiftLeft some short) (show -52 ≤ _ by omega) (show -52 ≤ _ by omega)
        have back (k : Nat)
            : k <<< (52 - k.log2) <<< (0 - ((52 - k.log2 : Nat) : Int) - -52).toNat
              = k * 2 ^ 52 := by
          rw [← Nat.shiftLeft_add, Nat.shiftLeft_eq]
          congr 2
          omega
        rw [unpack_nearest some short]
        change ((compare _ _).then (compare _ _)).isLE = true ↔ _
        rw [aligned, Nat.isLE_compare, back, back]
        exact Nat.mul_le_mul_right_iff (Nat.two_pow_pos 52)
      · refine iff_of_true ?_ (by omega)
        rcases unpack_nearest_of_le long with parts | ⟨m, e, positive, parts, -, above⟩
        · rw [parts]
          rfl
        · have less : compare (0 - ((52 - least.log2 : Nat) : Int)) e = .lt :=
            Int.compare_eq_lt.mpr (by omega)
          rw [parts]
          change ((compare _ _).then (compare _ _)).isLE = true
          rw [less]
          rfl

-----------------------------------------------------------------------------------------
-- Whole floats
-----------------------------------------------------------------------------------------

/-- The parts are exactly those of a whole number. -/
inductive IsWhole : UnpackedFloat → Nat → Prop
  | zero (sign : Sign) : IsWhole (.zero sign) 0
  | finite {m : Nat} {e : Int} {n : Nat} (positive : 0 < m)
      (value : m <<< e.toNat = n <<< (-e).toNat)
    : IsWhole (.finite .positive m e positive) n

theorem IsWhole.isNonnegative {parts : UnpackedFloat} (whole : IsWhole parts n)
    : IsNonnegative parts := by
  cases whole <;> constructor

/-- Exact numbers are whole. -/
theorem isWhole_nearest (short : n < 2 ^ 53) : IsWhole (nearest n).toModel.unpack n := by
  rcases Nat.eq_zero_or_pos n with rfl | some
  · exact .zero .positive
  · rw [unpack_nearest some short]
    refine .finite _ ?_
    have up : (0 - ((52 - n.log2 : Nat) : Int)).toNat = 0 := by omega
    have down : (-(0 - ((52 - n.log2 : Nat) : Int))).toNat = 52 - n.log2 := by omega
    rw [up, down]
    rfl

theorem unpack_one
    : (Scalar.ofNat 1 : Float).toModel.unpack
      = .finite .positive (2 ^ 52) (-52) (Nat.two_pow_pos 52) :=
  rfl

/-- A whole number has the same value at every lower exponent. -/
theorem shiftLeft_eq_of_value {m : Nat} {e least : Int}
    (value : m <<< e.toNat = n <<< (-e).toNat) (low : least ≤ e) (below : least ≤ 0)
    : m <<< (e - least).toNat = n <<< (-least).toNat := by
  have up : (e - least).toNat = e.toNat + ((-least).toNat - (-e).toNat) := by omega
  have down : (-least).toNat = (-e).toNat + ((-least).toNat - (-e).toNat) := by omega
  rw [up, Nat.shiftLeft_add, value, ← Nat.shiftLeft_add, ← down]

/-- One is added in exact arithmetic, and the sum is rounded. -/
theorem IsWhole.add_one (whole : IsWhole x.toModel.unpack n)
    : x + Scalar.ofNat 1 = nearest (n + 1) := by
  have sum : UnpackedFloat.add Format.binary64 x.toModel.unpack
        (Scalar.ofNat 1 : Float).toModel.unpack
      = UnpackedFloat.ofNat Format.binary64 (n + 1) := by
    rw [unpack_one]
    generalize x.toModel.unpack = parts at whole
    cases whole with
    | zero sign => rfl
    | @finite m e _ positive value =>
        generalize least : min e (-52) = low
        have terms : m <<< (e - low).toNat + 2 ^ 52 <<< (-52 - low).toNat
            = (n + 1) <<< (-low).toNat := by
          have one : 2 ^ 52 <<< (-52 - low).toNat = 1 <<< (-low).toNat :=
            shiftLeft_eq_of_value rfl (by omega) (by omega)
          rw [shiftLeft_eq_of_value value (by omega) (by omega), one]
          simp only [Nat.shiftLeft_eq, Nat.add_mul]
        have rounded := round_shiftLeft .positive n.succ_pos 0 (-low).toNat
        have exponent : 0 - ((-low).toNat : Int) = low := by omega
        rw [exponent] at rounded
        simp only [UnpackedFloat.add, decreaseExponent, Sign.apply, least]
        rw [← Int.natCast_add, terms, normalize_natCast (Nat.shiftLeft_pos_iff.mpr n.succ_pos)]
        exact rounded.trans (normalize_natCast n.succ_pos 0 .positive).symm
  exact congrArg (fun parts => Float.ofModel (Float.Model.pack parts)) sum

/-- A whole float is read back as the number that it stands for. -/
theorem IsWhole.toNat (whole : IsWhole x.toModel.unpack n) (small : n < 2 ^ 64)
    : Scalar.toNat x = n := by
  have read : (x.toModel.unpack.toInt 0 (UInt64.size - 1)).toNat = n := by
    generalize x.toModel.unpack = parts at whole
    cases whole with
    | zero sign => rfl
    | @finite m e _ positive value =>
        have up : (e - 0).toNat = e.toNat := by omega
        have down : (0 - (e - (e.toNat : Int))).toNat = (-e).toNat := by omega
        simp only [UnpackedFloat.toInt, roundToInt, decreaseExponent, shiftToExponent, Sign.apply,
          up, down, shiftRight_mantissa, ofMantissaAndAccuracy_mantissa, value, Int.toNat_natCast]
        rw [Nat.shiftLeft_eq, Nat.mul_div_cancel _ (Nat.two_pow_pos _)]
  change (UInt64.ofNatClamp (x.toModel.unpack.toInt 0 (UInt64.size - 1)).toNat).toNat = n
  rw [read, UInt64.toNat_ofNatClamp_of_lt small]

-----------------------------------------------------------------------------------------
-- Whole parts
-----------------------------------------------------------------------------------------

/-- A number without bits behind the point is that of the bits before it. -/
theorem isWhole_of_dyadic {negative : Bool} {mantissa : Nat} {exponent : Int}
    (positive : 0 < mantissa) (whole : Dyadic.isWhole ⟨negative, mantissa, exponent⟩ = true)
    : ∃ n, IsWhole (.finite .positive mantissa exponent positive) n := by
  simp only [Dyadic.isWhole, Dyadic.whole, Dyadic.places, Bool.or_eq_true, decide_eq_true_eq,
    beq_iff_eq] at whole
  rcases Int.le_total 0 exponent with above | below
  · have none : (-exponent).toNat = 0 := by omega
    refine ⟨mantissa <<< exponent.toNat, .finite positive ?_⟩
    rw [none, Nat.shiftLeft_zero]
  · have none : exponent.toNat = 0 := by omega
    refine ⟨mantissa >>> (-exponent).toNat, .finite positive ?_⟩
    rw [none, Nat.shiftLeft_zero]
    rcases whole with above | whole
    · obtain rfl : exponent = 0 := by omega
      rfl
    · exact whole.symm

/-- The whole part of a number that is neither negative nor infinite is whole. -/
theorem isWhole_floor (nonnegative : 0 ≤ x) (finite : x.isFinite = true)
    : ∃ n, IsWhole (floor x).toModel.unpack n := by
  rcases parts_of_isFinite finite with ⟨sign, parts⟩ | ⟨sign, mantissa, exponent, positive, parts⟩
  · rw [floor, toWhole_of_zero _ ((beq_zero_iff x).mpr ⟨sign, parts⟩), parts]
    exact ⟨0, .zero sign⟩
  · have number := (zero_le_iff x).mp nonnegative
    rw [parts] at number
    cases number
    have told : Dyadic.ofFloat x = ⟨false, mantissa, exponent⟩ := ofFloat_of_finite parts
    simp only [floor, toWhole, finite, if_true, told]
    split
    · rename_i whole
      rw [parts]
      exact isWhole_of_dyadic positive whole
    · have short : mantissa >>> (-exponent).toNat < 2 ^ 53 := by
        rw [Nat.shiftRight_eq_div_pow]
        exact Nat.lt_of_le_of_lt (Nat.div_le_self _ _) (unpack_eq_finite parts).1
      have exact := isWhole_nearest short
      rw [← ofNat_eq_nearest (by omega)] at exact
      exact ⟨_, exact⟩

end LatexFigures.Number
