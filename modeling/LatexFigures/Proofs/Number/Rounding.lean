import LatexFigures.Proofs.Number.Packing

/-! What numbers are rounded to. The result is canonical, numbers that are canonical already stay as
they are, and the result does not depend on how a number is split into mantissa and exponent.
-/

namespace LatexFigures.Number

open Float.Model UnpackedFloat

variable {mantissa places : Nat} {exponent : Int}

-----------------------------------------------------------------------------------------
-- Dropped places
-----------------------------------------------------------------------------------------

theorem div_two_pow_lt {bits : Nat} (log : mantissa.log2 < bits + places)
    : mantissa / 2 ^ places < 2 ^ bits := by
  rw [Nat.div_lt_iff_lt_mul (Nat.two_pow_pos places), ← Nat.pow_add]
  exact Nat.lt_of_lt_of_le Nat.lt_log2_self (Nat.pow_le_pow_right (by decide) log)

theorem le_div_two_pow (bits : Nat) (positive : 0 < mantissa) (log : bits + places ≤ mantissa.log2)
    : 2 ^ bits ≤ mantissa / 2 ^ places := by
  rw [Nat.le_div_iff_mul_le (Nat.two_pow_pos places), ← Nat.pow_add]
  exact (Nat.le_log2 (Nat.ne_of_gt positive)).mp log

/-- The mantissa is not too short for its exponent, so that no zeros are missing behind it. -/
def IsFull (mantissa : Nat) (exponent : Int) : Prop := 52 ≤ mantissa.log2 ∨ exponent ≤ -1074

theorem IsCanonical.isFull_of_le (canonical : IsCanonical mantissa exponent) {rounded : Nat}
    (up : mantissa ≤ rounded)
    : IsFull rounded exponent := by
  rcases canonical.full with full | least
  · have full := Nat.le_trans full up
    have positive := Nat.lt_of_lt_of_le (Nat.two_pow_pos 52) full
    exact .inl ((Nat.le_log2 (Nat.ne_of_gt positive)).mpr full)
  · exact .inr (Int.le_of_eq least)

/-- What is left of a mantissa after the places that are dropped. -/
theorem isCanonical_div (full : IsFull mantissa exponent)
    : IsCanonical (mantissa / 2 ^ droppedPlaces mantissa exponent)
        (exponent + droppedPlaces mantissa exponent) := by
  have dropped : droppedPlaces mantissa exponent
      = (max (mantissa.log2 + 1 + exponent - 53) (-1074) - exponent).toNat := rfl
  rw [IsFull] at full
  refine ⟨div_two_pow_lt (by omega), by omega, ?_⟩
  by_cases least : exponent + droppedPlaces mantissa exponent = -1074
  · exact .inr least
  · have some : 0 < mantissa := by
      by_contra none
      obtain rfl : mantissa = 0 := by omega
      have log : (0 : Nat).log2 = 0 := rfl
      omega
    exact .inl (le_div_two_pow 52 some (by omega))

theorem droppedPlaces_le_log2 (mantissa : Nat) (least : -1074 ≤ exponent)
    : droppedPlaces mantissa exponent ≤ mantissa.log2 := by
  rw [droppedPlaces]
  omega

theorem droppedPlaces_of_isCanonical (canonical : IsCanonical mantissa exponent)
    : droppedPlaces mantissa exponent = 0 := by
  have log := log2_lt_of_lt_two_pow (by decide) canonical.short
  have least := canonical.least
  rw [droppedPlaces]
  omega

-----------------------------------------------------------------------------------------
-- Rounded mantissas
-----------------------------------------------------------------------------------------

theorem le_roundedMantissa (extended : ExtendedMantissa)
    : extended.mantissa ≤ extended.roundedMantissa := by
  unfold ExtendedMantissa.roundedMantissa Accuracy.roundToNearestEven
  split <;> omega

/-- The parts that rounding ends with: after the places that are dropped, the rounded mantissa may
have one place too much.
-/
theorem roundWithAccuracy_eq (sign : Sign) (mantissa : Nat) (exponent : Int) (accuracy : Accuracy)
    : let first := droppedPlaces mantissa exponent
      let rounded :=
        (ExtendedMantissa.ofMantissaAndAccuracy mantissa accuracy >>> first).roundedMantissa
      let second := droppedPlaces rounded (exponent + first)
      roundWithAccuracy Format.binary64 sign mantissa exponent accuracy
      = if h : rounded / 2 ^ second = 0 then .zero sign
        else
          .finite sign (rounded / 2 ^ second) (exponent + first + second)
            (Nat.pos_of_ne_zero h) := by
  intro first rounded second
  unfold roundWithAccuracy
  simp only [shiftToTargetExponent_eq, shiftRight_mantissa, ofMantissaAndAccuracy_mantissa]
  rfl

/-- A positive mantissa is not rounded to zero unless the exponent is too small for a float. What
comes out is canonical, and the leading place is not lost.
-/
theorem roundWithAccuracy_eq_finite (sign : Sign) (accuracy : Accuracy) (some : 0 < mantissa)
    (least : -1074 ≤ exponent) (full : IsFull mantissa exponent)
    : ∃ m e positive,
        roundWithAccuracy Format.binary64 sign mantissa exponent accuracy
          = .finite sign m e positive
        ∧ IsCanonical m e
        ∧ mantissa.log2 + exponent - 52 ≤ e := by
  have parts := roundWithAccuracy_eq sign mantissa exponent accuracy
  dsimp only at parts
  generalize extended
    : ExtendedMantissa.ofMantissaAndAccuracy mantissa accuracy >>> droppedPlaces mantissa exponent
      = kept at parts
  have up := le_roundedMantissa kept
  have left : kept.mantissa = mantissa / 2 ^ droppedPlaces mantissa exponent := by
    rw [← extended, shiftRight_mantissa, ofMantissaAndAccuracy_mantissa]
  rw [left] at up
  have again := isCanonical_div ((isCanonical_div full).isFull_of_le up)
  have keptSome := le_div_two_pow 0 some (by
    simpa using droppedPlaces_le_log2 mantissa least)
  have finalSome := le_div_two_pow 0 (Nat.lt_of_lt_of_le keptSome up) (by
    simpa using droppedPlaces_le_log2 kept.roundedMantissa (isCanonical_div full).least)
  rw [dif_neg (Nat.ne_of_gt finalSome)] at parts
  refine ⟨_, _, _, parts, again, ?_⟩
  have first : mantissa.log2 + exponent - 52 ≤ exponent + droppedPlaces mantissa exponent := by
    rw [droppedPlaces]
    omega
  omega

-----------------------------------------------------------------------------------------
-- Appended zeros
-----------------------------------------------------------------------------------------

theorem log2_shiftLeft (some : 0 < mantissa) (places : Nat)
    : (mantissa <<< places).log2 = mantissa.log2 + places := by
  induction places with
  | zero => rfl
  | succ places ih =>
      have left : mantissa <<< places ≠ 0 := Nat.ne_of_gt (Nat.shiftLeft_pos_iff.mpr some)
      rw [Nat.shiftLeft_succ, Nat.log2_two_mul left, ih, Nat.add_assoc]

/-- Zeros at the end of a mantissa are shifted out without a trace. -/
theorem shiftLeft_shiftRight (mantissa places more : Nat)
    : ExtendedMantissa.ofMantissaAndAccuracy (mantissa <<< places) .exact >>> (places + more)
      = ExtendedMantissa.ofMantissaAndAccuracy mantissa .exact >>> more := by
  have first (extended : ExtendedMantissa) (count : Nat)
      : extended >>> (count + 1) = extended.shiftRightOne >>> count := by
    induction count with
    | zero => rfl
    | succ count ih => exact congrArg ExtendedMantissa.shiftRightOne ih
  induction places with
  | zero => rw [Nat.zero_add, Nat.shiftLeft_zero]
  | succ places ih =>
      have last : (ExtendedMantissa.ofMantissaAndAccuracy (mantissa <<< (places + 1))
            .exact).shiftRightOne
          = ExtendedMantissa.ofMantissaAndAccuracy (mantissa <<< places) .exact := by
        rw [Nat.shiftLeft_succ]
        simp only [ExtendedMantissa.ofMantissaAndAccuracy, ExtendedMantissa.shiftRightOne]
        simp
      rw [Nat.add_right_comm, first, last, ih]

/-- How many zeros are appended to a mantissa that is too short for its exponent. -/
def appendedPlaces (mantissa : Nat) (exponent : Int) : Nat :=
  (exponent - max (mantissa.log2 + 1 + exponent - 53) (-1074)).toNat

theorem round_eq (sign : Sign) (mantissa : Nat) (exponent : Int)
    : round Format.binary64 sign mantissa exponent
      = roundWithAccuracy Format.binary64 sign
          (mantissa <<< appendedPlaces mantissa exponent)
          (exponent - appendedPlaces mantissa exponent) .exact :=
  rfl

theorem isFull_appended (some : 0 < mantissa) (exponent : Int)
    : IsFull (mantissa <<< appendedPlaces mantissa exponent)
        (exponent - appendedPlaces mantissa exponent) := by
  rw [IsFull, log2_shiftLeft some, appendedPlaces]
  omega

/-- A positive number is rounded to one with a canonical mantissa and exponent. -/
theorem round_eq_finite (sign : Sign) (some : 0 < mantissa) (least : -1074 ≤ exponent)
    : ∃ m e positive,
        round Format.binary64 sign mantissa exponent = .finite sign m e positive
        ∧ IsCanonical m e
        ∧ mantissa.log2 + exponent - 52 ≤ e := by
  have low : -1074 ≤ exponent - appendedPlaces mantissa exponent := by
    rw [appendedPlaces]
    omega
  obtain ⟨m, e, positive, rounded, canonical, leading⟩ :=
    roundWithAccuracy_eq_finite sign .exact (Nat.shiftLeft_pos_iff.mpr some) low
      (isFull_appended some exponent)
  rw [log2_shiftLeft some] at leading
  exact ⟨m, e, positive, rounded, canonical, by omega⟩

/-- Zeros at the end make no difference to a mantissa that is long enough. -/
theorem roundWithAccuracy_shiftLeft (sign : Sign) (some : 0 < mantissa)
    (full : IsFull mantissa exponent) (places : Nat)
    : roundWithAccuracy Format.binary64 sign (mantissa <<< places) (exponent - places) .exact
      = roundWithAccuracy Format.binary64 sign mantissa exponent .exact := by
  have dropped : droppedPlaces (mantissa <<< places) (exponent - places)
      = places + droppedPlaces mantissa exponent := by
    rw [IsFull] at full
    rw [droppedPlaces, droppedPlaces, log2_shiftLeft some]
    omega
  have back : exponent - places + ((places + droppedPlaces mantissa exponent : Nat) : Int)
      = exponent + droppedPlaces mantissa exponent := by
    omega
  simp only [roundWithAccuracy_eq, dropped, back, shiftLeft_shiftRight]

/-- Rounding looks at the number, not at how it is written. -/
theorem round_shiftLeft (sign : Sign) (some : 0 < mantissa) (exponent : Int) (places : Nat)
    : round Format.binary64 sign (mantissa <<< places) (exponent - places)
      = round Format.binary64 sign mantissa exponent := by
  have appended : 0 < mantissa <<< appendedPlaces mantissa exponent :=
    Nat.shiftLeft_pos_iff.mpr some
  -- the longer of the two mantissas has only zeros more
  obtain ⟨more, total⟩ : ∃ more,
      places + appendedPlaces (mantissa <<< places) (exponent - places)
        = appendedPlaces mantissa exponent + more := by
    refine Nat.exists_eq_add_of_le ?_
    rw [appendedPlaces, appendedPlaces, log2_shiftLeft some]
    omega
  have same : exponent - places - appendedPlaces (mantissa <<< places) (exponent - places)
      = exponent - appendedPlaces mantissa exponent - more := by
    omega
  rw [round_eq, round_eq, same, ← Nat.shiftLeft_add, total, Nat.shiftLeft_add]
  exact roundWithAccuracy_shiftLeft sign appended (isFull_appended some exponent) more

/-- Canonical numbers are not rounded. -/
theorem round_of_isCanonical (sign : Sign) (positive : 0 < mantissa)
    (canonical : IsCanonical mantissa exponent)
    : round Format.binary64 sign mantissa exponent = .finite sign mantissa exponent positive := by
  have none : appendedPlaces mantissa exponent = 0 := by
    have full := canonical.isFull_of_le (Nat.le_refl mantissa)
    rw [IsFull] at full
    rw [appendedPlaces]
    omega
  have whole : (ExtendedMantissa.ofMantissaAndAccuracy mantissa .exact >>> 0).roundedMantissa
      = mantissa :=
    rfl
  have dropped := droppedPlaces_of_isCanonical canonical
  rw [round_eq, none, Nat.shiftLeft_zero, Int.natCast_zero, Int.sub_zero, roundWithAccuracy_eq]
  simp only [dropped, whole, Int.natCast_zero, Int.add_zero, Nat.pow_zero, Nat.div_one]
  exact dif_neg (Nat.ne_of_gt positive)

end LatexFigures.Number
