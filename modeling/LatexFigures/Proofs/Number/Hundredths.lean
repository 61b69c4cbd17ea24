import Mathlib.Algebra.Order.Round
import Mathlib.Data.Rat.Floor
import Mathlib.Tactic.Linarith
import Mathlib.Tactic.Ring
import LatexFigures.Number.Scalar

/-! Rounding over the rationals. Halves go away from zero, so rounding is odd: what is shown for
numbers that are not negative holds of their opposites. From whole numbers the same is carried over to
multiples of a hundredth.
-/

namespace LatexFigures.Number

-----------------------------------------------------------------------------------------
-- Whole numbers
-----------------------------------------------------------------------------------------

theorem roundAway_of_nonneg {q : Rat} (nonneg : 0 ≤ q) : Scalar.roundAway q = round q := by
  rw [round_eq]
  exact if_pos nonneg

theorem roundAway_neg (q : Rat) : Scalar.roundAway (-q) = -Scalar.roundAway q := by
  rcases lt_trichotomy q 0 with negative | rfl | positive
  · have other : ¬ 0 ≤ q := not_le.mpr negative
    rw [roundAway_of_nonneg (by linarith), round_eq]
    simp only [Scalar.roundAway, if_neg other, neg_neg]
    rfl
  · rw [neg_zero, roundAway_of_nonneg le_rfl, round_zero, Int.cast_zero, neg_zero]
  · have other : ¬ 0 ≤ -q := by linarith
    rw [roundAway_of_nonneg positive.le, round_eq]
    simp only [Scalar.roundAway, if_neg other, neg_neg]
    rfl

theorem abs_roundAway_sub_le (q : Rat) : |Scalar.roundAway q - q| ≤ 1 / 2 := by
  rcases le_total 0 q with nonneg | nonpos
  · rw [roundAway_of_nonneg nonneg, abs_sub_comm]
    exact abs_sub_round q
  · rw [← neg_neg q, roundAway_neg, roundAway_of_nonneg (neg_nonneg.mpr nonpos), neg_sub_neg]
    exact abs_sub_round (-q)

/-- Whole numbers are not rounded. -/
theorem roundAway_intCast (k : Int) : Scalar.roundAway (k : Rat) = k := by
  rcases le_total 0 k with nonneg | nonpos
  · rw [roundAway_of_nonneg (Int.cast_nonneg nonneg), round_intCast]
  · have opposite : (0 : Rat) ≤ ((-k : Int) : Rat) := Int.cast_nonneg (neg_nonneg.mpr nonpos)
    rw [← neg_neg k, Int.cast_neg, roundAway_neg, roundAway_of_nonneg opposite, round_intCast]

theorem roundAway_le_of_nonneg {p q : Rat} (nonneg : 0 ≤ p) (below : p ≤ q)
    : Scalar.roundAway p ≤ Scalar.roundAway q := by
  rw [roundAway_of_nonneg nonneg, roundAway_of_nonneg (nonneg.trans below), round_eq, round_eq]
  exact Int.cast_le.mpr (Int.floor_le_floor (by linarith))

/-- Rounding keeps the order. Numbers on both sides of zero are kept apart by it. -/
theorem roundAway_mono : Monotone (Scalar.roundAway : Rat → Rat) := by
  intro p q below
  have zero : Scalar.roundAway (0 : Rat) = 0 := roundAway_intCast 0
  rcases le_total 0 p with nonneg | nonpos
  · exact roundAway_le_of_nonneg nonneg below
  · rcases le_total 0 q with nonneg | nonpos'
    · have left := roundAway_le_of_nonneg le_rfl (neg_nonneg.mpr nonpos)
      have right := roundAway_le_of_nonneg le_rfl nonneg
      rw [zero, roundAway_neg] at left
      rw [zero] at right
      linarith
    · have opposite := roundAway_le_of_nonneg (neg_nonneg.mpr nonpos') (neg_le_neg below)
      rw [roundAway_neg, roundAway_neg] at opposite
      linarith

-----------------------------------------------------------------------------------------
-- Hundredths
-----------------------------------------------------------------------------------------

theorem hundredths_eq (q : Rat) : hundredths q = Scalar.roundAway (q * 100) / 100 := rfl

theorem abs_hundredths_sub_le (q : Rat) : |hundredths q - q| ≤ 1 / 200 := by
  have error : hundredths q - q = (Scalar.roundAway (q * 100) - q * 100) / 100 := by
    rw [hundredths_eq]
    ring
  rw [error, abs_div, abs_of_pos (by norm_num : (0 : Rat) < 100)]
  have half := abs_roundAway_sub_le (q * 100)
  linarith

theorem hundredths_intCast_div (k : Int) : hundredths ((k : Rat) / 100) = k / 100 := by
  rw [hundredths_eq, div_mul_cancel₀ _ (by norm_num), roundAway_intCast]

theorem hundredths_mono : Monotone (hundredths : Rat → Rat) := by
  intro p q below
  rw [hundredths_eq, hundredths_eq]
  exact div_le_div_of_nonneg_right (roundAway_mono (by linarith)) (by norm_num)

end LatexFigures.Number
