import LatexFigures.Proofs.Number.Packing
import LatexFigures.Proofs.Number.UnitScale

/-! Comparisons of floats. Canonical parts are compared like the numbers that they stand for, and
numbers that are not less or equal are greater.
-/

namespace LatexFigures.Number

open Float.Model UnpackedFloat

variable {mantissa mantissa' : Nat} {exponent exponent' least : Int} {x y : Float}

theorem le_iff (x y : Float) : x ≤ y ↔ x.toModel.unpack.le y.toModel.unpack = true :=
  decide_eq_true_iff

theorem lt_iff (x y : Float) : x < y ↔ x.toModel.unpack.lt y.toModel.unpack = true :=
  decide_eq_true_iff

theorem beq_iff (x y : Float) : (x == y) = x.toModel.unpack.beq y.toModel.unpack := rfl

-----------------------------------------------------------------------------------------
-- Total order
-----------------------------------------------------------------------------------------

/-- Exchanging two numbers turns the outcome around. -/
theorem compare_swap (parts parts' : UnpackedFloat)
    : parts'.compare parts = (parts.compare parts').map Ordering.swap := by
  have turned (m m' : Nat) (e e' : Int)
      : (compare e' e).then (compare m' m) = ((compare e e').then (compare m m')).swap := by
    rw [Ordering.swap_then, ← Std.OrientedCmp.eq_swap, ← Std.OrientedCmp.eq_swap]
  cases parts with
  | notANumber => cases parts' <;> rfl
  | infinity sign =>
      cases parts' with
      | infinity sign' => cases sign <;> cases sign' <;> rfl
      | notANumber | zero | finite => cases sign <;> rfl
  | zero sign =>
      cases parts' with
      | notANumber | zero => rfl
      | infinity sign' | finite sign' => cases sign' <;> rfl
  | finite sign m e =>
      cases parts' with
      | notANumber => rfl
      | infinity sign' => cases sign' <;> rfl
      | zero => cases sign <;> rfl
      | finite sign' m' e' =>
          cases sign <;> cases sign' <;>
            simp only [UnpackedFloat.compare, turned m m' e e', Option.map_some, Ordering.swap]

theorem isSome_compare {parts parts' : UnpackedFloat} (number : parts.isNaN = false)
    (number' : parts'.isNaN = false)
    : (parts.compare parts').isSome = true := by
  cases parts with
  | notANumber => cases number
  | infinity sign | zero sign | finite sign =>
      cases parts' with
      | notANumber => cases number'
      | infinity sign' | zero sign' | finite sign' => cases sign <;> cases sign' <;> rfl

/-- Of two numbers the first is less or equal, or the second is less. -/
theorem not_le_iff_lt (number : x.isNaN = false) (number' : y.isNaN = false)
    : ¬ x ≤ y ↔ y < x := by
  obtain ⟨order, told⟩ := Option.isSome_iff_exists.mp (isSome_compare number number')
  rw [le_iff, lt_iff, UnpackedFloat.le, UnpackedFloat.lt, compare_swap x.toModel.unpack, told]
  cases order <;> decide

-----------------------------------------------------------------------------------------
-- Canonical numbers
-----------------------------------------------------------------------------------------

/-- The greater exponent wins, since its mantissa has all its bits. -/
theorem shiftLeft_lt_shiftLeft (canonical : IsCanonical mantissa exponent)
    (canonical' : IsCanonical mantissa' exponent') (low : least ≤ exponent)
    (less : exponent < exponent')
    : mantissa <<< (exponent - least).toNat < mantissa' <<< (exponent' - least).toNat := by
  have full : 2 ^ 52 ≤ mantissa' := canonical'.full.resolve_right (by
    have := canonical.least
    omega)
  have further : (exponent - least).toNat + 1 ≤ (exponent' - least).toNat := by omega
  simp only [Nat.shiftLeft_eq]
  calc
    mantissa * 2 ^ (exponent - least).toNat
      < 2 ^ 53 * 2 ^ (exponent - least).toNat := by
        exact Nat.mul_lt_mul_of_pos_right canonical.short (Nat.two_pow_pos _)
    _ = 2 ^ 52 * 2 ^ ((exponent - least).toNat + 1) := by
        rw [← Nat.pow_add, ← Nat.pow_add]
        congr 1
        omega
    _ ≤ mantissa' * 2 ^ (exponent' - least).toNat := by
        exact Nat.mul_le_mul full (Nat.pow_le_pow_right (by decide) further)

/-- Exponents and then mantissas are compared like the numbers, brought to one exponent. -/
theorem compare_then_compare (canonical : IsCanonical mantissa exponent)
    (canonical' : IsCanonical mantissa' exponent') (low : least ≤ exponent)
    (low' : least ≤ exponent')
    : (compare exponent exponent').then (compare mantissa mantissa')
      = compare (mantissa <<< (exponent - least).toNat)
          (mantissa' <<< (exponent' - least).toNat) := by
  rcases Int.lt_trichotomy exponent exponent' with less | rfl | greater
  · rw [Int.compare_eq_lt.mpr less]
    exact (Nat.compare_eq_lt.mpr
      (shiftLeft_lt_shiftLeft canonical canonical' low less)).symm
  · have scale : 0 < 2 ^ (exponent - least).toNat := Nat.two_pow_pos _
    have same : compare exponent exponent = .eq := Std.ReflCmp.compare_self
    rw [same, Ordering.eq_then, Nat.shiftLeft_eq, Nat.shiftLeft_eq]
    simp only [Nat.compare_eq_ite_lt, Nat.mul_lt_mul_right scale]
  · rw [Int.compare_eq_gt.mpr greater]
    exact (Nat.compare_eq_gt.mpr
      (shiftLeft_lt_shiftLeft canonical' canonical low' greater)).symm

end LatexFigures.Number
