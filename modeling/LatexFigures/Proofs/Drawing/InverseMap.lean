import Mathlib.Tactic.FieldSimp
import LatexFigures.Drawing.Frame
import LatexFigures.Proofs.Number.Hundredths

/-! The map into output units and its inverse, in exact arithmetic. There and back again a document
coordinate moves by what rounding moves its image, which a larger unit makes smaller; output
coordinates that need no rounding come back as they were.
-/

namespace LatexFigures.Frame

open Number

variable (frame : Frame Rat)

theorem x_eq (v : Rat) : frame.x v = hundredths ((v - frame.left) * frame.xunit) := rfl

theorem y_eq (v : Rat) : frame.y v = hundredths ((frame.top - v) * frame.yunit) := rfl

/-- An error of half a hundredth, in document units. -/
theorem abs_div_unit_le {error unit : Rat} (positive : 0 < unit) (small : |error| ≤ 1 / 200)
    : |error / unit| ≤ 1 / (200 * unit) := by
  rw [abs_div, abs_of_pos positive, ← div_div]
  exact div_le_div_of_nonneg_right small positive.le

variable {frame}

section Horizontal

variable (positive : 0 < frame.xunit)
include positive

theorem abs_xInv_x_sub_le (v : Rat) : |frame.xInv (frame.x v) - v| ≤ 1 / (200 * frame.xunit) := by
  have moved
      : frame.xInv (frame.x v) - v
        = (frame.x v - (v - frame.left) * frame.xunit) / frame.xunit := by
    rw [xInv]
    field_simp
    ring
  rw [moved, x_eq]
  exact abs_div_unit_le positive (abs_hundredths_sub_le _)

theorem x_xInv (k : Int) : frame.x (frame.xInv (k / 100)) = k / 100 := by
  have back : (frame.xInv (k / 100) - frame.left) * frame.xunit = k / 100 := by
    rw [xInv, add_sub_cancel_right, div_mul_cancel₀ _ positive.ne']
  rw [x_eq, back, hundredths_intCast_div]

theorem monotone_x : Monotone frame.x := by
  intro v w below
  rw [x_eq, x_eq]
  exact hundredths_mono (mul_le_mul_of_nonneg_right (by linarith) positive.le)

end Horizontal

section Vertical

variable (positive : 0 < frame.yunit)
include positive

theorem abs_yInv_y_sub_le (v : Rat) : |frame.yInv (frame.y v) - v| ≤ 1 / (200 * frame.yunit) := by
  -- the axis points down, so the error changes its sign
  have moved
      : frame.yInv (frame.y v) - v
        = -((frame.y v - (frame.top - v) * frame.yunit) / frame.yunit) := by
    rw [yInv]
    field_simp
    ring
  rw [moved, y_eq, abs_neg]
  exact abs_div_unit_le positive (abs_hundredths_sub_le _)

theorem y_yInv (k : Int) : frame.y (frame.yInv (k / 100)) = k / 100 := by
  have back : (frame.top - frame.yInv (k / 100)) * frame.yunit = k / 100 := by
    rw [yInv, sub_sub_cancel, div_mul_cancel₀ _ positive.ne']
  rw [y_eq, back, hundredths_intCast_div]

theorem antitone_y : Antitone frame.y := by
  intro v w below
  rw [y_eq, y_eq]
  exact hundredths_mono (mul_le_mul_of_nonneg_right (by linarith) positive.le)

end Vertical

/-- Coordinates invert. With positive units, and wherever the canvas lies, a document coordinate
comes back from output units with an error of at most half a hundredth of an output unit; a multiple
of a hundredth in output units comes back as it is; and the horizontal coordinate grows with what it
is the image of, while the vertical one falls.
-/
theorem coordinates_invert (xunit : 0 < frame.xunit) (yunit : 0 < frame.yunit)
    : (∀ v : Rat,
        |frame.xInv (frame.x v) - v| ≤ 1 / (200 * frame.xunit)
        ∧ |frame.yInv (frame.y v) - v| ≤ 1 / (200 * frame.yunit))
      ∧ (∀ (p : Rat) (k : Int),
          p = k / 100
          → frame.x (frame.xInv p) = p ∧ frame.y (frame.yInv p) = p)
      ∧ Monotone frame.x
      ∧ Antitone frame.y := by
  refine ⟨fun v => ⟨abs_xInv_x_sub_le xunit v, abs_yInv_y_sub_le yunit v⟩, ?_,
    monotone_x xunit, antitone_y yunit⟩
  rintro p k rfl
  exact ⟨x_xInv xunit k, y_yInv yunit k⟩

/-- In a unit of thirds the error is one two-hundredth of three exactly: the image of the number that
lies half a hundredth off the left edge is rounded away from zero.
-/
theorem coordinates_invert_at_half
    : let frame : Frame Rat := ⟨-2, 5, 1 / 3, 7⟩
      0 < frame.xunit
      ∧ 0 < frame.yunit
      ∧ frame.xInv (frame.x (-2 - 3 / 200)) - (-2 - 3 / 200) = -(1 / (200 * frame.xunit))
      ∧ |frame.yInv (frame.y (-1 / 3)) - (-1 / 3)| ≤ 1 / (200 * frame.yunit)
      ∧ frame.x (frame.xInv (-1 / 100)) = -1 / 100
      ∧ frame.y 1 ≤ frame.y (1 / 3) := by
  intro frame
  have xunit : 0 < frame.xunit := by norm_num [frame]
  have yunit : 0 < frame.yunit := by norm_num [frame]
  obtain ⟨close, back, -, antitone⟩ := coordinates_invert xunit yunit
  refine ⟨xunit, yunit, by decide +kernel, (close (-1 / 3)).2, (back _ (-1) (by norm_num)).1,
    antitone (by norm_num)⟩

end LatexFigures.Frame
