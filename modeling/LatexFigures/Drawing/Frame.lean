import LatexFigures.Number.Scalar

/-! Points, and the map between document coordinates and output units, whose vertical axis
points down.
-/

namespace LatexFigures

/-- A point of the plane. -/
structure Point (α : Type) where
  x : α
  y : α
deriving Repr, DecidableEq

/-- What the map between coordinates depends on: the left and the top edge of the canvas in
document units, and the output units per document unit along both axes.
-/
structure Frame (α : Type) where
  left : α
  top : α
  xunit : α
  yunit : α

namespace Frame

open Number

variable {α : Type} [Scalar α] (frame : Frame α)

/-- Rounds (output), the image of (v), to two decimals; 0 if either is not finite. -/
@[specialize] def place (v output : α) : α :=
  if Scalar.isFinite v && Scalar.isFinite output then hundredths output else Scalar.ofNat 0

/-- A horizontal document coordinate in output units. -/
@[specialize] def x (v : α) : α := place v ((v - frame.left) * frame.xunit)

/-- A vertical document coordinate in output units. -/
@[specialize] def y (v : α) : α := place v ((frame.top - v) * frame.yunit)

/-- A horizontal position in document coordinates. -/
@[specialize] def xInv (p : α) : α := p / frame.xunit + frame.left

/-- A vertical position in document coordinates. -/
@[specialize] def yInv (p : α) : α := frame.top - p / frame.yunit

/-- A point in output units. -/
@[specialize] def point (p : Point α) : Point α := ⟨frame.x p.x, frame.y p.y⟩

/-- A position in document coordinates. -/
@[specialize] def pointInv (p : Point α) : Point α := ⟨frame.xInv p.x, frame.yInv p.y⟩

end Frame

end LatexFigures
