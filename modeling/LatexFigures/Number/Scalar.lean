import LatexFigures.Number.Dyadic

/-! The arithmetic that coordinates need. Floats run it; over rationals the same formulas are
exact, which is where statements about them live.
-/

namespace LatexFigures.Number

/-- Numbers that serve as coordinates. -/
class Scalar (α : Type) extends Add α, Sub α, Mul α, Div α, LE α, OfScientific α where
  decidableLE : DecidableLE α
  /-- Neither infinite nor not a number. -/
  isFinite : α → Bool
  /-- The greatest whole number that is not above. -/
  floor : α → α
  /-- The nearest whole number, halves away from zero. -/
  roundAway : α → α
  ofNat : Nat → α
  /-- The natural number that a whole number of moderate size stands for. -/
  toNat : α → Nat

attribute [reducible, instance] Scalar.decidableLE

/-- Binary64 arithmetic. -/
@[reducible] instance : Scalar Float where
  decidableLE := inferInstance
  isFinite := Float.isFinite
  floor := Number.floor
  roundAway := Number.roundAway
  ofNat n := n.toUInt64.toFloat
  toNat x := x.toUInt64.toNat

/-- Exact arithmetic. -/
@[reducible] instance : Scalar Rat where
  decidableLE := inferInstance
  isFinite _ := true
  floor x := x.floor
  roundAway x := if 0 ≤ x then (x + 1 / 2).floor else -((-x + 1 / 2).floor : Rat)
  ofNat n := n
  toNat x := x.floor.toNat

/-- Two decimals, the precision of output coordinates. -/
@[specialize] def hundredths {α : Type} [Scalar α] (x : α) : α :=
  Scalar.roundAway (x * Scalar.ofNat 100) / Scalar.ofNat 100

end LatexFigures.Number
