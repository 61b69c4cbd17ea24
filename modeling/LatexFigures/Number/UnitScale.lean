/-! Numbers that passed a check: finite ones, and unit scales, which are positive as well. -/

namespace LatexFigures.Number

/-- Why a number is refused. -/
inductive NumericError
  | notANumber
  | infinite
  | zero
  | negative
deriving Repr, DecidableEq

/-- The wording of a refusal. -/
def NumericError.message : NumericError → String
  | .notANumber => "value is NaN"
  | .infinite => "value is infinite"
  | .zero => "value is zero"
  | .negative => "value is negative"

/-- Refuses what is not finite. -/
def finite (x : Float) : Except NumericError Float :=
  if x.isNaN then .error .notANumber
  else if x.isInf then .error .infinite
  else .ok x

/-- Output units per document unit along one axis, finite and positive. -/
structure UnitScale where
  raw : Float
  isFinite : raw.isFinite = true
  positive : 0 < raw
deriving DecidableEq

namespace UnitScale

/-- One centimetre, the unit that holds until another one is declared. -/
def centimetre : UnitScale := ⟨50, by decide +kernel, by decide +kernel⟩

instance : Inhabited UnitScale := ⟨centimetre⟩

/-- Accepts finite positive numbers; of several faults the first in the order not a number,
infinite, zero, negative is reported.
-/
def ofFloat (x : Float) : Except NumericError UnitScale :=
  if x.isNaN then .error .notANumber
  else if hf : x.isFinite = true then
    if x == 0 then .error .zero
    else if hp : 0 < x then .ok ⟨x, hf, hp⟩
    else .error .negative
  else .error .infinite

end UnitScale

end LatexFigures.Number
