import LatexFigures.Number.UnitScale

/-! What unit scales are. They are accepted exactly if they are finite and positive, and so they can
be divided by.
-/

namespace LatexFigures.Number

/-- The number can be divided by. -/
structure IsDivisor (x : Float) : Prop where
  finite : x.isFinite = true
  nonzero : (x == 0) = false

theorem unpack_zero : (0 : Float).toModel.unpack = .zero .positive := rfl

/-- A positive number is not zero, by cases on its parts. -/
theorem beq_zero_of_pos {x : Float} (positive : 0 < x) : (x == 0) = false := by
  have less : (0 : Float).toModel.unpack.lt x.toModel.unpack = true := of_decide_eq_true positive
  change x.toModel.unpack.beq (0 : Float).toModel.unpack = false
  rw [unpack_zero] at less ⊢
  cases parts : x.toModel.unpack with
  | notANumber => rfl
  | infinity sign | finite sign => cases sign <;> rfl
  | zero sign =>
      rw [parts] at less
      cases less

theorem isNaN_of_isFinite {x : Float} (finite : x.isFinite = true) : x.isNaN = false := by
  unfold Float.isFinite Float.Model.isFinite at finite
  unfold Float.isNaN Float.Model.isNaN
  cases parts : x.toModel.unpack with
  | zero | finite => rfl
  | infinity | notANumber =>
      rw [parts] at finite
      cases finite

namespace UnitScale

/-- Exactly the finite positive numbers are accepted, as they are. -/
theorem ofFloat_eq_ok_iff {x : Float} {scale : UnitScale}
    : ofFloat x = .ok scale ↔ scale.raw = x ∧ x.isFinite = true ∧ 0 < x := by
  constructor
  · intro accepted
    unfold ofFloat at accepted
    split at accepted
    · cases accepted
    · split at accepted
      · split at accepted
        · cases accepted
        · split at accepted
          · rename_i finite _ positive
            obtain rfl := Except.ok.inj accepted
            exact ⟨rfl, finite, positive⟩
          · cases accepted
      · cases accepted
  · rintro ⟨rfl, finite, positive⟩
    have number := Bool.eq_false_iff.mp (isNaN_of_isFinite finite)
    have nonzero := Bool.eq_false_iff.mp (beq_zero_of_pos positive)
    rw [ofFloat, if_neg number, dif_pos finite, if_neg nonzero, dif_pos positive]

theorem isDivisor (scale : UnitScale) : IsDivisor scale.raw :=
  ⟨scale.isFinite, beq_zero_of_pos scale.positive⟩

end UnitScale

end LatexFigures.Number
