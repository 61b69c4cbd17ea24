import LatexFigures.Proofs.Number.Comparison

/-! The sign of a zero. It is lost in no other sign than that of a zero: what is computed of either
zero is the same float, or a zero again.
-/

namespace LatexFigures.Number

open Float.Model UnpackedFloat

variable {x y : Float}

/-- The same float, or zeros of either sign. -/
def SameButZeros (x y : Float) : Prop := x = y ∨ ((x == 0) = true ∧ (y == 0) = true)

theorem beq_zero_iff (x : Float) : (x == 0) = true ↔ ∃ sign, x.toModel.unpack = .zero sign := by
  rw [beq_iff, unpack_zero]
  generalize x.toModel.unpack = parts
  cases parts with
  | zero sign => exact iff_of_true rfl ⟨sign, rfl⟩
  | notANumber => exact iff_of_false Bool.false_ne_true (fun ⟨_, same⟩ => nomatch same)
  | infinity sign | finite sign =>
      cases sign <;> exact iff_of_false Bool.false_ne_true (fun ⟨_, same⟩ => nomatch same)

theorem unpack_pack_zero (sign : Sign) : (Float.Model.pack (.zero sign)).unpack = .zero sign := by
  cases sign <;> rfl

/-- An operation on parts, of which those of zeros are all the same or are zeros. -/
theorem SameButZeros.map (same : SameButZeros x y) (f : UnpackedFloat → UnpackedFloat)
    (zeros
      : ∀ sign sign',
          f (.zero sign) = f (.zero sign')
          ∨ ∃ s s', f (.zero sign) = .zero s ∧ f (.zero sign') = .zero s')
    : SameButZeros (Float.ofModel (Float.Model.pack (f x.toModel.unpack)))
        (Float.ofModel (Float.Model.pack (f y.toModel.unpack))) := by
  rcases same with rfl | ⟨zero, zero'⟩
  · exact .inl rfl
  · obtain ⟨sign, parts⟩ := (beq_zero_iff x).mp zero
    obtain ⟨sign', parts'⟩ := (beq_zero_iff y).mp zero'
    rw [parts, parts']
    rcases zeros sign sign' with equal | ⟨s, s', result, result'⟩
    · rw [equal]
      exact .inl rfl
    · rw [result, result']
      exact .inr ⟨(beq_zero_iff _).mpr ⟨s, unpack_pack_zero s⟩,
        (beq_zero_iff _).mpr ⟨s', unpack_pack_zero s'⟩⟩

theorem SameButZeros.sub (same : SameButZeros x y) (z : Float) : SameButZeros (x - z) (y - z) := by
  refine same.map (UnpackedFloat.sub Format.binary64 · z.toModel.unpack) fun sign sign' => ?_
  cases z.toModel.unpack with
  | notANumber | infinity | finite => exact .inl rfl
  | zero => exact .inr ⟨_, _, (apply_ite _ _ _ _).symm, (apply_ite _ _ _ _).symm⟩

theorem SameButZeros.mul (same : SameButZeros x y) (z : Float) : SameButZeros (x * z) (y * z) := by
  refine same.map (UnpackedFloat.mul Format.binary64 · z.toModel.unpack) fun sign sign' => ?_
  cases z.toModel.unpack with
  | notANumber | infinity => exact .inl rfl
  | zero | finite => exact .inr ⟨_, _, rfl, rfl⟩

theorem SameButZeros.div (same : SameButZeros x y) (z : Float) : SameButZeros (x / z) (y / z) := by
  refine same.map (UnpackedFloat.div Format.binary64 · z.toModel.unpack) fun sign sign' => ?_
  cases z.toModel.unpack with
  | notANumber | zero => exact .inl rfl
  | infinity | finite => exact .inr ⟨_, _, rfl, rfl⟩

theorem SameButZeros.isFinite (same : SameButZeros x y) : x.isFinite = y.isFinite := by
  rcases same with rfl | ⟨zero, zero'⟩
  · rfl
  · obtain ⟨sign, parts⟩ := (beq_zero_iff x).mp zero
    obtain ⟨sign', parts'⟩ := (beq_zero_iff y).mp zero'
    simp only [Float.isFinite, Float.Model.isFinite, parts, parts']
    rfl

/-- Zeros are whole already. -/
theorem toWhole_of_zero (choose : Dyadic → Nat) (zero : (x == 0) = true) : toWhole choose x = x := by
  obtain ⟨sign, parts⟩ := (beq_zero_iff x).mp zero
  have whole : (Dyadic.ofFloat x).isWhole = true := by
    simp [Dyadic.isWhole, Dyadic.whole, mantissa_ofFloat_of_zero parts]
  simp only [toWhole, whole, if_true, ite_self]

theorem SameButZeros.toWhole (same : SameButZeros x y) (choose : Dyadic → Nat)
    : SameButZeros (toWhole choose x) (toWhole choose y) := by
  rcases same with rfl | ⟨zero, zero'⟩
  · exact .inl rfl
  · rw [toWhole_of_zero choose zero, toWhole_of_zero choose zero']
    exact .inr ⟨zero, zero'⟩

/-- Two decimals of a zero are a zero. -/
theorem SameButZeros.hundredths (same : SameButZeros x y)
    : SameButZeros (hundredths x) (hundredths y) := by
  have product := same.mul (Scalar.ofNat 100)
  have rounded
      : SameButZeros (roundAway (x * Scalar.ofNat 100)) (roundAway (y * Scalar.ofNat 100)) :=
    product.toWhole _
  exact rounded.div (Scalar.ofNat 100)

end LatexFigures.Number
