import LatexFigures.Proofs.Drawing.Divisors
import LatexFigures.Proofs.Drawing.PlotSamples
import LatexFigures.Proofs.Number.WholeNumbers

/-! How many samples a plot has. Whatever the ends of the domain are, and even if their distance
overflows, the number of samples is whole and never above the limit; it is 0 exactly for a domain
that ends before it begins. The first sample is the beginning of the domain.
-/

namespace LatexFigures

open Number Float.Model

namespace Sampling

variable {first last x : Float}

-----------------------------------------------------------------------------------------
-- Steps
-----------------------------------------------------------------------------------------

/-- The number of steps in a domain that does not end before it begins, if only an infinite one. -/
theorem zero_le_steps (finite : first.isFinite = true) (finite' : last.isFinite = true)
    (le : first ≤ last)
    : 0 ≤ (last - first) / step + tolerance := by
  have isFinite_step : (step : Float).isFinite = true := by decide +kernel
  have zero_lt_step : (0 : Float) < step := by decide +kernel
  have zero_le_tolerance : (0 : Float) ≤ tolerance := by decide +kernel
  exact zero_le_add (zero_le_div (zero_le_sub finite finite' le) isFinite_step zero_lt_step)
    zero_le_tolerance

theorem limit_le_nearest {n : Nat} : (Scalar.ofNat limit : Float) ≤ nearest n ↔ limit ≤ n :=
  nearest_le_nearest (by decide)

/-- Whole steps are not negative, and with the sample at the end they are a whole number, unless
they are infinitely many.
-/
theorem floor_steps (nonnegative : 0 ≤ x)
    : Scalar.ofNat 0 ≤ floor x
      ∧ ((Scalar.ofNat limit : Float) ≤ floor x + Scalar.ofNat 1
        ∨ ∃ n, floor x + Scalar.ofNat 1 = nearest (n + 1)) := by
  cases finite : x.isFinite with
  | true =>
      obtain ⟨n, whole⟩ := isWhole_floor nonnegative finite
      exact ⟨(zero_le_iff _).mpr whole.isNonnegative, .inr ⟨n, whole.add_one⟩⟩
  | false =>
      have same : floor x = x := by
        simp only [floor, toWhole, finite, Bool.false_eq_true, if_false]
      have infinite : x.toModel.unpack = .infinity .positive := by
        have number := (zero_le_iff x).mp nonnegative
        rw [Float.isFinite, Float.Model.isFinite] at finite
        generalize x.toModel.unpack = parts at finite number
        cases number with
        | zero | finite => cases finite
        | infinity => rfl
      rw [same]
      refine ⟨nonnegative, .inl ((le_iff _ _).mpr ?_)⟩
      change (Scalar.ofNat limit : Float).toModel.unpack.le
        (Float.Model.pack
          (UnpackedFloat.add Format.binary64 x.toModel.unpack
            (Scalar.ofNat 1 : Float).toModel.unpack)).unpack
        = true
      rw [infinite]
      rfl

/-- The number of samples is whole, at most the limit, and 0 exactly for a domain that ends before
it begins.
-/
theorem countValue_eq_ofNat (finite : first.isFinite = true) (finite' : last.isFinite = true)
    : ∃ n ≤ limit, countValue first last = Scalar.ofNat n ∧ (n = 0 ↔ last < first) := by
  have opposite := not_le_iff_lt (isNaN_of_isFinite finite) (isNaN_of_isFinite finite')
  rw [← opposite]
  by_cases le : first ≤ last
  · obtain ⟨nonnegative, sum⟩ := floor_steps (zero_le_steps finite finite' le)
    have ordered : first ≤ last
        ∧ Scalar.ofNat 0 ≤ Scalar.floor ((last - first) / step + tolerance) :=
      ⟨le, nonnegative⟩
    have counted : countValue first last
        = if Scalar.ofNat limit ≤ floor ((last - first) / step + tolerance) + Scalar.ofNat 1 then
            Scalar.ofNat limit
          else floor ((last - first) / step + tolerance) + Scalar.ofNat 1 := by
      simp only [countValue]
      rw [if_pos ordered]
      rfl
    rw [counted]
    split
    · exact ⟨limit, Nat.le_refl _, rfl, iff_of_false (by decide) (not_not_intro le)⟩
    · rename_i below
      obtain ⟨n, sum⟩ := sum.resolve_left below
      rw [sum, limit_le_nearest, Nat.not_le] at below
      have small : n + 1 < 2 ^ 64 := Nat.lt_trans below (by decide)
      exact ⟨n + 1, Nat.le_of_lt below, sum.trans (ofNat_eq_nearest small).symm,
        iff_of_false n.succ_ne_zero (not_not_intro le)⟩
  · have disordered : ¬ (first ≤ last
        ∧ Scalar.ofNat 0 ≤ Scalar.floor ((last - first) / step + tolerance)) :=
      fun ordered => le ordered.1
    have few : ¬ (Scalar.ofNat limit : Float) ≤ Scalar.ofNat 0 := by decide +kernel
    refine ⟨0, Nat.zero_le _, ?_, iff_of_true rfl le⟩
    simp only [countValue]
    rw [if_neg disordered, if_neg few]

theorem toNat_ofNat {n : Nat} (few : n ≤ limit) : Scalar.toNat (Scalar.ofNat n : Float) = n := by
  have short : n < 2 ^ 53 := Nat.lt_of_le_of_lt few (by decide)
  rw [ofNat_eq_nearest (by omega)]
  exact (isWhole_nearest short).toNat (by omega)

-----------------------------------------------------------------------------------------
-- First sample
-----------------------------------------------------------------------------------------

/-- The first sample is the beginning of the domain, or both are zeros. -/
theorem unpack_sample_zero (first : Float)
    : (sample first 0).toModel.unpack = first.toModel.unpack
      ∨ ((sample first 0 == 0) = true ∧ (first == 0) = true) := by
  have nothing : (Scalar.ofNat 0 * step : Float).toModel.unpack = .zero .positive := rfl
  have sum : (sample first 0).toModel.unpack
      = (Float.Model.pack
          (UnpackedFloat.add Format.binary64 first.toModel.unpack (.zero .positive))).unpack := by
    rw [← nothing]
    rfl
  have back := unpack_pack_unpack first
  rw [beq_zero_iff, beq_zero_iff, sum]
  cases parts : first.toModel.unpack with
  | zero sign => cases sign <;> exact .inr ⟨⟨.positive, rfl⟩, _, rfl⟩
  | notANumber | infinity | finite =>
      rw [parts] at back
      exact .inl back

end Sampling

namespace Frame

variable (frame : Frame Float) {v w : Float}

/-- The place of a coordinate is told by its parts. -/
theorem x_congr (same : v.toModel.unpack = w.toModel.unpack) : frame.x v = frame.x w := by
  have difference : v - frame.left = w - frame.left :=
    congrArg (fun parts => Float.ofModel (Float.Model.pack
      (UnpackedFloat.sub Format.binary64 parts frame.left.toModel.unpack))) same
  have finite : Scalar.isFinite v = Scalar.isFinite w := congrArg UnpackedFloat.isFinite same
  rw [x, x, place, place, difference, finite]

/-- Zeros of either sign have the same place, or places that are zeros again. -/
theorem x_sameButZeros (same : SameButZeros v w) : SameButZeros (frame.x v) (frame.x w) := by
  have output := (same.sub frame.left).mul frame.xunit
  have finite : Scalar.isFinite v = Scalar.isFinite w := same.isFinite
  have finite' : Scalar.isFinite ((v - frame.left) * frame.xunit)
      = Scalar.isFinite ((w - frame.left) * frame.xunit) :=
    output.isFinite
  rw [x, x, place, place, finite, finite']
  split
  · exact output.hundredths
  · exact .inl rfl

end Frame

namespace Command.Plot

/-- The first point of a plot that has one. -/
theorem head?_points (c : Plot) (ctx : Context)
    (positive : 0 < Sampling.count (ctx.eval c.first) (ctx.eval c.last))
    : ∃ y,
        (c.geometry ctx).points.head?
        = some ⟨ctx.frame.x (Sampling.sample (ctx.eval c.first) 0), y⟩ := by
  rw [List.head?_eq_getElem?, c.getElem?_points ctx positive]
  exact ⟨_, rfl⟩

/-- Whatever a plot's domain is, and even if its width overflows: the number of samples, before it is
taken as a natural number, is a whole number from 0 to the limit, and neither infinite nor not a
number; the curve has as many points. It has none exactly if the domain ends before it begins.
Otherwise the first point stands where the domain begins: its coordinate is the same float, or if the
domain begins at a zero of either sign, both may be zeros.
-/
theorem points_bounded (c : Plot) (ctx : Context)
    : let first := ctx.eval c.first
      let last := ctx.eval c.last
      let points := (c.geometry ctx).points
      (Sampling.countValue first last).isFinite = true
      ∧ (∃ n ≤ Sampling.limit, Sampling.countValue first last = Scalar.ofNat n
          ∧ points.length = n)
      ∧ (points = [] ↔ last < first)
      ∧ (¬ last < first →
          1 ≤ points.length
          ∧ ∃ p, points.head? = some p
            ∧ (p.x = ctx.frame.x first
              ∨ ((first == 0) = true ∧ (p.x == 0) = true ∧ (ctx.frame.x first == 0) = true))) := by
  intro first last points
  obtain ⟨n, few, value, empty⟩ := Sampling.countValue_eq_ofNat (ctx.isFinite_eval c.first)
    (ctx.isFinite_eval c.last)
  have count : Sampling.count first last = n := by
    rw [Sampling.count, value, Sampling.toNat_ofNat few]
  have length : points.length = n := by
    simp only [points, geometry, Sampling.grid, List.length_map, List.length_range]
    exact count
  refine ⟨?_, ⟨n, few, value, length⟩, ?_, fun ordered => ?_⟩
  · rw [value]
    exact isFinite_toFloat n.toUInt64
  · rw [← List.length_eq_zero_iff, length, empty]
  · have positive : 0 < n := Nat.pos_of_ne_zero (mt empty.mp ordered)
    obtain ⟨y, head⟩ := c.head?_points ctx (count ▸ positive)
    refine ⟨length ▸ positive, _, head, ?_⟩
    rcases Sampling.unpack_sample_zero first with same | zeros
    · exact .inl (ctx.frame.x_congr same)
    · exact (ctx.frame.x_sameButZeros (.inr zeros)).imp_right fun images => ⟨zeros.2, images⟩

/-- The distance of these ends is infinite, and the curve has as many points as a curve may have. -/
theorem points_bounded_of_overflow
    : let ctx := Context.initial ⟨0, 0⟩ ⟨4, 4⟩ {}
      let c : Plot := ⟨none, "-1e308".toList, "1e308".toList, "x".toList⟩
      let first := ctx.eval c.first
      let last := ctx.eval c.last
      (last - first).isInf = true
      ∧ ¬ last < first
      ∧ (c.geometry ctx).points.length = Sampling.limit
      ∧ ∃ p, (c.geometry ctx).points.head? = some p ∧ p.x = ctx.frame.x first := by
  intro ctx c first last
  have ordered : ¬ last < first := by decide +kernel
  have most : Sampling.countValue first last = Scalar.ofNat Sampling.limit := by decide +kernel
  have nonzero : (first == 0) ≠ true := by decide +kernel
  obtain ⟨-, ⟨n, few, value, length⟩, -, begins⟩ := points_bounded c ctx
  obtain ⟨-, p, head, place⟩ := begins ordered
  have same : n = Sampling.limit := by
    rw [← Sampling.toNat_ofNat few, ← value]
    exact (congrArg Scalar.toNat most).trans (Sampling.toNat_ofNat (Nat.le_refl _))
  exact ⟨by decide +kernel, ordered, length.trans same, p, head,
    place.resolve_right fun zeros => nonzero zeros.1⟩

end Command.Plot

end LatexFigures
