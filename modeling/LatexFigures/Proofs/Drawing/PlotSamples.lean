import LatexFigures.Drawing.Plan
import LatexFigures.Proofs.Expr.Literal

/-! The samples of a plot. Its function is compiled once, not read afresh at each sample, and the
samples are those of fresh readings nevertheless, as long as the function is not a literal that is
read directly alone.
-/

namespace LatexFigures

namespace Command.Plot

variable {function : Text} (bindings : Bindings) (x : Float)

/-- The value at a sample is that of the text, errors included, which count as 0. -/
theorem valueAt_compile (own : ¬ Expr.IsForeignLiteral function)
    : valueAt (Expr.compile function) bindings x
      = Expr.evaluateOr 0 function { locals := [("x", x)], bindings } := by
  cases compiled : Expr.compile function with
  | ok e =>
      have same := Expr.evaluate_eq_eval compiled { locals := [("x", x)], bindings }
      cases value : e.eval { locals := [("x", x)], bindings } with
      | ok y => simp only [valueAt, Expr.evaluateOr, same, value]
      | error error => simp only [valueAt, Expr.evaluateOr, same, value]
  | error error =>
      have other : Number.Literal.finite? function.trim = none := by
        rw [← Option.not_isSome_iff_eq_none]
        exact fun literal => own (Expr.isForeignLiteral_iff.mpr ⟨literal, error, compiled⟩)
      rw [Expr.evaluateOr, Expr.evaluate_of_compile_error compiled, other]
      rfl

theorem valueAt_of_isForeignLiteral (foreign : Expr.IsForeignLiteral function)
    : valueAt (Expr.compile function) bindings x = 0 := by
  obtain ⟨-, error, rejected⟩ := Expr.isForeignLiteral_iff.mp foreign
  rw [rejected]
  rfl

/-- The grid of the domain is sampled point by point. -/
theorem getElem?_points (c : Plot) (ctx : Context) {i : Nat}
    (inside : i < Sampling.count (ctx.eval c.first) (ctx.eval c.last))
    : (c.geometry ctx).points[i]?
      = some (ctx.point ⟨Sampling.sample (ctx.eval c.first) i,
          valueAt (Expr.compile c.function) ctx.bindings
            (Sampling.sample (ctx.eval c.first) i)⟩) := by
  simp only [geometry, Sampling.grid, List.getElem?_map, List.getElem?_range inside,
    Option.map_some]
  rfl

/-- A plot has a point for each place of the grid: sample (i) is the image of the place and of the
value that the text of the function has there, or 0 if it has none. Only a literal among blanks
that do not stand between words is plotted as 0, whatever its value is.
-/
theorem points_geometry (c : Plot) (ctx : Context)
    : let first := ctx.eval c.first
      let count := Sampling.count first (ctx.eval c.last)
      (c.geometry ctx).points.length = count
      ∧ ∀ i < count,
          let x := Sampling.sample first i
          let y := ctx.evalWith c.function [("x", x)]
          (c.geometry ctx).points[i]?
            = some (ctx.point ⟨x, if Expr.IsForeignLiteral c.function then 0 else y⟩)
          ∧ (Expr.IsForeignLiteral c.function →
              Number.Literal.finite? c.function.trim = some y) := by
  intro first count
  refine ⟨by simp [geometry, Sampling.grid, first, count], fun i inside => ?_⟩
  intro x y
  constructor
  · rw [c.getElem?_points ctx inside]
    split
    · rename_i foreign
      rw [valueAt_of_isForeignLiteral _ _ foreign]
    · rename_i own
      rw [valueAt_compile _ _ own]
      rfl
  · intro foreign
    obtain ⟨value, literal⟩ := Option.isSome_iff_exists.mp foreign.1
    rw [literal]
    exact congrArg some (Expr.evaluateOr_of_finite? literal 0 _).symm

/-- Behind a no-break space the number 3 is plotted as 0. Wherever else such a text is evaluated, its
value is 3.
-/
theorem points_geometry_of_no_break_space
    : let ctx := Context.initial ⟨0, 0⟩ ⟨4, 4⟩ {}
      let three : Text := ['\xa0', '3']
      let plot : Plot := ⟨none, "0".toList, "0".toList, three⟩
      let line := "\\psplot\x7b0\x7d\x7b0\x7d\x7b".toList ++ three ++ ['\x7d']
      (Plan.interpret [line] ctx).1.records.map (·.command) = [Command.plot plot]
      ∧ (plot.geometry ctx).points = [ctx.point ⟨0, 0⟩]
      ∧ ctx.evalWith three [("x", 0)] = 3
      ∧ ctx.point ⟨0, 3⟩ ≠ ctx.point ⟨0, 0⟩ := by
  decide +kernel

end Command.Plot

end LatexFigures
