import LatexFigures.Proofs.Expr.Marks
import LatexFigures.Proofs.Drawing.Interpretation

/-! Pairs of arbitrary expressions. A pair is cut out of its line before its expressions are read,
at the first closing parenthesis, so that it is the pair that is written exactly if neither
expression holds one.
-/

namespace LatexFigures

-----------------------------------------------------------------------------------------
-- The pair that is cut out
-----------------------------------------------------------------------------------------

namespace Command

/-- The line from the origin to a pair. -/
def lineTo (x y : Text) : Command := .line ⟨none, none, ⟨Text.trim x, Text.trim y⟩, none⟩

theorem lineTo_inj {x y x' y' : Text}
    : lineTo x y = lineTo x' y' ↔ x.trim = x'.trim ∧ y.trim = y'.trim := by
  simp [lineTo]

/-- The line to a pair of expressions ends where their values lie. -/
theorem geometry_lineTo {x y : Text} {e f : Expr} (acceptsX : Expr.compile x = .ok e)
    (acceptsY : Expr.compile y = .ok f) (ctx : Context)
    : ∃ segment,
        (lineTo x y).geometry ctx = .line segment
        ∧ segment.last = ctx.point ⟨ctx.eval x, ctx.eval y⟩ := by
  refine ⟨_, rfl, ?_⟩
  have valueX : ctx.eval x.trim = ctx.eval x := Expr.evaluateOr_trim acceptsX 0 _
  have valueY : ctx.eval y.trim = ctx.eval y := Expr.evaluateOr_trim acceptsY 0 _
  rw [← valueX, ← valueY]
  rfl

/-- A line is drawn from the origin to a single pair, if that holds a comma. -/
theorem readGroups_line_of_pair {inside behind : Text} (free : ')' ∉ inside)
    (ends : behind.head? ≠ some '(')
    : readGroups .line ('(' :: (inside ++ ')' :: behind))
      = (Text.splitLast? ',' inside).map fun (x, y) => (lineTo x y, behind) := by
  have inner : Argument.inner '(' ')' ('(' :: (inside ++ ')' :: behind))
      = some (inside, behind) := by
    have read := @Argument.inner_group '(' ')' inside free behind
    simpa [Argument.group] using read
  have second : Argument.pairOptional behind = (none, behind) :=
    Argument.pairOptional_written (p := none) (by simp) fun _ => ends
  have options : Argument.options ('(' :: (inside ++ ')' :: behind))
      = (none, '(' :: (inside ++ ')' :: behind)) := rfl
  have decoration : Argument.decoration ('(' :: (inside ++ ')' :: behind))
      = (none, '(' :: (inside ++ ')' :: behind)) := rfl
  simp only [readGroups, options, decoration, Argument.pair, inner, Option.bind_eq_bind,
    Option.bind_some]
  cases Text.splitLast? ',' inside with
  | none => rfl
  | some parts => simp [second, lineTo]

end Command

open LatexFigures.Expr (Token)
open LatexFigures.Expr.Token (Spelled)

variable {ex ey : Text} {e f : Expr}

/-- The text of two expressions as a pair, up to where the pattern of a pair ends. -/
def Pair.cut (ex ey : Text) : Text := (ex ++ ',' :: ey).takeWhile (· ≠ ')')

theorem Pair.not_mem_cut (ex ey : Text) : ')' ∉ cut ex ey := fun inside => by
  simpa using Text.of_mem_takeWhile inside

theorem Pair.cut_eq (x : ')' ∉ ex) (y : ')' ∉ ey) : cut ex ey = ex ++ ',' :: ey := by
  refine List.takeWhile_eq_self_iff.mpr fun c inside => decide_eq_true fun same => ?_
  subst same
  simp [x, y] at inside

/-- Without parentheses the comma between the expressions is the last one. -/
theorem Pair.splitLast?_cut (acceptsY : Expr.compile ey = .ok f) (x : ')' ∉ ex) (y : ')' ∉ ey)
    : Text.splitLast? ',' (cut ex ey) = some (ex, ey) := by
  have noComma : ',' ∉ ey := fun comma =>
    y ((Expr.compile_eq_ok_iff.mp acceptsY).2.closing_of_comma comma)
  rw [cut_eq x y, Text.splitLast?_append_cons ex noComma]

/-- If the pair that is cut out is the one that is written, there is no parenthesis to cut it at.
-/
theorem Pair.not_mem_of_splitLast?_cut {x y : Text}
    (cut : Text.splitLast? ',' (cut ex ey) = some (x, y)) (sameX : x.trim = ex.trim)
    (sameY : y.trim = ey.trim)
    : ')' ∉ ex ∧ ')' ∉ ey := by
  have blank : Text.isBlank ')' = false := by decide
  have free := Pair.not_mem_cut ex ey
  rw [← Text.splitLast?_eq_some cut, List.mem_append, List.mem_cons, not_or, not_or] at free
  constructor
  · rw [← Text.mem_trim blank, ← sameX, Text.mem_trim blank]
    exact free.1
  · rw [← Text.mem_trim blank, ← sameY, Text.mem_trim blank]
    exact free.2.2

/-- Behind the cut no second pair follows. -/
theorem Pair.exists_behind_cut (acceptsX : Expr.compile ex = .ok e)
    (acceptsY : Expr.compile ey = .ok f)
    : ∃ behind, ex ++ ',' :: ey ++ [')'] = cut ex ey ++ ')' :: behind
        ∧ behind.head? ≠ some '(' := by
  obtain ⟨behind, whole⟩ := Text.exists_append_mark_eq ')' (ex ++ ',' :: ey)
  refine ⟨behind, whole, ?_⟩
  obtain ⟨-, ts, spelledX, writesX⟩ := Expr.compile_eq_ok_iff.mp acceptsX
  obtain ⟨-, us, spelledY, writesY⟩ := Expr.compile_eq_ok_iff.mp acceptsY
  have second : Spelled (.comma :: us) (',' :: ey) := .cons .comma spelledY
  have spelled := (spelledX.append second).append Token.Spells.closing.spelled
  rw [whole] at spelled
  have words := Token.isChain_join writesX.isChain_continues writesY.isChain_continues
    (by simp : Token.comma ≠ .opening ∧ Token.comma ≠ .closing)
  exact spelled.head_ne_opening
    (Token.isChain_append words (List.isChain_singleton _) (by simp))

-----------------------------------------------------------------------------------------
-- The record
-----------------------------------------------------------------------------------------

namespace Plan

/-- The pair that is cut out is all that the line draws. -/
theorem interpret_line_of_cut (acceptsX : Expr.compile ex = .ok e)
    (acceptsY : Expr.compile ey = .ok f) (ctx : Context)
    : ∃ source,
        (interpret ["\\psline(".toList ++ (ex ++ ',' :: ey ++ [')'])] ctx).1.records
          = ((Text.splitLast? ',' (Pair.cut ex ey)).map fun (x, y) =>
              (Record.ofCommand source (Command.lineTo x y) ctx).1).toList := by
  obtain ⟨behind, whole, ends⟩ := Pair.exists_behind_cut acceptsX acceptsY
  have plain : '\\' ∉ '(' :: (ex ++ ',' :: ey ++ [')']) := by
    have x := (Expr.compile_eq_ok_iff.mp acceptsX).2.backslash_not_mem
    have y := (Expr.compile_eq_ok_iff.mp acceptsY).2.backslash_not_mem
    simp [x, y]
  have read : Command.readGroups .line ('(' :: (ex ++ ',' :: ey ++ [')']))
      = (Text.splitLast? ',' (Pair.cut ex ey)).map fun (x, y) =>
          (Command.lineTo x y, behind) := by
    rw [whole, Command.readGroups_line_of_pair (Pair.not_mem_cut ex ey) ends]
  have line : "\\psline(".toList ++ (ex ++ ',' :: ey ++ [')'])
      = '\\' :: (CommandKind.line.name.toList ++ '(' :: (ex ++ ',' :: ey ++ [')'])) := rfl
  refine ⟨Text.upTo ("\\psline(".toList ++ (ex ++ ',' :: ey ++ [')'])) behind, ?_⟩
  rw [interpret_named .line line plain ctx, read]
  cases Text.splitLast? ',' (Pair.cut ex ey) <;> rfl

/-- What a line with a pair of expressions draws, for any two texts that are expressions. The pair
is what stands in front of the first closing parenthesis, cut at its last comma; without a comma
nothing is drawn. That is the pair of the two expressions exactly if neither holds a closing
parenthesis, and then there is one record, whose line ends where their values lie.
-/
theorem interpret_line_of_expressions (acceptsX : Expr.compile ex = .ok e)
    (acceptsY : Expr.compile ey = .ok f) (ctx : Context)
    : let records := (interpret ["\\psline(".toList ++ (ex ++ ',' :: ey ++ [')'])] ctx).1.records
      records.map (·.command)
        = ((Text.splitLast? ',' (Pair.cut ex ey)).map fun (x, y) => Command.lineTo x y).toList
      ∧ (records.map (·.command) = [Command.lineTo ex ey] ↔ ')' ∉ ex ∧ ')' ∉ ey)
      ∧ (')' ∉ ex → ')' ∉ ey →
          ∃ record segment,
            records = [record]
            ∧ record.kind = .line
            ∧ record.geometry = .line segment
            ∧ segment.last = ctx.point ⟨ctx.eval ex, ctx.eval ey⟩) := by
  intro records
  obtain ⟨source, made⟩ : ∃ source, records = _ := interpret_line_of_cut acceptsX acceptsY ctx
  clear_value records
  have drawn : records.map (·.command)
      = ((Text.splitLast? ',' (Pair.cut ex ey)).map fun (x, y) =>
          Command.lineTo x y).toList := by
    rw [made]
    cases Text.splitLast? ',' (Pair.cut ex ey) <;> rfl
  refine ⟨drawn, ⟨fun same => ?_, fun ⟨x, y⟩ => ?_⟩, fun x y => ?_⟩
  · rw [drawn] at same
    cases cut : Text.splitLast? ',' (Pair.cut ex ey) with
    | none => simp [cut] at same
    | some parts =>
        rw [cut] at same
        obtain ⟨sameX, sameY⟩ := Command.lineTo_inj.mp (List.cons.inj same).1
        exact Pair.not_mem_of_splitLast?_cut cut sameX sameY
  · rw [drawn, Pair.splitLast?_cut acceptsY x y]
    rfl
  · rw [Pair.splitLast?_cut acceptsY x y] at made
    obtain ⟨segment, shape, last⟩ := Command.geometry_lineTo acceptsX acceptsY ctx
    exact ⟨_, segment, made, rfl, shape, last⟩

/-- Blanks around the expressions and variables in them are fine. -/
theorem interpret_line_of_expressions_of_variable
    : let line := "\\psline( 3*x,x^2 - y )".toList
      let ctx := (Context.initial ⟨0, 0⟩ ⟨4, 4⟩ {}).bind "x" 1
      ∃ record segment,
        (interpret [line] ctx).1.records = [record]
        ∧ record.kind = .line
        ∧ record.geometry = .line segment
        ∧ segment.last = ctx.point ⟨ctx.eval " 3*x".toList, ctx.eval "x^2 - y ".toList⟩ := by
  intro line ctx
  have accepted {s : Text} (accepts : (Expr.compile s).isOk) : ∃ e, Expr.compile s = .ok e := by
    cases compiled : Expr.compile s with
    | ok e => exact ⟨e, rfl⟩
    | error => simp [compiled, Except.isOk, Except.toBool] at accepts
  obtain ⟨e, acceptsX⟩ := accepted (by decide +kernel : (Expr.compile " 3*x".toList).isOk)
  obtain ⟨f, acceptsY⟩ := accepted (by decide +kernel : (Expr.compile "x^2 - y ".toList).isOk)
  exact (interpret_line_of_expressions acceptsX acceptsY ctx).2.2 (by decide) (by decide)

/-- A call in a pair cuts it short: the line is not drawn at all, or it is drawn to another pair. -/
theorem interpret_line_of_expressions_cut_short
    : let ctx := Context.initial ⟨0, 0⟩ ⟨4, 4⟩ {}
      (∀ s ∈ ["sqrt(4)".toList, "max(1,2)".toList, "1".toList], (Expr.compile s).isOk)
      ∧ (interpret ["\\psline(sqrt(4),1)".toList] ctx).1.records = []
      ∧ (interpret ["\\psline(max(1,2),1)".toList] ctx).1.records.map (·.command)
        = [Command.lineTo "max(1".toList "2".toList] := by
  exact ⟨by decide +kernel, by decide +kernel, by decide +kernel⟩

end Plan

end LatexFigures
