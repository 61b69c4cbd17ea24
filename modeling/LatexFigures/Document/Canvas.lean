import LatexFigures.Drawing.Frame
import LatexFigures.Number.Literal

/-! The canvas that the opening delimiter of a figure gives. -/

namespace LatexFigures

/-- The corners of a canvas in document units. -/
structure Canvas where
  lowerLeft : Point Float
  upperRight : Point Float
deriving Repr, DecidableEq

namespace Canvas

/-- The parts of a pair in parentheses, cut at its first comma, and what follows. -/
def pair? : Text → Option ((Text × Text) × Text)
  | '(' :: s => do
      let (inner, rest) ← Text.splitFirst? ')' s
      return (← Text.splitFirst? ',' inner, rest)
  | _ => none

/-- The leftmost pair and what follows. -/
def firstPair? : Text → Option ((Text × Text) × Text)
  | [] => none
  | c :: rest => (pair? (c :: rest)).or (firstPair? rest)

/-- A pair of finite numbers as a point. -/
def point? (p : Text × Text) : Option (Point Float) := do
  return ⟨← Number.Literal.finite? p.1.trim, ← Number.Literal.finite? p.2.trim⟩

/-- Reads the canvas off an opening delimiter: the leftmost pair and one that follows it, or the
leftmost pair alone for a canvas with its lower left corner at zero.
-/
def read? (header : Text) : Option Canvas := do
  let (first, rest) ← firstPair? header
  let corner ← point? first
  match pair? (rest.dropWhile Text.isSpace) with
  | some (second, _) => return ⟨corner, ← point? second⟩
  | none => return ⟨⟨0, 0⟩, corner⟩

end Canvas

end LatexFigures
