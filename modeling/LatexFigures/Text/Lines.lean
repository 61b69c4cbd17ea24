import LatexFigures.Text.Basic

/-! The lines of a document, with their places. -/

namespace LatexFigures.Text

/-- A line of a document. -/
structure Line where
  /-- Counted from 1. -/
  number : Nat
  /-- Where the line begins, in bytes. -/
  offset : Nat
  text : Text
deriving Repr, DecidableEq

/-- Drops one carriage return at the end. -/
def dropReturn (s : Text) : Text := if s.getLast? = some '\r' then s.dropLast else s

/-- Places raw lines one behind another. -/
def placeLines (number offset : Nat) : List Text → List Line
  | [] => []
  | raw :: more =>
      ⟨number, offset, dropReturn raw⟩ :: placeLines (number + 1) (offset + raw.byteSize + 1) more

/-- The lines of a document. Line feeds end them, and a carriage return before one belongs to
the line end.
-/
def lines (s : Text) : List Line := placeLines 1 0 (splitAll '\n' s)

end LatexFigures.Text
