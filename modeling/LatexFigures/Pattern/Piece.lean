import LatexFigures.Pattern.Basic

/-! Pieces of a pattern that is being read. A piece knows how deep its parts are nested and how
much it weighs with all counted repetitions written out, because both are limited.
-/

namespace LatexFigures.Pattern

/-- The deepest nesting that is accepted. -/
def nestingLimit : Nat := 50

/-- The largest weight that is accepted. -/
def weightLimit : Nat := 0xa00000

/-- The weight of one step of matching. -/
def stepWeight : Nat := 32

/-- The weight of each range of characters in a step. -/
def rangeWeight : Nat := 8

/-- The weight of each way on from a step that leaves a choice. -/
def choiceWeight : Nat := 4

/-- The weight of each group number, whether the group is there or not. -/
def groupWeight : Nat := 16

/-- Part of a pattern. -/
structure Piece where
  pattern : Pattern
  nesting : Nat
  weight : Nat

namespace Piece

/-- Nothing. -/
def empty : Piece := ⟨.empty, 0, stepWeight⟩

/-- A character by itself. -/
def letter (c : Char) : Piece := ⟨.char (.single c), 0, stepWeight⟩

/-- A character of a class. -/
def set (cls : CharClass) : Piece :=
  ⟨.char cls, 0, stepWeight + rangeWeight * cls.ranges.length⟩

/-- A condition. -/
def condition (a : Assertion) : Piece := ⟨.assertion a, 0, stepWeight⟩

/-- One more than the deepest nesting of some pieces. -/
def nestingAbove (pieces : List Piece) : Nat :=
  1 + (pieces.map Piece.nesting).foldl max 0

/-- The sum of the weights of some pieces. -/
def totalWeight (pieces : List Piece) : Nat := (pieces.map Piece.weight).foldl (· + ·) 0

/-- Several pieces one after another. -/
def concat : List Piece → Piece
  | [] => empty
  | [piece] => piece
  | pieces =>
      ⟨sequence (pieces.map Piece.pattern), nestingAbove pieces, totalWeight pieces⟩

/-- Several pieces to choose from. The choice is one step with a way for each of them, and one
more step joins the ways.
-/
def choice : List Piece → Piece
  | [] => empty
  | [piece] => piece
  | first :: more =>
      ⟨more.foldl (fun choices piece => .either choices piece.pattern) first.pattern,
        nestingAbove (first :: more),
        totalWeight (first :: more) + choiceWeight * (more.length + 1) + 2 * stepWeight⟩

/-- All alternatives, of which (branches) are finished and (pieces) makes up the last one; both
come latest first.
-/
def alternatives (branches pieces : List Piece) : Piece :=
  choice (concat pieces.reverse :: branches).reverse

/-- The weight of a choice whether to go on. -/
def loopWeight : Nat := stepWeight + 2 * choiceWeight

/-- The weight of a repetition, whose bounds differ from exactly none and exactly one. -/
def repeatedWeight (piece : Piece) (least : Nat) : Option Nat → Nat
  | some most =>
      if least = most then least * piece.weight
      else if most = 1 then piece.weight + loopWeight + stepWeight
      else
        (if least = 0 then stepWeight else least * piece.weight) + stepWeight
          + (most - least) * (loopWeight + piece.weight)
  | none =>
      if 0 < least then least * piece.weight + loopWeight
      else if piece.pattern.matchesEmpty then piece.weight + 2 * loopWeight + stepWeight
      else piece.weight + loopWeight

/-- Repeats a piece; never is nothing, and once is the piece itself. -/
def repeated (piece : Piece) (least : Nat) (most : Option Nat) (greedy : Bool) : Piece :=
  if most = some 0 then empty
  else if least = 1 ∧ most = some 1 then piece
  else
    ⟨.many piece.pattern least most greedy, piece.nesting + 1,
      piece.repeatedWeight least most⟩

/-- Remembers what a piece matches. -/
def group (index : Nat) (name : Option String) (piece : Piece) : Piece :=
  ⟨.group index name piece.pattern, piece.nesting + 1, piece.weight + 2 * stepWeight⟩

/-- The weight of a piece as a whole pattern, which is a group with one more step at its end.
Names weigh as many bytes as they have, and their numbers.
-/
def patternWeight (piece : Piece) : Nat :=
  (piece.group 0 none).weight + stepWeight + groupWeight * piece.pattern.groupBound
    + (piece.pattern.groupNames.map fun (name, _) => name.utf8ByteSize + choiceWeight).foldl
        (· + ·) 0

/-- The pattern, if it stays within the limits. -/
def pattern? (piece : Piece) : Option Pattern :=
  if nestingLimit < piece.nesting || weightLimit < piece.patternWeight then none
  else some piece.pattern

end Piece

end LatexFigures.Pattern
