import LatexFigures.Pattern.CharClass

/-! Text patterns, built from classes of characters and assertions about a place between
characters. The order of alternatives is part of a pattern, because the first way to match
wins.
-/

namespace LatexFigures

/-- A condition on a place in a text. -/
inductive Assertion
  | textStart
  | textEnd
  /-- After a line feed or at the start. -/
  | lineStart
  /-- Before a line feed or at the end. -/
  | lineEnd
  /-- A line start where carriage returns, line feeds and both together end lines. -/
  | anyLineStart
  /-- A line end where carriage returns, line feeds and both together end lines. -/
  | anyLineEnd
  | wordBoundary
  | noWordBoundary
  | wordStart
  | wordEnd
  | noWordBefore
  | noWordAfter
deriving Repr, DecidableEq

namespace Assertion

/-- A word character stands there. -/
def isWord (c : Option Char) : Bool := c.any CharClass.word.contains

/-- The condition, given the characters before and after the place. -/
def holds (a : Assertion) (before after : Option Char) : Bool :=
  match a with
  | .textStart => before.isNone
  | .textEnd => after.isNone
  | .lineStart => before.isNone || before == some '\n'
  | .lineEnd => after.isNone || after == some '\n'
  | .anyLineStart =>
      before.isNone || before == some '\n' || (before == some '\r' && after != some '\n')
  | .anyLineEnd =>
      after.isNone || after == some '\r' || (after == some '\n' && before != some '\r')
  | .wordBoundary => isWord before != isWord after
  | .noWordBoundary => isWord before == isWord after
  | .wordStart => !isWord before && isWord after
  | .wordEnd => isWord before && !isWord after
  | .noWordBefore => !isWord before
  | .noWordAfter => !isWord after

end Assertion

/-- A text pattern. -/
inductive Pattern
  | empty
  | char (cls : CharClass)
  | assertion (condition : Assertion)
  | seq (first second : Pattern)
  /-- The first alternative is preferred. -/
  | either (first second : Pattern)
  /-- At least (least) and at most (most) times the body, as often as possible if (greedy)
  and as rarely as possible otherwise.
  -/
  | many (body : Pattern) (least : Nat) (most : Option Nat) (greedy : Bool)
  /-- Remembers the text of its last match under a number and perhaps a name. -/
  | group (index : Nat) (name : Option String) (body : Pattern)
deriving Repr, DecidableEq

namespace Pattern

/-- One pattern after another. -/
def sequence (parts : List Pattern) : Pattern := parts.foldr .seq .empty

/-- Some way to match takes up no character. -/
def matchesEmpty : Pattern → Bool
  | .empty | .assertion _ => true
  | .char _ => false
  | .seq first second => first.matchesEmpty && second.matchesEmpty
  | .either first second => first.matchesEmpty || second.matchesEmpty
  | .many body least _ _ => least == 0 || body.matchesEmpty
  | .group _ _ body => body.matchesEmpty

/-- The numbers of groups that stand in the pattern, and one more than the largest. -/
def groupBound : Pattern → Nat
  | .empty | .char _ | .assertion _ => 1
  | .seq first second | .either first second => max first.groupBound second.groupBound
  | .many body _ _ _ => body.groupBound
  | .group index _ body => max (index + 1) body.groupBound

/-- The names of the groups, with their numbers. -/
def groupNames : Pattern → List (String × Nat)
  | .empty | .char _ | .assertion _ => []
  | .seq first second | .either first second => first.groupNames ++ second.groupNames
  | .many body _ _ _ => body.groupNames
  | .group index name body => (name.map (·, index)).toList ++ body.groupNames

end Pattern

end LatexFigures
