import LatexFigures.Text.Basic

/-! What a drawing command may carry besides its coordinates: an option block, marks for the
two ends of a path, and the choice of tick marks.
-/

namespace LatexFigures

/-- The entries of an option block, in their order. -/
structure Options where
  entries : List (Text × Text) := []
deriving Repr, DecidableEq

namespace Options

/-- The key and the value of an entry with exactly one equals sign. -/
def entry? (s : Text) : Option (Text × Text) :=
  match Text.splitAll '=' s with
  | [key, value] => some (key.trim, value.trim)
  | _ => none

/-- Reads a block with its brackets; entries that are no pairs are left out. -/
def read (block : Option Text) : Options :=
  match block with
  | none => {}
  | some block =>
      let inner := Text.dropEndWhile (· = ']') (block.trim.dropWhile (· = '['))
      ⟨(Text.splitAll ',' inner).filterMap entry?⟩

/-- The value of a key, the last one if there are several. -/
def get? (options : Options) (key : String) : Option Text :=
  options.entries.reverse.lookup key.toList

/-- No entry could be read. -/
def isEmpty (options : Options) : Bool := options.entries.isEmpty

end Options

/-- A mark at the end of a path. -/
inductive EndMark
  | bare | arrow | dot
deriving Repr, DecidableEq

/-- The marks at the start and at the end of a path. -/
structure Ends where
  first : EndMark := .bare
  last : EndMark := .bare
deriving Repr, DecidableEq

namespace Ends

/-- The mark that one side of a decoration asks for: a star for a dot, which wins over the
arrow (tip).
-/
def mark (tip : Char) (side : Text) : EndMark :=
  if side.contains '*' then .dot else if side.contains tip then .arrow else .bare

/-- Reads a decoration in braces, whose one dash separates the marks of the two ends. -/
def read (decoration : Option Text) : Ends :=
  match decoration with
  | none => {}
  | some decoration =>
      let inner := Text.dropEndWhile (· = '\x7d') (decoration.trim.dropWhile (· = '\x7b'))
      match Text.splitAll '-' inner with
      | [first, last] => ⟨mark '<' first, mark '>' last⟩
      | _ => {}

end Ends

/-- The axes that carry tick marks. -/
inductive Ticks
  | all | x | y | none
deriving Repr, DecidableEq

/-- The name of a choice of tick marks. -/
def Ticks.name : Ticks → String
  | .all => "all"
  | .x => "x"
  | .y => "y"
  | .none => "none"

/-- Reads the choice of tick marks; all of them unless another choice is named. -/
def Ticks.read (value : Option Text) : Ticks :=
  ([Ticks.x, .y, .none].find? fun ticks => value = some ticks.name.toList).getD .all

end LatexFigures
