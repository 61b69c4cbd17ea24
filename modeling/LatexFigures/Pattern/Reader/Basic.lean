import LatexFigures.Pattern.Piece
import LatexFigures.Text.Basic

/-! The state of reading a pattern, and the steps that move on in it. White space and comments
may be ignored on the way.
-/

namespace LatexFigures.Pattern

/-- Switches that a pattern can turn on and off for its later parts. -/
structure Flags where
  caseless : Bool := false
  multiLine : Bool := false
  dotAll : Bool := false
  swapGreed : Bool := false
  anyLineEnd : Bool := false
  verbose : Bool := false
deriving Repr, DecidableEq

/-- What is left to read, and what the part read so far decides about it. -/
structure ReaderState where
  rest : Text
  flags : Flags := {}
  nextGroup : Nat := 1
  names : List String := []

/-- A step of reading, which may refuse the pattern. -/
abbrev Reader := StateT ReaderState Option

namespace Reader

/-- Refuses the pattern. -/
def refuse {α : Type} : Reader α := failure

/-- The next character. -/
def peek : Reader (Option Char) := return (← get).rest.head?

/-- Passes one character. -/
def advance : Reader Unit := modify fun s => { s with rest := s.rest.drop 1 }

/-- Drops white space, and comments from a number sign to the end of its line. -/
def dropIgnored (inComment : Bool) : Text → Text
  | [] => []
  | c :: rest =>
      if inComment then dropIgnored (c != '\n') rest
      else if Text.isBlank c then dropIgnored false rest
      else if c = '#' then dropIgnored true rest
      else c :: rest

/-- In a verbose pattern, passes white space and comments. -/
def passIgnored : Reader Unit :=
  modify fun s => if s.flags.verbose then { s with rest := dropIgnored false s.rest } else s

/-- Passes one character and what may be ignored after it. -/
def advancePast : Reader Unit := do
  advance
  passIgnored

/-- Passes this text if it comes next. -/
def accept (start : String) : Reader Bool := do
  match Text.after? start.toList (← get).rest with
  | some rest =>
      modify fun s => { s with rest }
      return true
  | none => return false

/-- Passes this character, which has to come next. -/
def expect (c : Char) : Reader Unit := do
  if (← peek) = some c then advance else refuse

/-- Passes the longest run of characters that satisfy (p), and in a verbose pattern what may be
ignored among and after them.
-/
def takeRun (p : Char → Bool) : Reader Text := do
  let s ← get
  let rec go (inComment : Bool) : Text → Text × Text
    | [] => ([], [])
    | c :: rest =>
        if inComment then go (c != '\n') rest
        else if p c then
          let (run, rest) := go false rest
          (c :: run, rest)
        else if s.flags.verbose && Text.isBlank c then go false rest
        else if s.flags.verbose && c = '#' then go true rest
        else ([], c :: rest)
  let (run, rest) := go false s.rest
  set { s with rest }
  return run

end Reader

end LatexFigures.Pattern
