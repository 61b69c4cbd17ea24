import LatexFigures.Text.Match

/-! What takes the place of a match: fixed text, a template that may refer to groups, or the
result of a function of the match.
-/

namespace LatexFigures

/-- A piece of a template. -/
inductive TemplatePart
  | text (s : Text)
  /-- A group by number or by name. -/
  | group (reference : Text)
deriving Repr, DecidableEq

namespace TemplatePart

/-- May stand in an unbraced reference. -/
def isReferenceChar (c : Char) : Bool := c.isAlphanum || c == '_'

/-- The reference at the head of what follows a dollar sign, braced or not, with the number of
characters it takes up. A reference without braces is as long as possible.
-/
def reference? (s : Text) : Option (Text × Nat) :=
  match s with
  | '\x7b' :: rest =>
      (Text.splitFirst? '\x7d' rest).map fun (name, _) => (name, name.length + 2)
  | s =>
      let name := s.takeWhile isReferenceChar
      if name.isEmpty then none else some (name, name.length)

/-- Cuts a template into parts, passing over (skip) characters first. Two dollar signs stand
for one, and one that introduces no reference stands for itself.
-/
def readFrom (skip : Nat) (s : Text) : List TemplatePart :=
  match skip, s with
  | _, [] => []
  | skip + 1, _ :: rest => readFrom skip rest
  | 0, '$' :: '$' :: rest => .text ['$'] :: readFrom 1 ('$' :: rest)
  | 0, '$' :: rest =>
      match reference? rest with
      | some (name, length) => .group name :: readFrom length rest
      | none => .text ['$'] :: readFrom 0 rest
  | 0, c :: rest => .text [c] :: readFrom 0 rest
termination_by structural s

/-- The parts of a template. -/
def read (s : Text) : List TemplatePart := readFrom 0 s

/-- The number that a reference writes, if it writes one. -/
def index? (reference : Text) : Option Nat :=
  let digits := match reference with
    | '+' :: digits => digits
    | digits => digits
  if !digits.isEmpty && digits.all Char.isDigit then
    some (digits.foldl (fun value digit => 10 * value + (digit.toNat - '0'.toNat)) 0)
  else none

/-- The text of a part for one match, with (named?) to look up groups by name. Groups that are
unknown or took no part are empty.
-/
def expand (named? : String → Option Nat) (m : Text.Match) : TemplatePart → Text
  | .text s => s
  | .group reference =>
      ((index? reference).or (named? (String.ofList reference))).bind m.group? |>.getD []

end TemplatePart

/-- What a function of a match can look at. -/
structure Captures where
  /-- The text in which the match was found. -/
  contents : Text
  found : Text.Match
  /-- The number of the group with this name. -/
  named? : String → Option Nat

/-- What takes the place of each match. -/
inductive Replacement
  /-- Inserted as it is. -/
  | literal (s : Text)
  /-- May refer to groups. -/
  | template (s : Text)
  /-- Computed from the match. -/
  | function (f : Captures → Text)

/-- The text that replaces a match in (contents), with (named?) to look up groups by name. -/
def Replacement.apply (r : Replacement) (contents : Text) (named? : String → Option Nat)
    : Text.Match → Text :=
  match r with
  | .literal s => fun _ => s
  | .template s =>
      let parts := TemplatePart.read s
      fun m => parts.flatMap (·.expand named? m)
  | .function f => fun m => f ⟨contents, m, named?⟩

end LatexFigures
