import LatexFigures.Drawing.Command

/-! Recognising commands in lines. A command is its macro followed by its groups, without
anything between them; a line is searched for each kind, and the leftmost complete command of
the kind counts.
-/

namespace LatexFigures

/-- Reads a piece of a command off the head of a text and gives the rest. -/
abbrev ArgumentReader (α : Type) := Text → Option (α × Text)

namespace Argument

/-- The inside of a group: (opening), then characters up to the first (closing). -/
def inner (opening closing : Char) : ArgumentReader Text
  | [] => none
  | c :: rest => if c = opening then Text.splitFirst? closing rest else none

/-- An argument in braces, without them. -/
def braced : ArgumentReader Text := inner '\x7b' '\x7d'

/-- A group that may be missing, with its delimiters. -/
def optional (opening closing : Char) (s : Text) : Option Text × Text :=
  match inner opening closing s with
  | some (text, rest) => (some (opening :: text ++ [closing]), rest)
  | none => (none, s)

/-- An option block that may be missing. -/
def options : Text → Option Text × Text := optional '[' ']'

/-- A decoration in braces that may be missing. -/
def decoration : Text → Option Text × Text := optional '\x7b' '\x7d'

/-- An argument in braces that may be missing, without them. -/
def bracedOptional (s : Text) : Option Text × Text :=
  match braced s with
  | some (text, rest) => (some text, rest)
  | none => (none, s)

/-- A pair in parentheses, cut at the last comma before the first closing one. -/
def pair : ArgumentReader Pair := fun s => do
  let (text, rest) ← inner '(' ')' s
  let (x, y) ← Text.splitLast? ',' text
  return (⟨Text.trim x, Text.trim y⟩, rest)

/-- A pair that may be missing. -/
def pairOptional (s : Text) : Option Pair × Text :=
  match pair s with
  | some (p, rest) => (some p, rest)
  | none => (none, s)

/-- An argument in braces that may hold braces: it runs to the last closing brace of the line.
-/
def bracedToLast : ArgumentReader Text
  | '\x7b' :: s => do
      let (text, rest) ← Text.splitLast? '\x7d' (s.takeWhile (· ≠ '\n'))
      return (text, rest ++ s.dropWhile (· ≠ '\n'))
  | _ => none

/-- All pairs of a text from left to right, after the first (skip) characters. -/
def pairsFrom (skip : Nat) (s : Text) : List Pair :=
  match skip, s with
  | _, [] => []
  | skip + 1, _ :: rest => pairsFrom skip rest
  | 0, c :: rest =>
      match pair (c :: rest) with
      | some (p, behind) => p :: pairsFrom (rest.length - behind.length) rest
      | none => pairsFrom 0 rest
termination_by structural s

/-- All pairs of a text from left to right. -/
def pairs (s : Text) : List Pair := pairsFrom 0 s

end Argument

namespace Command

open Argument

/-- The groups of an arc behind its decoration, which may be missing. -/
def readArc (options arrows : Option Text) : ArgumentReader Command := fun s => do
  let (center, s) := pairOptional s
  let (radius, s) ← braced s
  let (angleA, s) ← braced s
  let (angleB, s) ← braced s
  return (.arc { options, arrows, center, radius, angleA, angleB }, s)

/-- Up to (most) further pairs of axes. -/
def readPairs : (most : Nat) → Text → List Pair × Text
  | 0, s => ([], s)
  | most + 1, s =>
      match pairOptional s with
      | (some p, s) =>
          let (more, s) := readPairs most s
          (p :: more, s)
      | (none, s) => ([], s)

/-- Reads the groups of a command of the given kind, from behind its macro on. Only the
decoration of an arc can be taken for one of its arguments, so only there is a second try
without it.
-/
def readGroups : CommandKind → ArgumentReader Command
  | .frame, s => do
      let (options, s) := Argument.options s
      let (p1, s) ← pair s
      let (p2, s) ← pair s
      return (.frame { options, p1, p2 }, s)
  | .circle, s => do
      let (options, s) := Argument.options s
      let (center, s) ← pair s
      let (radius, s) ← braced s
      return (.circle { options, center, radius }, s)
  | .arc, s =>
      let (options, s) := Argument.options s
      let (arrows, behind) := decoration s
      (readArc options arrows behind).or (readArc options none s)
  | .polygon, s =>
      let (options, s) := Argument.options s
      let points := pairs (s.takeWhile (· ≠ '\n'))
      some (.polygon { options, points }, s.dropWhile (· ≠ '\n'))
  | .axes, s => do
      let (options, s) := Argument.options s
      let (arrows, s) := decoration s
      let (first, s) ← pair s
      let (more, s) := readPairs 2 s
      return (.axes { options, arrows, pairs := first :: more }, s)
  | .line, s => do
      let (options, s) := Argument.options s
      let (arrows, s) := decoration s
      let (first, s) ← pair s
      let (second, s) := pairOptional s
      return (.line { options, arrows, first, second }, s)
  | .userLine, s => do
      let (options, s) := Argument.options s
      let (arrows, s) := decoration s
      let (p1, s) ← pair s
      let (p2, s) ← pair s
      let (x1, s) := bracedOptional s
      let (y1, s) := bracedOptional s
      let (x2, s) := bracedOptional s
      let (y2, s) := bracedOptional s
      return (.userLine { options, arrows, p1, p2, x1, y1, x2, y2 }, s)
  | .plot, s => do
      let (options, s) := Argument.options s
      let (first, s) ← braced s
      let (last, s) ← braced s
      let (function, s) ← braced s
      return (.plot { options, first, last, function }, s)
  | .userVariable, s => do
      let (options, s) := Argument.options s
      let (name, s) ← braced s
      let (anchor, s) ← pair s
      let (expression, s) ← braced s
      let name := String.ofList (Text.trim name)
      return (.userVariable { options, name, anchor, expression }, s)
  | .label, s => do
      let (options, s) := Argument.options s
      let refpoint := options.map fun block =>
        Text.dropEndWhile (· = ']') (block.dropWhile (· = '['))
      let (rotation, s) := bracedOptional s
      let (place, s) ← pair s
      let (text, s) ← bracedToLast s
      return (.label { refpoint, rotation, place, text }, s)
  | .slider, s => do
      let (options, s) := Argument.options s
      let (min, s) ← braced s
      let (max, s) ← braced s
      let (name, s) ← braced s
      let (caption, s) ← braced s
      let (value, s) ← braced s
      let variableName := String.ofList (Text.trim name)
      return (.slider { options, min, max, variableName, label := caption, value }, s)
  | .settings, s => do
      let (body, s) ← braced s
      return (.settings { body }, s)

/-- Reads a command of the given kind off the head of a text. -/
def read? (kind : CommandKind) : ArgumentReader Command := fun s => do
  readGroups kind (← Text.after? ('\\' :: kind.name.toList) s)

/-- A command in a line: what stands before it, its own text, and what it says. -/
structure Occurrence where
  before : Text
  source : Text
  command : Command
deriving Repr, DecidableEq

/-- The leftmost command of the given kind. -/
def find? (kind : CommandKind) : Text → Option Occurrence
  | [] => none
  | c :: rest =>
      match read? kind (c :: rest) with
      | some (command, behind) => some ⟨[], Text.upTo (c :: rest) behind, command⟩
      | none =>
          (find? kind rest).map fun found => { found with before := c :: found.before }

end Command

end LatexFigures
