import LatexFigures.Text.Match

/-! Forms of inline macros. A form is read from left to right without any choice to take back:
each of its parts decides by itself how far it reaches.
-/

namespace LatexFigures

/-- A part of a form. -/
inductive FormPart
  | text (s : Text)
  /-- Any number of one character. -/
  | many (c : Char)
  /-- One character or nothing. -/
  | optional (c : Char)
  /-- Decimal digits, at least one; a group. -/
  | number
  /-- Everything up to a closing brace, which belongs to the part but not to its group. -/
  | contents
  /-- Braces and everything between them, or nothing; a group. -/
  | optionalBraces
deriving Repr, DecidableEq

/-- The parts of a form, which follow one another. -/
abbrev Form := List FormPart

namespace FormPart

/-- Reads a part at the head of a text: how many characters it covers, and its group, if it has
one.
-/
def read? (part : FormPart) (s : Text) : Option (Nat × List (Option Text)) :=
  match part with
  | .text start => if start.isPrefixOf s then some (start.length, []) else none
  | .many c => some ((s.takeWhile (· == c)).length, [])
  | .optional c => some (if s.head? = some c then 1 else 0, [])
  | .number =>
      let digits := s.takeWhile Char.isDigit
      if digits.isEmpty then none else some (digits.length, [some digits])
  | .contents =>
      (Text.splitFirst? '\x7d' s).map fun (inner, _) => (inner.length + 1, [some inner])
  | .optionalBraces =>
      match s with
      | '\x7b' :: rest =>
          match Text.splitFirst? '\x7d' rest with
          | some (inner, _) =>
              some (inner.length + 2, [some ('\x7b' :: inner ++ ['\x7d'])])
          | none => some (0, [none])
      | _ => some (0, [none])

end FormPart

namespace Form

/-- Reads a form at the head of a text: how many characters it covers, and its groups. A group
begins where its part does.
-/
def read? (form : Form) (s : Text) : Option (Nat × List (Option Text.Group)) :=
  match form with
  | [] => some (0, [])
  | part :: form => do
      let (length, groups) ← part.read? s
      let (more, moreGroups) ← Form.read? form (s.drop length)
      return (length + more,
        groups.map (·.map (Text.Group.mk 0)) ++ moreGroups.map (·.map (·.moved length)))

/-- The first place from which the form can be read; (start) characters stand before it. -/
def findFrom? (form : Form) (start : Nat) (s : Text) : Option Text.Match :=
  match form.read? s with
  | some (length, groups) =>
      some ((Text.Match.mk 0 length (some ⟨0, s.take length⟩ :: groups)).moved start)
  | none =>
      match s with
      | [] => none
      | _ :: rest => findFrom? form (start + 1) rest
termination_by structural s

/-- The leftmost text of this form, whatever stands before it. -/
def search (form : Form) : Text.Search := fun _ s => form.findFrom? 0 s

end Form

end LatexFigures
