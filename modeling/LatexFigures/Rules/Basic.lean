import LatexFigures.Ordered
import LatexFigures.Pattern.Machine
import LatexFigures.Registration
import LatexFigures.Rules.Form
import LatexFigures.Rules.Replacement

/-! Substitution of running text, fragment by fragment: rules that replace what they find,
headers that replace a whole fragment, and marks of fragments that are left out.
-/

namespace LatexFigures

/-- What a text rule looks for. -/
inductive TextTarget
  | form (parts : Form)
  | pattern (machine : Pattern.Machine)

namespace TextTarget

/-- Finds the leftmost occurrence. -/
def search : TextTarget → Text.Search
  | .form parts => parts.search
  | .pattern machine => machine.search

/-- The number of the group with this name; forms have none. -/
def groupNamed? : TextTarget → String → Option Nat
  | .form _ => fun _ => none
  | .pattern machine => machine.groupNamed?

end TextTarget

/-- Replaces each occurrence of its target. -/
structure TextRule where
  name : String
  target : TextTarget
  replacement : Replacement

/-- Applies one rule. -/
def TextRule.apply (rule : TextRule) (fragment : Text) : Text :=
  Text.replaceAll rule.target.search (rule.replacement.apply fragment rule.target.groupNamed?)
    fragment

/-- Replaces a fragment that opens or closes the environment (name). -/
structure HeaderRule where
  name : String
  beginText : Text
  endText : Text
deriving Repr, DecidableEq

/-- What the header puts in the place of (fragment), or else (contents). The closing mark wins.
-/
def HeaderRule.apply (rule : HeaderRule) (fragment contents : Text) : Text :=
  if Text.holds (endMark rule.name) fragment then rule.endText
  else if Text.holds (beginMark rule.name) fragment then rule.beginText
  else contents

/-- What marks a fragment that is left out. -/
inductive IgnoredMark
  /-- The fragment is a comment: a percent sign with nothing but white space before it. -/
  | comment
  /-- The fragment holds this text. -/
  | command (s : Text)
  /-- The pattern matches somewhere in the fragment. -/
  | pattern (machine : Pattern.Machine)

/-- The fragment bears the mark. -/
def IgnoredMark.isOn (mark : IgnoredMark) (fragment : Text) : Bool :=
  match mark with
  | .comment => (fragment.dropWhile Text.isSpace).head? == some '%'
  | .command s => Text.holds s fragment
  | .pattern machine => (machine.search none fragment).isSome

/-- All rules, each kind in the order of registration. -/
structure TextRules where
  text : List TextRule := []
  headers : List HeaderRule := []
  ignored : List IgnoredMark := []

namespace TextRules

/-- Adds a text rule; one of the same name is replaced in place. -/
def withText (rules : TextRules) (rule : TextRule) : TextRules :=
  { rules with text := Ordered.put TextRule.name rule rules.text }

/-- Adds a header rule; one of the same name is replaced in place. -/
def withHeader (rules : TextRules) (rule : HeaderRule) : TextRules :=
  { rules with headers := Ordered.put HeaderRule.name rule rules.headers }

/-- Adds a text rule whose pattern is given in writing. -/
def addText (name : String) (pattern : Text) (replacement : Replacement)
    : Registration TextRules Unit := do
  let pattern ← Pattern.compile name pattern
  modify (·.withText ⟨name, .pattern (.ofPattern pattern), replacement⟩)

theorem run_addText (name : String) (pattern : Text) (replacement : Replacement)
    (rules : TextRules)
    : (addText name pattern replacement).run rules
      = match Pattern.read? pattern with
        | some found => (.ok (), rules.withText ⟨name, .pattern (.ofPattern found), replacement⟩)
        | none => (.error (.invalidPattern name), rules) := by
  rw [addText, Registration.run_check, Pattern.compile]
  cases Pattern.read? pattern <;> rfl

/-- Adds a header rule, unless its name cannot be one or the patterns of its marks are refused.
What they match is the marks as such.
-/
def addHeaders (name : String) (beginText endText : Text) : Registration TextRules Unit := do
  if isHeaderName name then
    let _ ← Pattern.compile name (markPattern "begin" name)
    let _ ← Pattern.compile name (markPattern "end" name)
    modify (·.withHeader ⟨name, beginText, endText⟩)
  else throw (.invalidName name)

/-- Adds a pattern, given in writing, of fragments to leave out. -/
def addIgnored (pattern : Text) : Registration TextRules Unit := do
  let pattern ← Pattern.compile "ignore" pattern
  modify fun rules => { rules with ignored := rules.ignored ++ [.pattern (.ofPattern pattern)] }

/-- The fragment is left out of the content. -/
def isIgnored (rules : TextRules) (fragment : Text) : Bool :=
  rules.ignored.any (·.isOn fragment)

/-- Substitutes a fragment: all text rules in turn, each on what the one before gave; then the
headers, which look at the fragment itself.
-/
def apply (rules : TextRules) (fragment : Text) : Text :=
  let contents := rules.text.foldl (fun contents rule => rule.apply contents) fragment
  rules.headers.foldl (fun contents rule => rule.apply fragment contents) contents

end TextRules

end LatexFigures
