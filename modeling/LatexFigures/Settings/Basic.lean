import LatexFigures.Settings.Length
import LatexFigures.Style.Basic

/-! Unit scales and style defaults, and the declarations that change them. -/

namespace LatexFigures

open Number (UnitScale)

/-- The units and style defaults in force at some place of a document. Styles that were never
declared are left to each command.
-/
structure Settings where
  unit : UnitScale := .centimetre
  xunit : UnitScale := .centimetre
  yunit : UnitScale := .centimetre
  runit : UnitScale := .centimetre
  linecolor : Option Text := none
  linestyle : Option LineStyle := none
  linewidth : Option Float := none
  fillcolor : Option Text := none
  fillstyle : Option FillStyle := none
deriving DecidableEq

namespace Settings

/-- The scale that a length gives, if it is a finite positive one. -/
def scale? (value : Text) : Option UnitScale := (UnitScale.ofFloat (Length.read value)).toOption

/-- Changes what (key) stands for. Keys of units may have anything behind their names. Unknown
keys and unreadable values change nothing.
-/
def assign (settings : Settings) (key value : Text) : Settings :=
  let isFor (name : String) : Bool := name.toList.isPrefixOf key
  if key = "linecolor".toList then { settings with linecolor := some value }
  else if key = "fillcolor".toList then { settings with fillcolor := some value }
  else if key = "linestyle".toList then
    { settings with linestyle := (LineStyle.named? value).or settings.linestyle }
  else if key = "fillstyle".toList then
    { settings with fillstyle := (FillStyle.named? value).or settings.fillstyle }
  else if key = "linewidth".toList then
    { settings with linewidth := (Number.Literal.finite? value).or settings.linewidth }
  else if isFor "unit" then
    (scale? value).elim settings fun scale =>
      { settings with unit := scale, xunit := scale, yunit := scale, runit := scale }
  else if isFor "xunit" then { settings with xunit := (scale? value).getD settings.xunit }
  else if isFor "yunit" then { settings with yunit := (scale? value).getD settings.yunit }
  else if isFor "runit" then { settings with runit := (scale? value).getD settings.runit }
  else settings

/-- The key and the value of an entry, which its first equals sign separates. -/
def entry? (s : Text) : Option (Text × Text) :=
  (Text.splitFirst? '=' s).map fun (key, value) => (key.trim, value.trim)

/-- The entries of a declaration, which commas separate; others than pairs are left out. -/
def entries (body : Text) : List (Text × Text) := (Text.splitAll ',' body).filterMap entry?

/-- Makes the declarations of a body, one after another. -/
def declare (settings : Settings) (body : Text) : Settings :=
  (entries body).foldl (fun settings (key, value) => settings.assign key value) settings

/-- The body of the first declaration that a text contains. -/
def bodyIn? : Text → Option Text
  | [] => none
  | c :: rest =>
      match Text.after? "\\psset\x7b".toList (c :: rest) with
      | some behind =>
          match Text.splitFirst? '\x7d' behind with
          | some (body, _) => some body
          | none => bodyIn? rest
      | none => bodyIn? rest

end Settings

end LatexFigures
