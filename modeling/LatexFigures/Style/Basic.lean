import LatexFigures.Text.Basic
import LatexFigures.Text.Quoted

/-! The ways to stroke a path and to fill a shape, by name. -/

namespace LatexFigures

/-- How a path is stroked. -/
inductive LineStyle
  | solid | dashed | dotted | none
deriving Repr, DecidableEq

/-- How the inside of a closed shape is filled. -/
inductive FillStyle
  | none | solid | vlines | hlines | crosshatch
deriving Repr, DecidableEq

/-- The name of a stroke. -/
def LineStyle.name : LineStyle → String
  | .solid => "solid"
  | .dashed => "dashed"
  | .dotted => "dotted"
  | .none => "none"

/-- The stroke with this name. -/
def LineStyle.named? (name : Text) : Option LineStyle :=
  [LineStyle.solid, .dashed, .dotted, .none].find? (·.name.toList = name)

/-- The name of a filling. -/
def FillStyle.name : FillStyle → String
  | .none => "none"
  | .solid => "solid"
  | .vlines => "vlines"
  | .hlines => "hlines"
  | .crosshatch => "crosshatch"

/-- The filling with this name. Stars behind the name, which ask for a background as well, make
no difference.
-/
def FillStyle.named? (name : Text) : Option FillStyle :=
  let plain := Text.dropEndWhile (· = '*') name
  [FillStyle.none, .solid, .vlines, .hlines, .crosshatch].find? (·.name.toList = plain)

/-- The wording for a name that no style has. -/
def unknownStyleMessage (name : Text) : String :=
  "unknown style " ++ Text.Quoted.encode (String.ofList name)

end LatexFigures
