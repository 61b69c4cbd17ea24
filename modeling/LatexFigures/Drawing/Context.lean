import LatexFigures.Drawing.Geometry
import LatexFigures.Expr.Term

/-! The state of one figure: its canvas, the settings and variables in force, its sliders, the
pointer and the axes drawn last.
-/

namespace LatexFigures

/-- Tick distances and origin of axes. -/
structure AxesFrame where
  dx : Float
  dy : Float
  origin : Point Float
deriving DecidableEq

/-- The state of a figure while it is interpreted, and between events. -/
structure Context where
  /-- Corners of the canvas in document units. -/
  lowerLeft : Point Float
  upperRight : Point Float
  width : Float
  height : Float
  /-- Size of the canvas in output units, fixed when the figure opens. -/
  size : Point Float
  settings : Settings
  bindings : Bindings := ∅
  sliders : List Geometry.Slider := []
  /-- The last position of the pointer, in output units. -/
  pointer : Option (Point Float) := none
  axes : Option AxesFrame := none

namespace Context

/-- The state when a figure opens. -/
def initial (lowerLeft upperRight : Point Float) (settings : Settings) : Context :=
  let width := upperRight.x - lowerLeft.x
  let height := upperRight.y - lowerLeft.y
  { lowerLeft, upperRight, width, height, settings
    size := ⟨width * settings.xunit.raw, height * settings.yunit.raw⟩ }

/-- What the coordinate map depends on. -/
def frame (ctx : Context) : Frame Float :=
  { left := ctx.lowerLeft.x
    top := ctx.upperRight.y
    xunit := ctx.settings.xunit.raw
    yunit := ctx.settings.yunit.raw }

/-- A point in output units. -/
def point (ctx : Context) (p : Point Float) : Point Float := ctx.frame.point p

/-- A position in document coordinates. -/
def pointInv (ctx : Context) (p : Point Float) : Point Float := ctx.frame.pointInv p

/-- The value of an expression that sees locals besides the variables; 0 if it has none. -/
def evalWith (ctx : Context) (source : Text) (locals : List (String × Float)) : Float :=
  Expr.evaluateOr 0 source { locals, bindings := ctx.bindings }

/-- The value of an expression; 0 if it has none. -/
def eval (ctx : Context) (source : Text) : Float := ctx.evalWith source []

/-- A pair of expressions as a point in output units. -/
def coords (ctx : Context) (x y : Text) : Point Float := ctx.point ⟨ctx.eval x, ctx.eval y⟩

/-- Gives a variable a value. -/
def bind (ctx : Context) (name : String) (value : Float) : Context :=
  { ctx with bindings := ctx.bindings.insert name value }

/-- Takes over what a drawing declares: variables, sliders, axes and settings. -/
def absorb (ctx : Context) (g : Geometry) : Context :=
  match g with
  | .axes shape => { ctx with axes := some ⟨shape.dx, shape.dy, shape.origin⟩ }
  | .binding b => ctx.bind b.name b.value
  | .slider s => { ctx.bind s.variableName s.value with sliders := ctx.sliders ++ [s] }
  | .units settings => { ctx with settings }
  | _ => ctx

end Context

end LatexFigures
