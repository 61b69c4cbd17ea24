import LatexFigures.Drawing.Command
import LatexFigures.Drawing.Context
import LatexFigures.Drawing.Sampling

/-! The geometry of a command in a context. Arguments that have no value count as 0, so every
command has a geometry.
-/

namespace LatexFigures

/-- The pair as a point in output units. -/
def Pair.resolve (p : Pair) (ctx : Context) : Point Float := ctx.coords p.x p.y

/-- A document length in output units; 0 if the product is not finite. -/
def scaleLength (value unit : Float) : Float := (Number.finite (value * unit)).toOption.getD 0

/-- An angle in degrees as one in radians. -/
def radians (degrees : Float) : Float := degrees * (Float.ofBits 0x400921fb54442d18 / 180)

namespace Command

/-- The style of a command with this option block, over its defaults. -/
def styleIn (ctx : Context) (fillstyle : FillStyle) (fillcolor : String)
    (options : Option Text) : Style :=
  (Style.plain fillstyle fillcolor).resolve ctx.settings (.read options)

namespace Frame

/-- The rectangle between its two corners. -/
def geometry (c : Frame) (ctx : Context) : Geometry.Rectangle :=
  { p1 := c.p1.resolve ctx
    p2 := c.p2.resolve ctx
    style := styleIn ctx .none "none" c.options }

end Frame

namespace Circle

/-- The radius is measured in horizontal units. -/
def geometry (c : Circle) (ctx : Context) : Geometry.Circle :=
  { center := c.center.resolve ctx
    radius := scaleLength (ctx.eval c.radius) ctx.settings.xunit.raw
    style := styleIn ctx .none "none" c.options }

end Circle

namespace Arc

/-- The ends of the arc lie on its circle, at its two angles. -/
def geometry (c : Arc) (ctx : Context) : Geometry.Arc :=
  let center : Point Float :=
    match c.center with
    | some p => ⟨ctx.eval p.x, ctx.eval p.y⟩
    | none => ⟨0, 0⟩
  let radius := ctx.eval c.radius
  let angleA := radians (ctx.eval c.angleA)
  let angleB := radians (ctx.eval c.angleB)
  let around (angle : Float) : Point Float :=
    ctx.point ⟨center.x + radius * angle.cos, center.y + radius * angle.sin⟩
  { center := ctx.point center
    radius := scaleLength radius ctx.settings.xunit.raw
    angleA
    angleB
    first := around angleA
    last := around angleB
    ends := .read c.arrows
    style := styleIn ctx .solid "black" c.options }

end Arc

namespace Polygon

/-- The corners in their order. -/
def geometry (c : Polygon) (ctx : Context) : Geometry.Polygon :=
  { points := c.points.map (·.resolve ctx)
    style := styleIn ctx .none "black" c.options }

end Polygon

namespace Axes

/-- Three places are origin, bottom left and top right; of two the first is both origin and
bottom left; of one both are at zero.
-/
def geometry (c : Axes) (ctx : Context) : Geometry.Axes :=
  let options := Options.read c.options
  let distance (key : String) : Float := (options.get? key).elim 1 ctx.eval
  let zero := ctx.point ⟨0, 0⟩
  let (origin, bottomLeft, topRight) :=
    match c.pairs with
    | [] => (zero, zero, zero)
    | [topRight] => (zero, zero, topRight.resolve ctx)
    | [corner, topRight] => (corner.resolve ctx, corner.resolve ctx, topRight.resolve ctx)
    | origin :: bottomLeft :: topRight :: _ =>
        (origin.resolve ctx, bottomLeft.resolve ctx, topRight.resolve ctx)
  { origin
    bottomLeft
    topRight
    dx := scaleLength (distance "Dx") ctx.settings.xunit.raw
    dy := scaleLength (distance "Dy") ctx.settings.yunit.raw
    ticks := .read (options.get? "ticks")
    ends := .read c.arrows
    style := (Style.plain .none "none").resolve ctx.settings options }

end Axes

namespace Line

/-- With one place only, the line starts at zero. -/
def geometry (c : Line) (ctx : Context) : Geometry.Segment :=
  let ends : Point Float × Point Float :=
    match c.second with
    | some second => (c.first.resolve ctx, second.resolve ctx)
    | none => (ctx.point ⟨0, 0⟩, c.first.resolve ctx)
  { first := ends.1
    last := ends.2
    ends := .read c.arrows
    style := styleIn ctx .solid "black" c.options }

end Line

namespace UserLine

/-- One coordinate of the two ends while the pointer is at (pointer). Without expressions the
far end follows it; one expression gives the far end, and two give the near and the far end.
-/
def follow (place : Float → Float) (value : Text → Float) (near pointer : Float)
    : (one two : Option Text) → Float × Float
  | one, some two => (place (one.elim 0 value), place (value two))
  | some one, none => (near, place (value one))
  | none, none => (near, pointer)

/-- Without pointer the line joins its two places. Expressions see the document coordinates of
the pointer as (x) and (y).
-/
def geometry (c : UserLine) (ctx : Context) : Geometry.Segment :=
  let p1 := c.p1.resolve ctx
  let p2 := c.p2.resolve ctx
  let ends : Point Float × Point Float :=
    match ctx.pointer with
    | none => (p1, p2)
    | some pointer =>
        let place := ctx.pointInv pointer
        let value (source : Text) := ctx.evalWith source [("x", place.x), ("y", place.y)]
        let (x1, x2) := follow ctx.frame.x value p1.x pointer.x c.x1 c.x2
        let (y1, y2) := follow ctx.frame.y value p1.y pointer.y c.y1 c.y2
        (⟨x1, y1⟩, ⟨x2, y2⟩)
  { first := ends.1
    last := ends.2
    ends := .read c.arrows
    style := styleIn ctx .solid "black" c.options }

end UserLine

namespace Plot

/-- The value of a plotted function at (x); 0 if it has none. -/
def valueAt (function : Except EvalError Expr) (bindings : Bindings) (x : Float) : Float :=
  match function with
  | .ok function =>
      match function.eval { locals := [("x", x)], bindings } with
      | .ok y => y
      | .error _ => 0
  | .error _ => 0

/-- The function is compiled once and then sampled over its domain. A solid filling reaches
down to the horizontal axis.
-/
def geometry (c : Plot) (ctx : Context) : Geometry.Curve :=
  let function := Expr.compile c.function
  let frame := ctx.frame
  let style := styleIn ctx .none "none" c.options
  { points := (Sampling.grid (ctx.eval c.first) (ctx.eval c.last)).map fun x =>
      frame.point ⟨x, valueAt function ctx.bindings x⟩
    baseline := if style.fillstyle = .solid then some (frame.y 0) else none
    style }

end Plot

namespace UserVariable

/-- The expression sees the document coordinates of the pointer or, without pointer, of the
anchor as (x) and (y).
-/
def geometry (c : UserVariable) (ctx : Context) : Geometry.Binding :=
  let anchor := c.anchor.resolve ctx
  let place := ctx.pointInv (ctx.pointer.getD anchor)
  { name := c.name
    anchor
    expression := c.expression
    value := ctx.evalWith c.expression [("x", place.x), ("y", place.y)] }

end UserVariable

namespace Label

/-- Text that is not turned has a rotation of 0. -/
def geometry (c : Label) (ctx : Context) : Geometry.Label :=
  { place := c.place.resolve ctx
    text := c.text
    refpoint := c.refpoint
    rotation := c.rotation.elim 0 ctx.eval }

end Label

namespace Slider

/-- The divisor of raw input: the option (scalar), unless it is missing or zero. -/
def scalarIn (c : Slider) (ctx : Context) : Float :=
  match (Options.read c.options).get? "scalar" with
  | some source =>
      let scalar := ctx.eval source
      if scalar == 0 then 1 else scalar
  | none => 1

/-- The slider where its own arguments put it. -/
def geometry (c : Slider) (ctx : Context) : Geometry.Slider :=
  { min := ctx.eval c.min
    max := ctx.eval c.max
    variableName := c.variableName
    label := c.label
    value := ctx.eval c.value
    scalar := c.scalarIn ctx }

end Slider

/-- What a command draws or declares in a context. -/
def geometry (ctx : Context) : Command → Geometry
  | .frame c => .frame (c.geometry ctx)
  | .circle c => .circle (c.geometry ctx)
  | .arc c => .arc (c.geometry ctx)
  | .polygon c => .polygon (c.geometry ctx)
  | .axes c => .axes (c.geometry ctx)
  | .line c => .line (c.geometry ctx)
  | .userLine c => .line (c.geometry ctx)
  | .plot c => .curve (c.geometry ctx)
  | .userVariable c => .binding (c.geometry ctx)
  | .label c => .label (c.geometry ctx)
  | .slider c => .slider (c.geometry ctx)
  | .settings c => .units (ctx.settings.declare c.body)

/-- The geometry of a command, with the context behind it. -/
def build (command : Command) (ctx : Context) : Geometry × Context :=
  let g := command.geometry ctx
  (g, ctx.absorb g)

end Command

end LatexFigures
