import LatexFigures.Drawing.Frame
import LatexFigures.Style.Resolve

/-! Resolved geometry for a painter, in output units. -/

namespace LatexFigures

namespace Geometry

/-- A rectangle between two corners. -/
structure Rectangle where
  p1 : Point Float
  p2 : Point Float
  style : Style
deriving DecidableEq

/-- A circle. -/
structure Circle where
  center : Point Float
  radius : Float
  style : Style
deriving DecidableEq

/-- An arc, with angles in radians that grow counter-clockwise in the document. -/
structure Arc where
  center : Point Float
  radius : Float
  angleA : Float
  angleB : Float
  first : Point Float
  last : Point Float
  ends : Ends
  style : Style
deriving DecidableEq

/-- A closed line through its corners. -/
structure Polygon where
  points : List (Point Float)
  style : Style
deriving DecidableEq

/-- Coordinate axes, with the distances of their tick marks. -/
structure Axes where
  origin : Point Float
  bottomLeft : Point Float
  topRight : Point Float
  dx : Float
  dy : Float
  ticks : Ticks
  ends : Ends
  style : Style
deriving DecidableEq

/-- A straight line. -/
structure Segment where
  first : Point Float
  last : Point Float
  ends : Ends
  style : Style
deriving DecidableEq

/-- A sampled function, with the height of the axis down to which it is filled. -/
structure Curve where
  points : List (Point Float)
  baseline : Option Float
  style : Style
deriving DecidableEq

/-- A variable that is computed from a place. -/
structure Binding where
  name : String
  anchor : Point Float
  expression : Text
  value : Float
deriving DecidableEq

/-- Text at a place, turned by some degrees. -/
structure Label where
  place : Point Float
  text : Text
  refpoint : Option Text
  rotation : Float
deriving DecidableEq

/-- A slider. Its raw input is divided by (scalar) to give the value of its variable. -/
structure Slider where
  min : Float
  max : Float
  variableName : String
  label : Text
  value : Float
  scalar : Float
deriving DecidableEq

end Geometry

/-- What one command draws or declares. -/
inductive Geometry
  | frame (shape : Geometry.Rectangle)
  | circle (shape : Geometry.Circle)
  | arc (shape : Geometry.Arc)
  | polygon (shape : Geometry.Polygon)
  | axes (shape : Geometry.Axes)
  | line (shape : Geometry.Segment)
  | curve (shape : Geometry.Curve)
  | binding (value : Geometry.Binding)
  | label (value : Geometry.Label)
  | slider (value : Geometry.Slider)
  /-- The settings in force from here on. -/
  | units (settings : Settings)
deriving DecidableEq

end LatexFigures
