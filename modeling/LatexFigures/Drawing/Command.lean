import LatexFigures.Text.Basic

/-! Drawing commands with their arguments, not evaluated yet. Options and arrows keep their
brackets and braces.
-/

namespace LatexFigures

/-- The vocabulary, in the order in which a line is searched for its words. -/
inductive CommandKind
  | frame | circle | arc | polygon | axes | line | userLine | plot | userVariable | label
  | slider | settings
deriving Repr, DecidableEq

namespace CommandKind

/-- All kinds in order. -/
def all : List CommandKind :=
  [frame, circle, arc, polygon, axes, line, userLine, plot, userVariable, label, slider,
    settings]

/-- The name of the macro, without its backslash. -/
def name : CommandKind → String
  | frame => "psframe"
  | circle => "pscircle"
  | arc => "psarc"
  | polygon => "pspolygon"
  | axes => "psaxes"
  | line => "psline"
  | userLine => "userline"
  | plot => "psplot"
  | userVariable => "uservariable"
  | label => "rput"
  | slider => "slider"
  | settings => "psset"

/-- The kind with this name. -/
def named? (name : String) : Option CommandKind := all.find? (·.name = name)

/-- Drawings of this kind depend on variables or on the pointer, and follow them. -/
def isDependent : CommandKind → Bool
  | userVariable | plot | userLine => true
  | _ => false

end CommandKind

/-- A pair of expressions for a place in document coordinates. -/
structure Pair where
  x : Text
  y : Text
deriving Repr, DecidableEq

namespace Command

/-- A rectangle. -/
structure Frame where
  options : Option Text
  p1 : Pair
  p2 : Pair
deriving Repr, DecidableEq

/-- A circle around a place. -/
structure Circle where
  options : Option Text
  center : Pair
  radius : Text
deriving Repr, DecidableEq

/-- An arc, around the origin unless it has a center. -/
structure Arc where
  options : Option Text
  arrows : Option Text
  center : Option Pair
  radius : Text
  angleA : Text
  angleB : Text
deriving Repr, DecidableEq

/-- A closed line through any number of places. -/
structure Polygon where
  options : Option Text
  points : List Pair
deriving Repr, DecidableEq

/-- Coordinate axes, given by one, two or three places. -/
structure Axes where
  options : Option Text
  arrows : Option Text
  pairs : List Pair
deriving Repr, DecidableEq

/-- A line between two places, or from the origin to one. -/
structure Line where
  options : Option Text
  arrows : Option Text
  first : Pair
  second : Option Pair
deriving Repr, DecidableEq

/-- A line that follows the pointer, perhaps through expressions of its coordinates. -/
structure UserLine where
  options : Option Text
  arrows : Option Text
  p1 : Pair
  p2 : Pair
  x1 : Option Text
  y1 : Option Text
  x2 : Option Text
  y2 : Option Text
deriving Repr, DecidableEq

/-- The plot of a function of (x) from the first end of its domain to the last. -/
structure Plot where
  options : Option Text
  first : Text
  last : Text
  function : Text
deriving Repr, DecidableEq

/-- A variable whose expression sees the coordinates of the pointer or, without pointer, of the
anchor.
-/
structure UserVariable where
  options : Option Text
  name : String
  anchor : Pair
  expression : Text
deriving Repr, DecidableEq

/-- Text at a place, perhaps turned, and held at a reference point of its box. -/
structure Label where
  refpoint : Option Text
  rotation : Option Text
  place : Pair
  text : Text
deriving Repr, DecidableEq

/-- A slider that sets a variable between two bounds, from a first value on. -/
structure Slider where
  options : Option Text
  min : Text
  max : Text
  variableName : String
  label : Text
  value : Text
deriving Repr, DecidableEq

/-- A declaration of settings. -/
structure Settings where
  body : Text
deriving Repr, DecidableEq

end Command

/-- A drawing command. -/
inductive Command
  | frame (command : Command.Frame)
  | circle (command : Command.Circle)
  | arc (command : Command.Arc)
  | polygon (command : Command.Polygon)
  | axes (command : Command.Axes)
  | line (command : Command.Line)
  | userLine (command : Command.UserLine)
  | plot (command : Command.Plot)
  | userVariable (command : Command.UserVariable)
  | label (command : Command.Label)
  | slider (command : Command.Slider)
  | settings (command : Command.Settings)
deriving Repr, DecidableEq

/-- The kind of a command. -/
def Command.kind : Command → CommandKind
  | .frame _ => .frame
  | .circle _ => .circle
  | .arc _ => .arc
  | .polygon _ => .polygon
  | .axes _ => .axes
  | .line _ => .line
  | .userLine _ => .userLine
  | .plot _ => .plot
  | .userVariable _ => .userVariable
  | .label _ => .label
  | .slider _ => .slider
  | .settings _ => .settings

end LatexFigures
