import LatexFigures.Number.Dyadic

/-! The functions and constants that an expression may use. Nothing else can be called. -/

namespace LatexFigures

/-- A function of the fixed table. -/
inductive Function
  | sin | cos | tan | asin | acos | atan | atan2 | sinh | cosh | tanh
  | exp | log | log10 | log2 | sqrt | cbrt
  | abs | floor | ceil | round | trunc | sign
  | pow | min | max | hypot
deriving Repr, DecidableEq

namespace Function

/-- The whole table. -/
def all : List Function :=
  [sin, cos, tan, asin, acos, atan, atan2, sinh, cosh, tanh, exp, log, log10, log2, sqrt, cbrt,
    abs, floor, ceil, round, trunc, sign, pow, min, max, hypot]

/-- The name that messages and trees show. -/
def name : Function → String
  | sin => "sin"
  | cos => "cos"
  | tan => "tan"
  | asin => "asin"
  | acos => "acos"
  | atan => "atan"
  | atan2 => "atan2"
  | sinh => "sinh"
  | cosh => "cosh"
  | tanh => "tanh"
  | exp => "exp"
  | log => "log"
  | log10 => "log10"
  | log2 => "log2"
  | sqrt => "sqrt"
  | cbrt => "cbrt"
  | abs => "abs"
  | floor => "floor"
  | ceil => "ceil"
  | round => "round"
  | trunc => "trunc"
  | sign => "sign"
  | pow => "pow"
  | min => "min"
  | max => "max"
  | hypot => "hypot"

/-- The function with this name; the natural logarithm has a second one. -/
def named? (name : String) : Option Function :=
  if name = "ln" then some log else all.find? (·.name = name)

/-- How many arguments a call takes. -/
structure Arity where
  least : Nat
  /-- Absent if there is no upper bound. -/
  most : Option Nat
deriving Repr, DecidableEq

/-- The count lies within the bounds. -/
def Arity.admits (a : Arity) (count : Nat) : Bool := a.least ≤ count && a.most.all (count ≤ ·)

/-- How many arguments the function takes. -/
def arity : Function → Arity
  | atan2 | pow | hypot => ⟨2, some 2⟩
  | min | max => ⟨1, none⟩
  | _ => ⟨1, some 1⟩

/-- The smaller of two numbers; what is not a number loses. -/
def smaller (x y : Float) : Float :=
  if x.isNaN then y else if y.isNaN then x else if y < x then y else x

/-- The larger of two numbers; what is not a number loses. -/
def larger (x y : Float) : Float :=
  if x.isNaN then y else if y.isNaN then x else if x < y then y else x

/-- The sign as a number; zeros keep theirs, and what is not a number stays. -/
def signOf (x : Float) : Float :=
  if x == 0 || x.isNaN then x else if x < 0 then -1 else 1

/-- The value of a function that takes its arguments by their places; none if one is missing. The
smallest and the largest of several numbers take all of them.
-/
def ofPlaces? (function : Function) (args : List Float) : Option Float :=
  args[0]?.bind fun x =>
    match function with
    | sin => some x.sin
    | cos => some x.cos
    | tan => some x.tan
    | asin => some x.asin
    | acos => some x.acos
    | atan => some x.atan
    | atan2 => args[1]?.map x.atan2
    | sinh => some x.sinh
    | cosh => some x.cosh
    | tanh => some x.tanh
    | exp => some x.exp
    | log => some x.log
    | log10 => some x.log10
    | log2 => some x.log2
    | sqrt => some x.sqrt
    | cbrt => some x.cbrt
    | abs => some x.abs
    | floor => some (Number.floor x)
    | ceil => some (Number.ceil x)
    | round => some (Number.floor (x + 0.5))
    | trunc => some (Number.trunc x)
    | sign => some (signOf x)
    | pow => args[1]?.map x.pow
    | min => some (args.foldl smaller Number.infinity)
    | max => some (args.foldl larger (-Number.infinity))
    | hypot => args[1]?.map (Number.hypotenuse x)

/-- The value of a call; none unless the count of arguments is one that the function takes. -/
def call? (function : Function) (args : List Float) : Option Float :=
  if function.arity.admits args.length then function.ofPlaces? args else none

end Function

/-- The constants that every expression can name. -/
def constant? : String → Option Float
  | "PI" | "pi" => some (Float.ofBits 0x400921fb54442d18)
  | "E" | "e" => some (Float.ofBits 0x4005bf0a8b145769)
  | _ => none

end LatexFigures
