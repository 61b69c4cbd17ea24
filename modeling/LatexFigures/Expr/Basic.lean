import Std.Data.ExtTreeMap
import LatexFigures.Expr.Function
import LatexFigures.Text.Basic
import LatexFigures.Text.Quoted

/-! Arithmetic expressions, the names they see, and their values. -/

namespace LatexFigures

/-- A sign in front of an operand. -/
inductive UnaryOp
  | neg
  | pos
deriving Repr, DecidableEq

/-- An operator between two operands. -/
inductive BinaryOp
  | add | sub | mul | div | rem | pow
deriving Repr, DecidableEq

/-- The value of a sign. -/
def UnaryOp.apply : UnaryOp → Float → Float
  | .neg, x => -x
  | .pos, x => x

/-- The value of an operator. -/
def BinaryOp.apply : BinaryOp → Float → Float → Float
  | .add, x, y => x + y
  | .sub, x, y => x - y
  | .mul, x, y => x * y
  | .div, x, y => x / y
  | .rem, x, y => Number.remainder x y
  | .pow, x, y => x.pow y

/-- An arithmetic expression. -/
inductive Expr
  | number (value : Float)
  | var (name : String)
  | unary (op : UnaryOp) (operand : Expr)
  | binary (op : BinaryOp) (left right : Expr)
  | call (function : Function) (arguments : List Expr)

/-- Why an expression has no value. -/
inductive EvalError
  /-- The text is not an expression. -/
  | malformed (source : Text)
  | unknownFunction (name : String)
  | arity (function : Function) (got : Nat)
  | undefinedVariable (name : String)
  | nonFinite
deriving Repr, DecidableEq

/-- The wording of an error. -/
def EvalError.message : EvalError → String
  | .malformed source => s!"syntax error in {Text.Quoted.encode (String.ofList source)}"
  | .unknownFunction name => s!"unknown function: {name}"
  | .arity function got =>
      s!"{function.name} takes {function.arity.least} argument(s), got {got}"
  | .undefinedVariable name => s!"undefined variable: {name}"
  | .nonFinite => "result is not a finite number"

/-- Values of names. Two of them are equal as soon as they give every name the same value. -/
abbrev Bindings := Std.ExtTreeMap String Float

/-- The names that an expression sees besides the constants. -/
structure Scope where
  /-- Hide variables of the same name, and each other: the last one counts. -/
  locals : List (String × Float) := []
  bindings : Bindings := ∅

/-- The value of a name: that of a local, else that of a variable, else a constant. -/
def Scope.lookup? (scope : Scope) (name : String) : Option Float :=
  (scope.locals.reverse.lookup name).or (scope.bindings[name]?.or (constant? name))

namespace Expr

mutual

/-- The value of an expression, which may be infinite or not a number. The leftmost error
wins.
-/
def value (scope : Scope) : Expr → Except EvalError Float
  | number value => .ok value
  | var name => (scope.lookup? name).elim (.error (.undefinedVariable name)) .ok
  | unary op operand => do return op.apply (← operand.value scope)
  | binary op left right => do
      let x ← left.value scope
      let y ← right.value scope
      return op.apply x y
  | call function arguments => do
      let values ← Expr.values scope arguments
      match function.call? values with
      | some value => return value
      | none => throw (.arity function values.length)

/-- The values of several expressions, from left to right. -/
def values (scope : Scope) : List Expr → Except EvalError (List Float)
  | [] => .ok []
  | first :: more => do
      let value ← first.value scope
      return value :: (← Expr.values scope more)

end

/-- The value of an expression, which has to be finite. -/
def eval (e : Expr) (scope : Scope) : Except EvalError Float := do
  let value ← e.value scope
  if value.isFinite then return value else throw .nonFinite

end Expr

end LatexFigures
