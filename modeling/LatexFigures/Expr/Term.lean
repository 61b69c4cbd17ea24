import LatexFigures.Expr.Basic
import LatexFigures.Expr.Token

/-! The grammar of expressions, and their compilation. Sums bind loosest, then products, both
to the left; then signs; then powers, whose base is a single operand and whose exponent is a
signed power, so that they bind to the right. The grammar does not know the functions: names
of calls are looked up afterwards.
-/

namespace LatexFigures.Expr

/-- An expression whose calls are not looked up yet. -/
inductive Term
  | number (value : Float)
  | name (text : String)
  | unary (op : UnaryOp) (operand : Term)
  | binary (op : BinaryOp) (left right : Term)
  | call (callee : String) (arguments : List Term)

namespace Term

mutual

/-- A sum, with the words behind it. Here and below (fuel) bounds the depth of the recursion.
-/
def sum : (fuel : Nat) → List Token → Option (Term × List Token)
  | 0, _ => none
  | fuel + 1, ts => do
      let (first, ts) ← product fuel ts
      sumAfter fuel first ts

/-- The rest of a sum whose first operands make (left). -/
def sumAfter : (fuel : Nat) → Term → List Token → Option (Term × List Token)
  | 0, _, _ => none
  | fuel + 1, left, .plus :: ts => do
      let (right, ts) ← product fuel ts
      sumAfter fuel (.binary .add left right) ts
  | fuel + 1, left, .minus :: ts => do
      let (right, ts) ← product fuel ts
      sumAfter fuel (.binary .sub left right) ts
  | _ + 1, left, ts => some (left, ts)

/-- A product. -/
def product : (fuel : Nat) → List Token → Option (Term × List Token)
  | 0, _ => none
  | fuel + 1, ts => do
      let (first, ts) ← signed fuel ts
      productAfter fuel first ts

/-- The rest of a product whose first operands make (left). -/
def productAfter : (fuel : Nat) → Term → List Token → Option (Term × List Token)
  | 0, _, _ => none
  | fuel + 1, left, .times :: ts => do
      let (right, ts) ← signed fuel ts
      productAfter fuel (.binary .mul left right) ts
  | fuel + 1, left, .dividedBy :: ts => do
      let (right, ts) ← signed fuel ts
      productAfter fuel (.binary .div left right) ts
  | fuel + 1, left, .modulo :: ts => do
      let (right, ts) ← signed fuel ts
      productAfter fuel (.binary .rem left right) ts
  | _ + 1, left, ts => some (left, ts)

/-- A power behind any number of signs. -/
def signed : (fuel : Nat) → List Token → Option (Term × List Token)
  | 0, _ => none
  | fuel + 1, .plus :: ts => do
      let (operand, ts) ← signed fuel ts
      return (.unary .pos operand, ts)
  | fuel + 1, .minus :: ts => do
      let (operand, ts) ← signed fuel ts
      return (.unary .neg operand, ts)
  | fuel + 1, ts => powered fuel ts

/-- An operand with or without an exponent. -/
def powered : (fuel : Nat) → List Token → Option (Term × List Token)
  | 0, _ => none
  | fuel + 1, ts => do
      match ← operand fuel ts with
      | (base, .power :: ts) =>
          let (exponent, ts) ← signed fuel ts
          return (.binary .pow base exponent, ts)
      | (base, ts) => return (base, ts)

/-- A number, a name, a call or a sum in parentheses. -/
def operand : (fuel : Nat) → List Token → Option (Term × List Token)
  | 0, _ => none
  | _ + 1, .number value :: ts => some (.number value, ts)
  | fuel + 1, .name text :: .opening :: ts => do
      let (given, ts) ← arguments fuel ts
      return (.call text given, ts)
  | _ + 1, .name text :: ts => some (.name text, ts)
  | fuel + 1, .opening :: ts => do
      match ← sum fuel ts with
      | (inner, .closing :: ts) => return (inner, ts)
      | _ => none
  | _ + 1, _ => none

/-- The arguments of a call with the parenthesis that closes them. -/
def arguments : (fuel : Nat) → List Token → Option (List Term × List Token)
  | 0, _ => none
  | _ + 1, .closing :: ts => some ([], ts)
  | fuel + 1, ts => do
      let (first, ts) ← sum fuel ts
      let (more, ts) ← argumentsAfter fuel ts
      return (first :: more, ts)

/-- The arguments behind one that was read. -/
def argumentsAfter : (fuel : Nat) → List Token → Option (List Term × List Token)
  | 0, _ => none
  | _ + 1, .closing :: ts => some ([], ts)
  | fuel + 1, .comma :: ts => do
      let (next, ts) ← sum fuel ts
      let (more, ts) ← argumentsAfter fuel ts
      return (next :: more, ts)
  | _ + 1, _ => none

end

/-- The expression that these words write. -/
def ofTokens? (ts : List Token) : Option Term :=
  match sum (8 * (ts.length + 1)) ts with
  | some (term, []) => some term
  | _ => none

/-- The expression that a text writes. -/
def read? (s : Text) : Option Term := (Token.readAll? s).bind ofTokens?

mutual

/-- Looks up the functions that are called. Of several errors the first one counts: that of a
call's name, then those of its arguments, then that of their number.
-/
def resolve : Term → Except EvalError Expr
  | .number value => .ok (.number value)
  | .name text => .ok (.var text)
  | .unary op operand => do return .unary op (← operand.resolve)
  | .binary op left right => do
      let left ← left.resolve
      return .binary op left (← right.resolve)
  | .call callee arguments =>
      match Function.named? callee with
      | none => .error (.unknownFunction callee)
      | some function => do
          let arguments ← resolveAll arguments
          if function.arity.admits arguments.length then return .call function arguments
          else throw (.arity function arguments.length)

/-- Looks up the functions that are called in several expressions, from left to right. -/
def resolveAll : List Term → Except EvalError (List Expr)
  | [] => .ok []
  | first :: more => do
      let first ← first.resolve
      return first :: (← resolveAll more)

end

end Term

/-- The expression that a text writes, with its functions looked up. -/
def compile (source : Text) : Except EvalError Expr :=
  match Term.read? source with
  | some term => term.resolve
  | none => .error (.malformed source)

/-- The value of a text. A literal of a finite number is read directly. -/
def evaluate (source : Text) (scope : Scope) : Except EvalError Float :=
  match Number.Literal.finite? source.trim with
  | some value => .ok value
  | none => do (← compile source).eval scope

/-- The value of a text, or (fallback) if it has none. -/
def evaluateOr (fallback : Float) (source : Text) (scope : Scope) : Float :=
  match evaluate source scope with
  | .ok value => value
  | .error _ => fallback

end LatexFigures.Expr
