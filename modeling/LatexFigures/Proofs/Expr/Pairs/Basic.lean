import LatexFigures.Proofs.Expr.Grammar

/-! Trees of pairs. Every rule of the grammar leaves a pair for what it has read, with the pairs of
its parts inside, and the expression is built from these. The builder relies on no grammar: where a
pair is missing or out of place it fails, with errors of its own.
-/

namespace LatexFigures.Expr

/-- The rules of the grammar. The one of operands is silent: it leaves only the pairs of its parts.
-/
inductive Rule
  | expression | sum | product | unary | power | primary | call
  | addOp | mulOp | powOp | sign | number | ident | endOfInput
deriving Repr, DecidableEq

/-- The rule as the grammar names it. -/
def Rule.name : Rule → String
  | expression => "expression"
  | sum => "sum"
  | product => "product"
  | unary => "unary"
  | power => "power"
  | primary => "primary"
  | call => "call"
  | addOp => "add_op"
  | mulOp => "mul_op"
  | powOp => "pow_op"
  | sign => "prefix"
  | number => "number"
  | ident => "ident"
  | endOfInput => "EOI"

/-- What a rule has read, with the pairs of its parts from left to right. -/
structure Pair where
  rule : Rule
  text : Text
  inner : List Pair

/-- Why no expression is built. -/
inductive Failure
  /-- The pairs are not as the grammar makes them. -/
  | shape (text : Text) (message : String)
  /-- A function does not exist or is not called so. -/
  | call (error : EvalError)

/-- The level of the operands. -/
def Level.tighter : Level → Level
  | sum => product
  | product => signed
  | signed => power
  | power | operand => operand

/-- The operator that the text stands for, in sums and in products. -/
def Level.operator? : Level → Text → Option BinaryOp
  | sum, ['+'] => some .add
  | sum, ['-'] => some .sub
  | product, ['*'] => some .mul
  | product, ['/'] => some .div
  | product, ['%'] => some .rem
  | _, _ => none

/-- A name without the path that may stand in front. -/
def pathless (name : Text) : String := String.ofList ((Text.after? Token.path name).getD name)

namespace Pair

-----------------------------------------------------------------------------------------
-- Building
-----------------------------------------------------------------------------------------

mutual

/-- The expression of a pair that is met at this level. Only operands look at the rule, as it
decides what they are.
-/
def build : Level → Pair → Except Failure Expr
  | .sum, ⟨_, text, inner⟩ => chain .sum text inner
  | .product, ⟨_, text, inner⟩ => chain .product text inner
  | .signed, ⟨_, text, inner⟩ => signed text [] none inner
  | .power, ⟨_, text, inner⟩ => power text inner
  | .operand, ⟨.number, text, _⟩ =>
      match Number.Literal.read? text with
      | some value => .ok (.number value)
      | none => .error (.shape text "invalid float literal")
  | .operand, ⟨.ident, text, _⟩ => .ok (.var (pathless text))
  | .operand, ⟨.call, text, inner⟩ => call text inner
  | .operand, ⟨.sum, text, inner⟩ => chain .sum text inner
  | .operand, ⟨rule, text, _⟩ => .error (.shape text s!"unexpected {rule.name}")

/-- Operands with operators between them, which bind to the left. -/
def chain (level : Level) (text : Text) : List Pair → Except Failure Expr
  | [] => .error (.shape text "missing operand")
  | first :: more => do chainAfter level text (← build level.tighter first) more

/-- The operators and operands behind those that make (left). -/
def chainAfter (level : Level) (text : Text) (left : Expr) : List Pair → Except Failure Expr
  | [] => .ok left
  | ⟨_, operator, _⟩ :: more =>
      match level.operator? operator with
      | none => .error (.shape text s!"unexpected operator {String.ofList operator}")
      | some op =>
          match more with
          | [] => .error (.shape text "missing operand")
          | next :: more => do
              chainAfter level text (.binary op left (← build level.tighter next)) more

/-- A power behind signs, of which the last one binds first. The (signs) that were met stand in
that order.
-/
def signed (text : Text) (signs : List UnaryOp) (operand : Option Expr)
    : List Pair → Except Failure Expr
  | [] =>
      match operand with
      | none => .error (.shape text "missing operand")
      | some operand => .ok (signs.foldl (fun e op => .unary op e) operand)
  | ⟨.sign, sign, _⟩ :: more =>
      signed text ((if sign = ['-'] then .neg else .pos) :: signs) operand more
  | ⟨.power, behind, inner⟩ :: more => do
      let operand ← power behind inner
      signed text signs (some operand) more
  | _ :: more => signed text signs operand more

/-- An operand, with an exponent if there is one. -/
def power (text : Text) : List Pair → Except Failure Expr
  | [] => .error (.shape text "missing operand")
  | base :: _ :: exponent :: _ => do
      let base ← build .operand base
      return .binary .pow base (← build .signed exponent)
  | base :: _ => build .operand base

/-- A call. Its function is looked up first, and its arguments are counted last. -/
def call (text : Text) : List Pair → Except Failure Expr
  | [] => .error (.shape text "missing function name")
  | ⟨_, callee, _⟩ :: arguments =>
      match Function.named? (pathless callee) with
      | none => .error (.call (.unknownFunction (pathless callee)))
      | some function => do
          let arguments ← buildAll arguments
          if function.arity.admits arguments.length then return .call function arguments
          else throw (.call (.arity function arguments.length))

/-- Several sums, from left to right. -/
def buildAll : List Pair → Except Failure (List Expr)
  | [] => .ok []
  | first :: more => do
      let first ← build .sum first
      return first :: (← buildAll more)

end

/-- The expression of a whole source: that of the first sum in the first pair. -/
def buildSource (source : Text) (pairs : List Pair) : Except Failure Expr :=
  match pairs.head?.bind fun tree => tree.inner.find? (·.rule = .sum) with
  | some sum => sum.build .sum
  | none => .error (.shape source "empty input")

-----------------------------------------------------------------------------------------
-- Calls and what is wrong with them
-----------------------------------------------------------------------------------------

/-- A call, as it stands in a source. -/
structure Call where
  callee : Text
  given : Nat

/-- The name of the function. -/
def Call.name (call : Call) : String := pathless call.callee

/-- What is wrong with the call itself: its function does not exist or takes other counts. -/
def Call.fault? (call : Call) : Option EvalError :=
  match Function.named? call.name with
  | none => some (.unknownFunction call.name)
  | some function =>
      if function.arity.admits call.given then none else some (.arity function call.given)

/-- The canonical name of a function names it. -/
theorem Call.named?_name (function : Function) : Function.named? function.name = some function := by
  cases function <;> decide +kernel

theorem Call.fault?_eq_some_iff {call : Call} {error : EvalError}
    : call.fault? = some error
      ↔ (Function.named? call.name = none ∧ error = .unknownFunction call.name)
        ∨ ∃ function, Function.named? call.name = some function
            ∧ function.arity.admits call.given = false
            ∧ error = .arity function call.given := by
  cases looked : Function.named? call.name with
  | none => simp [fault?, looked, eq_comm (a := error)]
  | some function =>
      cases counted : function.arity.admits call.given <;>
        simp [fault?, looked, counted, eq_comm (a := error)]

theorem Call.exists_fault?_iff {call : Call}
    : (∃ error, call.fault? = some error)
      ↔ Function.named? call.name = none
        ∨ ∃ function, Function.named? call.name = some function
            ∧ function.arity.admits call.given = false := by
  simp only [fault?_eq_some_iff]
  constructor
  · rintro ⟨error, ⟨unknown, -⟩ | ⟨function, known, other, -⟩⟩
    · exact .inl unknown
    · exact .inr ⟨function, known, other⟩
  · rintro (unknown | ⟨function, known, other⟩)
    · exact ⟨_, .inl ⟨unknown, rfl⟩⟩
    · exact ⟨_, .inr ⟨function, known, other, rfl⟩⟩

mutual

/-- All calls in a tree. -/
def calls : Pair → List Call
  | ⟨.call, _, ⟨_, callee, _⟩ :: arguments⟩ => ⟨callee, arguments.length⟩ :: callsIn arguments
  | ⟨_, _, inner⟩ => callsIn inner

def callsIn : List Pair → List Call
  | [] => []
  | first :: more => first.calls ++ callsIn more

end

mutual

/-- What is wrong with the calls in a tree. The name of a call stands before its arguments, the
count of its arguments behind them; apart from that the order is from left to right.
-/
def faults : Pair → List EvalError
  | ⟨.call, _, ⟨_, callee, _⟩ :: arguments⟩ =>
      let fault := Call.fault? ⟨callee, arguments.length⟩
      if (Function.named? (pathless callee)).isNone then fault.toList ++ faultsIn arguments
      else faultsIn arguments ++ fault.toList
  | ⟨_, _, inner⟩ => faultsIn inner

def faultsIn : List Pair → List EvalError
  | [] => []
  | first :: more => first.faults ++ faultsIn more

end

variable {rule : Rule} {text : Text} {inner : List Pair}

theorem calls_of_ne_call (other : rule ≠ .call) : calls ⟨rule, text, inner⟩ = callsIn inner := by
  cases rule <;> first | rfl | contradiction

theorem faults_of_ne_call (other : rule ≠ .call) : faults ⟨rule, text, inner⟩ = faultsIn inner := by
  cases rule <;> first | rfl | contradiction

theorem callsIn_eq_flatMap (pairs : List Pair) : callsIn pairs = pairs.flatMap calls := by
  induction pairs with
  | nil => rfl
  | cons first more ih => rw [callsIn, ih, List.flatMap_cons]

mutual

/-- The faults of a tree are those of its calls, whatever their order. By induction on the tree. -/
theorem mem_faults_iff (pair : Pair) {error : EvalError}
    : error ∈ pair.faults ↔ ∃ call ∈ pair.calls, call.fault? = some error := by
  match pair with
  | ⟨rule, text, inner⟩ =>
      have within : error ∈ faultsIn inner ↔ _ := mem_faultsIn_iff inner
      by_cases isCall : rule = .call
      · subst isCall
        match inner with
        | [] => exact within
        | ⟨_, callee, _⟩ :: arguments =>
            have within : error ∈ faultsIn arguments ↔ _ := mem_faultsIn_iff arguments
            rw [faults, calls]
            split <;> simp [within, or_comm]
      · rwa [faults_of_ne_call isCall, calls_of_ne_call isCall]

theorem mem_faultsIn_iff (pairs : List Pair) {error : EvalError}
    : error ∈ faultsIn pairs ↔ ∃ call ∈ callsIn pairs, call.fault? = some error := by
  match pairs with
  | [] => simp [faultsIn, callsIn]
  | first :: more =>
      simp only [faultsIn, callsIn, List.mem_append, mem_faults_iff first, mem_faultsIn_iff more,
        or_and_right, exists_or]

end

end Pair

end LatexFigures.Expr
