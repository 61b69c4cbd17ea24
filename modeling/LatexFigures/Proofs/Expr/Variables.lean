import LatexFigures.Expr.Term

/-! The variables of an expression, and the names that a text reads. Nothing else of a scope has
any influence on the value.
-/

namespace LatexFigures

namespace Expr

mutual

/-- The variables of an expression, once for each occurrence and from left to right. -/
def freeNames : Expr → List String
  | number _ => []
  | var name => [name]
  | unary _ operand => operand.freeNames
  | binary _ left right => left.freeNames ++ right.freeNames
  | call _ arguments => Expr.freeNamesIn arguments

def freeNamesIn : List Expr → List String
  | [] => []
  | first :: more => first.freeNames ++ Expr.freeNamesIn more

end

/-- The two scopes give the same values to these names. -/
def Agree (names : List String) (scope other : Scope) : Prop :=
  ∀ name ∈ names, scope.lookup? name = other.lookup? name

variable {scope other : Scope}

mutual

/-- The value of an expression depends on the values of its variables alone, by induction on
the expression.
-/
theorem value_congr (e : Expr) (agree : Agree e.freeNames scope other)
    : e.value scope = e.value other := by
  cases e with
  | number value => rfl
  | var name =>
      simp only [value, agree name (by simp [freeNames])]
  | unary op operand =>
      simp only [value, value_congr operand agree]
  | binary op left right =>
      simp only [freeNames, Agree, List.mem_append] at agree
      simp only [value, value_congr left fun name member => agree name (.inl member),
        value_congr right fun name member => agree name (.inr member)]
  | call function arguments =>
      simp only [value, values_congr arguments agree]

theorem values_congr (es : List Expr) (agree : Agree (Expr.freeNamesIn es) scope other)
    : Expr.values scope es = Expr.values other es := by
  cases es with
  | nil => rfl
  | cons first more =>
      simp only [freeNamesIn, Agree, List.mem_append] at agree
      simp only [values, value_congr first fun name member => agree name (.inl member),
        values_congr more fun name member => agree name (.inr member)]

end

/-- The names that a text reads when it is evaluated. -/
def namesIn (source : Text) : List String :=
  match compile source with
  | .ok e => e.freeNames
  | .error _ => []

/-- The value of a text depends on the names that it reads alone. -/
theorem evaluate_congr {source : Text} (agree : Agree (namesIn source) scope other)
    : evaluate source scope = evaluate source other := by
  unfold evaluate
  cases Number.Literal.finite? source.trim with
  | some value => rfl
  | none =>
      unfold namesIn at agree
      cases compiled : compile source with
      | error e => rfl
      | ok e =>
          rw [compiled] at agree
          simp only [bind, Except.bind, eval, value_congr e agree]

theorem evaluateOr_congr (fallback : Float) {source : Text}
    (agree : Agree (namesIn source) scope other)
    : evaluateOr fallback source scope = evaluateOr fallback source other := by
  simp only [evaluateOr, evaluate_congr agree]

end Expr

/-- Locals hide variables: with the same ones, scopes agree on a name as soon as their variables
do or a local has that name.
-/
theorem Scope.lookup?_congr {locals : List (String × Float)} {bindings other : Bindings}
    {name : String} (agree : name ∉ locals.map Prod.fst → bindings[name]? = other[name]?)
    : Scope.lookup? { locals, bindings } name
      = Scope.lookup? { locals, bindings := other } name := by
  unfold lookup?
  cases found : locals.reverse.lookup name with
  | some value => rfl
  | none =>
      have absent : name ∉ locals.map Prod.fst := by
        intro member
        obtain ⟨entry, inside, same⟩ := List.mem_map.mp member
        have differs := List.lookup_eq_none_iff.mp found entry (List.mem_reverse.mpr inside)
        simp [same] at differs
      simp only [agree absent]

end LatexFigures
