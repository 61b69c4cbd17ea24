import LatexFigures.Expr.Term

/-! The functions that a term calls. Looking them up succeeds exactly if all of them exist and
each is given as many arguments as it takes.
-/

namespace LatexFigures

namespace Expr

mutual

/-- Every function is given as many arguments as it takes. -/
def RespectsArities : Expr → Prop
  | number _ | var _ => True
  | unary _ operand => operand.RespectsArities
  | binary _ left right => left.RespectsArities ∧ right.RespectsArities
  | call function arguments =>
      function.arity.admits arguments.length = true ∧ Expr.AllRespectArities arguments

def AllRespectArities : List Expr → Prop
  | [] => True
  | first :: more => first.RespectsArities ∧ Expr.AllRespectArities more

end

namespace Term

mutual

/-- The expression of a term, if all functions that it calls exist; how many arguments they are
given does not matter.
-/
def named? : Term → Option Expr
  | .number value => some (.number value)
  | .name text => some (.var text)
  | .unary op operand => operand.named?.map (.unary op)
  | .binary op left right => do return .binary op (← left.named?) (← right.named?)
  | .call callee arguments => do
      return .call (← Function.named? callee) (← allNamed? arguments)

def allNamed? : List Term → Option (List Expr)
  | [] => some []
  | first :: more => do return (← first.named?) :: (← allNamed? more)

end

/-- A step that may fail, and another one behind it, succeed exactly if both do. -/
theorem bind_eq_ok_iff {ε α β : Type} {first : Except ε α} {next : α → Except ε β} {result : β}
    : (first >>= next) = .ok result ↔ ∃ value, first = .ok value ∧ next value = .ok result := by
  cases first <;> simp [bind, Except.bind]

mutual

/-- Looking up the functions of a term gives its expression if that respects the arities. By
induction on the term.
-/
theorem resolve_eq_ok_iff (term : Term) {e : Expr}
    : term.resolve = .ok e ↔ term.named? = some e ∧ e.RespectsArities := by
  cases term with
  | number value =>
      constructor
      · intro h
        cases h
        exact ⟨rfl, trivial⟩
      · intro h
        obtain ⟨⟨⟩, -⟩ := h
        rfl
  | name text =>
      constructor
      · intro h
        cases h
        exact ⟨rfl, trivial⟩
      · intro h
        obtain ⟨⟨⟩, -⟩ := h
        rfl
  | unary op operand =>
      simp only [resolve, bind_eq_ok_iff, resolve_eq_ok_iff operand, named?,
        Option.map_eq_some_iff, pure, Except.pure, Except.ok.injEq]
      constructor
      · intro h
        obtain ⟨inner, ⟨named, respects⟩, rfl⟩ := h
        exact ⟨⟨inner, named, rfl⟩, respects⟩
      · intro h
        obtain ⟨⟨inner, named, rfl⟩, respects⟩ := h
        exact ⟨inner, ⟨named, respects⟩, rfl⟩
  | binary op left right =>
      simp only [resolve, bind_eq_ok_iff, resolve_eq_ok_iff left, resolve_eq_ok_iff right,
        named?, Option.bind_eq_bind, Option.bind_eq_some_iff, pure, Except.pure,
        Except.ok.injEq, Option.some.injEq]
      constructor
      · intro h
        obtain ⟨a, ⟨first, respects⟩, b, ⟨second, respects'⟩, rfl⟩ := h
        exact ⟨⟨a, first, b, second, rfl⟩, respects, respects'⟩
      · intro h
        obtain ⟨⟨a, first, b, second, rfl⟩, respects, respects'⟩ := h
        exact ⟨a, ⟨first, respects⟩, b, ⟨second, respects'⟩, rfl⟩
  | call callee arguments =>
      simp only [resolve, named?, Option.bind_eq_bind, Option.bind_eq_some_iff]
      cases looked : Function.named? callee with
      | none => simp
      | some function =>
          simp only [bind_eq_ok_iff, resolveAll_eq_ok_iff arguments, Option.some.injEq, pure,
            Except.pure]
          constructor
          · intro h
            obtain ⟨es, ⟨named, respects⟩, counted⟩ := h
            split at counted
            · rename_i admitted
              cases counted
              exact ⟨⟨function, rfl, es, named, rfl⟩, admitted, respects⟩
            · contradiction
          · intro h
            obtain ⟨⟨_, rfl, es, named, rfl⟩, admitted, respects⟩ := h
            exact ⟨es, ⟨named, respects⟩, if_pos admitted⟩

theorem resolveAll_eq_ok_iff (terms : List Term) {es : List Expr}
    : resolveAll terms = .ok es ↔ allNamed? terms = some es ∧ Expr.AllRespectArities es := by
  cases terms with
  | nil =>
      constructor
      · intro h
        cases h
        exact ⟨rfl, trivial⟩
      · intro h
        obtain ⟨⟨⟩, -⟩ := h
        rfl
  | cons first more =>
      simp only [resolveAll, bind_eq_ok_iff, resolve_eq_ok_iff first,
        resolveAll_eq_ok_iff more, allNamed?, Option.bind_eq_bind, Option.bind_eq_some_iff,
        pure, Except.pure, Except.ok.injEq, Option.some.injEq]
      constructor
      · intro h
        obtain ⟨e, ⟨named, respects⟩, es, ⟨named', respects'⟩, rfl⟩ := h
        exact ⟨⟨e, named, es, named', rfl⟩, respects, respects'⟩
      · intro h
        obtain ⟨⟨e, named, es, named', rfl⟩, respects, respects'⟩ := h
        exact ⟨e, ⟨named, respects⟩, es, ⟨named', respects'⟩, rfl⟩

end

end Term

end Expr

end LatexFigures
