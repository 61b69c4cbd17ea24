import LatexFigures.Proofs.Expr.Lookup

/-! The grammar of expressions as relations between words and trees. They say nothing of how a
tree is found: operators that bind to the left are written by recursion on the left, and the
looser levels contain the tighter ones. Words form a term whatever functions it calls; they write
the expression of that term if all these functions exist.
-/

namespace LatexFigures

/-- The word of a sign. -/
def UnaryOp.token : UnaryOp → Expr.Token
  | .neg => .minus
  | .pos => .plus

/-- The word of an operator. -/
def BinaryOp.token : BinaryOp → Expr.Token
  | .add => .plus
  | .sub => .minus
  | .mul => .times
  | .div => .dividedBy
  | .rem => .modulo
  | .pow => .power

namespace Expr

/-- How tightly an expression is bound, from loose to tight. -/
inductive Level
  | sum | product | signed | power | operand
deriving DecidableEq

/-- The words form the term, at this level. Parentheses make an operand of anything. The arguments
of a call are given with the words of each.
-/
inductive Forms : Level → List Token → Term → Prop
  | number (value) : Forms .operand [.number value] (.number value)
  | name (text) : Forms .operand [.name text] (.name text)
  | call (callee) (given : List (List Token × Term))
      (each : ∀ argument ∈ given, Forms .sum argument.1 argument.2)
    : Forms .operand
        (.name callee :: .opening :: [Token.comma].intercalate (given.map Prod.fst)
          ++ [.closing])
        (.call callee (given.map Prod.snd))
  | grouped {ts term} (inner : Forms .sum ts term)
    : Forms .operand (.opening :: ts ++ [.closing]) term
  | base {ts term} (bare : Forms .operand ts term) : Forms .power ts term
  | raised {ts us base exponent} (first : Forms .operand ts base)
      (second : Forms .signed us exponent)
    : Forms .power (ts ++ .power :: us) (.binary .pow base exponent)
  | unsigned {ts term} (bare : Forms .power ts term) : Forms .signed ts term
  | signed {ts operand} (op : UnaryOp) (behind : Forms .signed ts operand)
    : Forms .signed (op.token :: ts) (.unary op operand)
  | factor {ts term} (only : Forms .signed ts term) : Forms .product ts term
  | multiplied {ts us op left right} (binds : op ∈ [BinaryOp.mul, .div, .rem])
      (first : Forms .product ts left) (second : Forms .signed us right)
    : Forms .product (ts ++ op.token :: us) (.binary op left right)
  | summand {ts term} (only : Forms .product ts term) : Forms .sum ts term
  | added {ts us op left right} (binds : op ∈ [BinaryOp.add, .sub])
      (first : Forms .sum ts left) (second : Forms .product us right)
    : Forms .sum (ts ++ op.token :: us) (.binary op left right)

/-- The words write the expression, at this level. Parentheses make an operand of anything. A
call stands by any name of its function; its arguments are given with the words of each.
-/
inductive Writes : Level → List Token → Expr → Prop
  | number (value) : Writes .operand [.number value] (.number value)
  | name (text) : Writes .operand [.name text] (.var text)
  | call {callee function} (given : List (List Token × Expr))
      (named : Function.named? callee = some function)
      (each : ∀ argument ∈ given, Writes .sum argument.1 argument.2)
    : Writes .operand
        (.name callee :: .opening :: [Token.comma].intercalate (given.map Prod.fst)
          ++ [.closing])
        (.call function (given.map Prod.snd))
  | grouped {ts e} (inner : Writes .sum ts e)
    : Writes .operand (.opening :: ts ++ [.closing]) e
  | base {ts e} (bare : Writes .operand ts e) : Writes .power ts e
  | raised {ts us base exponent} (first : Writes .operand ts base)
      (second : Writes .signed us exponent)
    : Writes .power (ts ++ .power :: us) (.binary .pow base exponent)
  | unsigned {ts e} (bare : Writes .power ts e) : Writes .signed ts e
  | signed {ts operand} (op : UnaryOp) (behind : Writes .signed ts operand)
    : Writes .signed (op.token :: ts) (.unary op operand)
  | factor {ts e} (only : Writes .signed ts e) : Writes .product ts e
  | multiplied {ts us op left right} (binds : op ∈ [BinaryOp.mul, .div, .rem])
      (first : Writes .product ts left) (second : Writes .signed us right)
    : Writes .product (ts ++ op.token :: us) (.binary op left right)
  | summand {ts e} (only : Writes .product ts e) : Writes .sum ts e
  | added {ts us op left right} (binds : op ∈ [BinaryOp.add, .sub])
      (first : Writes .sum ts left) (second : Writes .product us right)
    : Writes .sum (ts ++ op.token :: us) (.binary op left right)

/-- Texts or words between marks: the first ones, then each of the others behind its mark. -/
theorem intercalate_mark {α : Type} {mark : α} (first : List α) (more : List (List α))
    : [mark].intercalate (first :: more) = first ++ more.flatMap (mark :: ·) := by
  induction more generalizing first with
  | nil => simp
  | cons next more ih =>
      rw [List.intercalate_cons_cons, ih next]
      simp

-----------------------------------------------------------------------------------------
-- Terms and their expressions
-----------------------------------------------------------------------------------------

/-- Arguments that are the expressions of terms, each by itself, are so together. By induction
on the arguments.
-/
theorem exists_terms {given : List (List Token × Expr)}
    (each : ∀ argument ∈ given, ∃ term : Term,
      term.named? = some argument.2 ∧ Forms .sum argument.1 term)
    : ∃ read : List (List Token × Term),
        read.map Prod.fst = given.map Prod.fst
        ∧ Term.allNamed? (read.map Prod.snd) = some (given.map Prod.snd)
        ∧ ∀ argument ∈ read, Forms .sum argument.1 argument.2 := by
  induction given with
  | nil => exact ⟨[], rfl, rfl, by simp⟩
  | cons argument given ih =>
      obtain ⟨term, named, forms⟩ := each argument (by simp)
      obtain ⟨read, words, terms, all⟩ := ih fun other member => each other (by simp [member])
      refine ⟨(argument.1, term) :: read, by simp [words], ?_, ?_⟩
      · simp [Term.allNamed?, named, terms]
      · intro other member
        rcases List.mem_cons.mp member with rfl | later
        · exact forms
        · exact all other later

/-- What writes an expression forms a term of it, by induction on the derivation. -/
theorem Writes.forms {level : Level} {ts : List Token} {e : Expr} (writes : Writes level ts e)
    : ∃ term : Term, term.named? = some e ∧ Forms level ts term := by
  induction writes with
  | number value => exact ⟨_, rfl, .number value⟩
  | name text => exact ⟨_, rfl, .name text⟩
  | @call callee _ given named each ih =>
      obtain ⟨read, words, terms, all⟩ := exists_terms ih
      refine ⟨.call callee (read.map Prod.snd), by simp [Term.named?, named, terms], ?_⟩
      rw [← words]
      exact .call callee read all
  | grouped inner ih =>
      obtain ⟨term, named, forms⟩ := ih
      exact ⟨term, named, .grouped forms⟩
  | base bare ih =>
      obtain ⟨term, named, forms⟩ := ih
      exact ⟨term, named, .base forms⟩
  | raised first second ih ih' =>
      obtain ⟨left, named, forms⟩ := ih
      obtain ⟨right, named', forms'⟩ := ih'
      exact ⟨.binary .pow left right, by simp [Term.named?, named, named'],
        .raised forms forms'⟩
  | unsigned bare ih =>
      obtain ⟨term, named, forms⟩ := ih
      exact ⟨term, named, .unsigned forms⟩
  | signed op behind ih =>
      obtain ⟨term, named, forms⟩ := ih
      exact ⟨.unary op term, by simp [Term.named?, named], .signed op forms⟩
  | factor only ih =>
      obtain ⟨term, named, forms⟩ := ih
      exact ⟨term, named, .factor forms⟩
  | @multiplied _ _ op _ _ binds first second ih ih' =>
      obtain ⟨left, named, forms⟩ := ih
      obtain ⟨right, named', forms'⟩ := ih'
      exact ⟨.binary op left right, by simp [Term.named?, named, named'],
        .multiplied binds forms forms'⟩
  | summand only ih =>
      obtain ⟨term, named, forms⟩ := ih
      exact ⟨term, named, .summand forms⟩
  | @added _ _ op _ _ binds first second ih ih' =>
      obtain ⟨left, named, forms⟩ := ih
      obtain ⟨right, named', forms'⟩ := ih'
      exact ⟨.binary op left right, by simp [Term.named?, named, named'],
        .added binds forms forms'⟩

/-- The expressions of arguments, with the words of each, by induction on the arguments. -/
theorem exists_expressions {given : List (List Token × Term)} {es : List Expr}
    (each : ∀ argument ∈ given, ∀ e, argument.2.named? = some e → Writes .sum argument.1 e)
    (named : Term.allNamed? (given.map Prod.snd) = some es)
    : ∃ written : List (List Token × Expr),
        written.map Prod.fst = given.map Prod.fst
        ∧ written.map Prod.snd = es
        ∧ ∀ argument ∈ written, Writes .sum argument.1 argument.2 := by
  induction given generalizing es with
  | nil =>
      cases named
      exact ⟨[], rfl, rfl, by simp⟩
  | cons argument given ih =>
      simp only [List.map_cons, Term.allNamed?, Option.bind_eq_bind, Option.bind_eq_some_iff,
        Option.pure_def, Option.some.injEq] at named
      obtain ⟨e, first, es, more, rfl⟩ := named
      obtain ⟨written, words, expressions, all⟩ :=
        ih (fun other member => each other (by simp [member])) more
      refine ⟨(argument.1, e) :: written, by simp [words], by simp [expressions], ?_⟩
      intro other member
      rcases List.mem_cons.mp member with rfl | later
      · exact each argument (by simp) e first
      · exact all other later

theorem named?_binary {left right : Term} {op : BinaryOp} {e : Expr}
    (named : (Term.binary op left right).named? = some e)
    : ∃ a b, left.named? = some a ∧ right.named? = some b ∧ e = .binary op a b := by
  simp only [Term.named?, Option.bind_eq_bind, Option.bind_eq_some_iff, Option.pure_def,
    Option.some.injEq] at named
  obtain ⟨a, first, b, second, rfl⟩ := named
  exact ⟨a, b, first, second, rfl⟩

/-- What forms a term writes the expression of it, by induction on the derivation. -/
theorem Forms.writes {level : Level} {ts : List Token} {term : Term} {e : Expr}
    (forms : Forms level ts term) (named : term.named? = some e)
    : Writes level ts e := by
  induction forms generalizing e with
  | number value =>
      cases named
      exact .number value
  | name text =>
      cases named
      exact .name text
  | call callee given each ih =>
      simp only [Term.named?, Option.bind_eq_bind, Option.bind_eq_some_iff, Option.pure_def,
        Option.some.injEq] at named
      obtain ⟨function, looked, es, all, rfl⟩ := named
      obtain ⟨written, words, rfl, writes⟩ := exists_expressions (fun a member _ => ih a member) all
      rw [← words]
      exact .call written looked writes
  | grouped inner ih => exact .grouped (ih named)
  | base bare ih => exact .base (ih named)
  | raised first second ih ih' =>
      obtain ⟨a, b, left, right, rfl⟩ := named?_binary named
      exact .raised (ih left) (ih' right)
  | unsigned bare ih => exact .unsigned (ih named)
  | signed op behind ih =>
      obtain ⟨operand, inner, rfl⟩ := Option.map_eq_some_iff.mp named
      exact .signed op (ih inner)
  | factor only ih => exact .factor (ih named)
  | multiplied binds first second ih ih' =>
      obtain ⟨a, b, left, right, rfl⟩ := named?_binary named
      exact .multiplied binds (ih left) (ih' right)
  | summand only ih => exact .summand (ih named)
  | added binds first second ih ih' =>
      obtain ⟨a, b, left, right, rfl⟩ := named?_binary named
      exact .added binds (ih left) (ih' right)

theorem writes_iff_forms {level : Level} {ts : List Token} {e : Expr}
    : Writes level ts e ↔ ∃ term : Term, term.named? = some e ∧ Forms level ts term := by
  constructor
  · exact Writes.forms
  · intro h
    obtain ⟨term, named, forms⟩ := h
    exact forms.writes named

end Expr

end LatexFigures
