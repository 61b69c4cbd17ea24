import LatexFigures.Proofs.Expr.Variables

/-! Locals as substitutions. A local that is added last stands for its value wherever its name
occurs, and so it hides whatever else has this name. Names that do not occur in an expression do not
matter.
-/

namespace LatexFigures

-----------------------------------------------------------------------------------------
-- Scopes that differ in some names only
-----------------------------------------------------------------------------------------

namespace Scope

/-- The scope with one more local, which hides all others of its name. -/
def withLocal (scope : Scope) (name : String) (value : Float) : Scope :=
  { scope with locals := scope.locals ++ [(name, value)] }

/-- The scopes have the same locals, in the same order, and the same variables with the names that
are kept.
-/
structure SameOn (keep : String → Prop) [DecidablePred keep] (scope other : Scope) : Prop where
  locals
    : scope.locals.filter (fun entry => keep entry.1)
      = other.locals.filter (fun entry => keep entry.1)
  bindings : ∀ name, keep name → scope.bindings[name]? = other.bindings[name]?

variable {keep : String → Prop} [DecidablePred keep] {scope other : Scope} {name : String}

/-- Entries with other names do not matter to a look-up, by induction on the entries. -/
theorem lookup_filter (kept : keep name) (entries : List (String × Float))
    : (entries.filter fun entry => keep entry.1).lookup name = entries.lookup name := by
  induction entries with
  | nil => rfl
  | cons entry entries ih =>
      obtain ⟨first, value⟩ := entry
      rw [List.lookup_cons]
      by_cases stays : keep first
      · rw [List.filter_cons_of_pos (by simpa using stays), List.lookup_cons, ih]
      · have differs : (name == first) = false := beq_false_of_ne fun same => stays (same ▸ kept)
        rw [List.filter_cons_of_neg (by simpa using stays), ih, differs]

theorem SameOn.lookup?_eq (same : SameOn keep scope other) (kept : keep name)
    : scope.lookup? name = other.lookup? name := by
  have locals : scope.locals.reverse.lookup name = other.locals.reverse.lookup name := by
    rw [← lookup_filter kept, List.filter_reverse, same.locals, ← List.filter_reverse,
      lookup_filter kept]
  rw [lookup?, lookup?, locals, same.bindings name kept]

theorem lookup?_withLocal (scope : Scope) (name : String) (value : Float) (asked : String)
    : (scope.withLocal name value).lookup? asked
      = if asked = name then some value else scope.lookup? asked := by
  rw [lookup?, withLocal, List.reverse_append, List.reverse_singleton, List.singleton_append,
    List.lookup_cons]
  by_cases same : asked = name
  · rw [beq_iff_eq.mpr same, if_pos same]
    rfl
  · rw [beq_false_of_ne same, if_neg same]
    rfl

end Scope

namespace Expr

-----------------------------------------------------------------------------------------
-- Numbers in the place of a variable
-----------------------------------------------------------------------------------------

mutual

/-- The expression with a number in the place of each variable of this name. -/
def substitute (name : String) (replacement : Float) : Expr → Expr
  | number value => number value
  | var other => if other = name then number replacement else var other
  | unary op operand => unary op (operand.substitute name replacement)
  | binary op left right =>
      binary op (left.substitute name replacement) (right.substitute name replacement)
  | call function arguments => call function (Expr.substituteIn name replacement arguments)

def substituteIn (name : String) (replacement : Float) : List Expr → List Expr
  | [] => []
  | first :: more =>
      first.substitute name replacement :: Expr.substituteIn name replacement more

end

section

variable (scope : Scope) (name : String) (replacement : Float)

mutual

/-- A local stands for its value, in results and in errors. By induction on the expression. -/
theorem value_withLocal (e : Expr)
    : e.value (scope.withLocal name replacement)
      = (e.substitute name replacement).value scope := by
  cases e with
  | number value => rfl
  | var other =>
      rw [value, Scope.lookup?_withLocal, substitute]
      split <;> rfl
  | unary op operand => rw [value, substitute, value, value_withLocal operand]
  | binary op left right =>
      rw [value, substitute, value, value_withLocal left, value_withLocal right]
  | call function arguments => rw [value, substitute, value, values_withLocal arguments]

theorem values_withLocal (es : List Expr)
    : Expr.values (scope.withLocal name replacement) es
      = Expr.values scope (Expr.substituteIn name replacement es) := by
  cases es with
  | nil => rfl
  | cons first more =>
      rw [values, substituteIn, values, value_withLocal first, values_withLocal more]

end

end

theorem eval_congr {e : Expr} {scope other : Scope} (agree : Agree e.freeNames scope other)
    : e.eval scope = e.eval other := by
  rw [eval, value_congr e agree, eval]

/-- Adding a local is substituting its value for the variables of its name, whatever becomes of the
evaluation. Therefore the last local of a name hides the locals before it, the variable and the
constant of this name; and locals and variables whose names do not occur in an expression have no
influence on it.
-/
theorem eval_withLocal_eq_substitute (e : Expr) (scope : Scope) (name : String)
    (replacement : Float)
    : (e.value (scope.withLocal name replacement)
          = (e.substitute name replacement).value scope
        ∧ e.eval (scope.withLocal name replacement)
          = (e.substitute name replacement).eval scope)
      ∧ (∀ asked,
          (scope.withLocal name replacement).lookup? asked
            = if asked = name then some replacement else scope.lookup? asked)
      ∧ (∀ other, scope.SameOn (· ≠ name) other →
          e.eval (scope.withLocal name replacement) = e.eval (other.withLocal name replacement))
      ∧ ∀ other, scope.SameOn (· ∈ e.freeNames) other → e.eval scope = e.eval other := by
  have substituted := value_withLocal scope name replacement e
  refine ⟨⟨substituted, by rw [eval, substituted, eval]⟩, scope.lookup?_withLocal name replacement,
    fun other same => eval_congr fun asked _ => ?_,
    fun other same => eval_congr fun asked occurs => same.lookup?_eq occurs⟩
  rw [Scope.lookup?_withLocal, Scope.lookup?_withLocal]
  split
  · rfl
  · rename_i differs
    exact same.lookup?_eq differs

/-- The last of three locals hides those before it, a variable, and the constant of their name. -/
theorem eval_withLocal_eq_substitute_hiding_pi
    : let e := binary .mul (var "pi") (call .max [var "x", var "pi"])
      let scope : Scope := { locals := [("pi", 5), ("x", 2)], bindings := .insert ∅ "pi" 7 }
      let other : Scope := { locals := [("x", 2), ("pi", 6)] }
      let wider : Scope :=
        { locals := [("y", 4), ("pi", 5), ("x", 2)], bindings := scope.bindings.insert "b" 1 }
      scope.SameOn (· ≠ "pi") other
      ∧ e.eval (scope.withLocal "pi" 3) = e.eval (other.withLocal "pi" 3)
      ∧ (e.eval (scope.withLocal "pi" 3)).toOption = some 9
      ∧ scope.SameOn (· ∈ e.freeNames) wider
      ∧ e.eval scope = e.eval wider
      ∧ (e.eval scope).toOption = some 25 := by
  intro e scope other wider
  obtain ⟨⟨-, substituted⟩, -, hides, ignores⟩ := eval_withLocal_eq_substitute e scope "pi" 3
  have hidden : scope.SameOn (· ≠ "pi") other :=
    ⟨by decide, fun name differs => by simp [scope, other, Ne.symm differs]⟩
  have unread : scope.SameOn (· ∈ e.freeNames) wider := by
    refine ⟨by decide, fun name occurs => ?_⟩
    have differs : "b" ≠ name := fun same => absurd (same ▸ occurs) (by decide)
    simp [wider, Std.ExtTreeMap.getElem?_insert, differs]
  refine ⟨hidden, hides other hidden, ?_, unread, ignores wider unread, by decide +kernel⟩
  rw [substituted]
  decide +kernel

end Expr

end LatexFigures
