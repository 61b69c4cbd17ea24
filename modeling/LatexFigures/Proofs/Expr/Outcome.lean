import LatexFigures.Proofs.Expr.FirstError
import LatexFigures.Proofs.Expr.Rendering
import LatexFigures.Proofs.Expr.Variables

/-! What becomes of an expression that was compiled: the leftmost variable of the text that has no
value is reported; if all of them have one, the result is a finite number or is reported not to be
finite.
-/

namespace LatexFigures

-----------------------------------------------------------------------------------------
-- Names and functions that have values
-----------------------------------------------------------------------------------------

/-- A local, a variable or a constant has this name. -/
def Scope.Resolves (scope : Scope) (name : String) : Prop :=
  name ∈ scope.locals.map Prod.fst ∨ name ∈ scope.bindings ∨ (constant? name).isSome = true

instance (scope : Scope) (name : String) : Decidable (scope.Resolves name) :=
  inferInstanceAs (Decidable (_ ∨ _ ∨ _))

theorem Scope.isSome_lookup?_iff (scope : Scope) (name : String)
    : (scope.lookup? name).isSome = true ↔ scope.Resolves name := by
  have locals : (scope.locals.reverse.lookup name).isSome = true
      ↔ name ∈ scope.locals.map Prod.fst := by
    simp only [List.lookup_isSome_iff, List.mem_reverse, beq_iff_eq, List.mem_map,
      eq_comm (a := name)]
  simp only [lookup?, Option.isSome_or, Bool.or_eq_true, locals, Resolves,
    Std.ExtTreeMap.isSome_getElem?_eq_contains, Std.ExtTreeMap.contains_iff_mem]

/-- A function that is given as many arguments as it takes finds all of them in their places. -/
theorem Function.exists_ofPlaces? (function : Function) {args : List Float}
    (admitted : function.arity.admits args.length = true)
    : ∃ value, function.ofPlaces? args = some value := by
  match args with
  | [] => cases function <;> cases admitted
  | [x] =>
      cases function with
      | atan2 | pow | hypot => cases admitted
      | _ => exact ⟨_, rfl⟩
  | x :: y :: more => cases function <;> exact ⟨_, rfl⟩

namespace Expr

-----------------------------------------------------------------------------------------
-- Evaluation reports variables only
-----------------------------------------------------------------------------------------

/-- The errors of variables that have no value, in the order of the names. -/
def unresolved (scope : Scope) (names : List String) : List EvalError :=
  (names.filter fun name => ¬ scope.Resolves name).map .undefinedVariable

theorem unresolved_append (scope : Scope) (names more : List String)
    : unresolved scope (names ++ more) = unresolved scope names ++ unresolved scope more := by
  rw [unresolved, List.filter_append, List.map_append]
  rfl

section

variable (scope : Scope)

theorem length_of_values (es : List Expr) {values : List Float}
    (given : Expr.values scope es = .ok values)
    : values.length = es.length := by
  induction es generalizing values with
  | nil =>
      cases given
      rfl
  | cons first more ih =>
      simp only [Expr.values, Term.bind_eq_ok_iff] at given
      obtain ⟨value, -, others, rest, done⟩ := given
      cases done
      exact congrArg Nat.succ (ih rest)

/-- A variable is its own error if it has no value. -/
theorem reportsFirst_var (name : String)
    : ReportsFirst (unresolved scope [name]) ((var name).value scope) := by
  have resolves := scope.isSome_lookup?_iff name
  rw [value, unresolved, List.filter_singleton]
  cases looked : scope.lookup? name with
  | some value =>
      have known : scope.Resolves name := resolves.mp (by rw [looked]; rfl)
      simpa [known] using ReportsFirst.ok value
  | none =>
      have unknown : ¬ scope.Resolves name := fun known => by
        simpa [looked] using resolves.mpr known
      simpa [unknown] using ReportsFirst.error (EvalError.undefinedVariable name) []

mutual

/-- Whatever respects the arities has a value, unless a variable has none. By induction on the
expression.
-/
theorem reportsFirst_value (e : Expr) (respects : e.RespectsArities)
    : ReportsFirst (unresolved scope e.freeNames) (e.value scope) := by
  cases e with
  | number value => exact .ok value
  | var name => exact reportsFirst_var scope name
  | unary op operand => exact (reportsFirst_value operand respects).bind_ok
  | binary op left right =>
      rw [freeNames, unresolved_append]
      exact (reportsFirst_value left respects.1).bind fun x _ =>
        (reportsFirst_value right respects.2).bind_ok
  | call function arguments =>
      obtain ⟨admitted, respects⟩ := respects
      have all : ReportsFirst (unresolved scope (Expr.freeNamesIn arguments) ++ [])
          ((call function arguments).value scope) :=
        (reportsFirst_values arguments respects).bind fun values given => by
          have counted : function.arity.admits values.length = true := by
            rw [length_of_values scope arguments given]
            exact admitted
          obtain ⟨value, found⟩ := function.exists_ofPlaces? counted
          rw [Function.call?, if_pos counted, found]
          exact .ok value
      rwa [List.append_nil] at all

theorem reportsFirst_values (es : List Expr) (respects : Expr.AllRespectArities es)
    : ReportsFirst (unresolved scope (Expr.freeNamesIn es)) (Expr.values scope es) := by
  cases es with
  | nil => exact .ok []
  | cons first more =>
      rw [freeNamesIn, unresolved_append]
      exact (reportsFirst_value first respects.1).bind fun x _ =>
        (reportsFirst_values more respects.2).bind_ok

end

end

-----------------------------------------------------------------------------------------
-- Variables in their order in the text
-----------------------------------------------------------------------------------------

namespace Token

/-- The names that are not called, in their order. -/
def variableNames : List Token → List String
  | [] => []
  | .name text :: ts =>
      if ts.head? = some .opening then variableNames ts else text :: variableNames ts
  | _ :: ts => variableNames ts

theorem variableNames_append {ts us : List Token} (apart : us.head? ≠ some .opening)
    : variableNames (ts ++ us) = variableNames ts ++ variableNames us := by
  induction ts with
  | nil => rfl
  | cons t ts ih =>
      cases t with
      | name text =>
          have next : (ts ++ us).head? = some .opening ↔ ts.head? = some .opening := by
            cases ts with
            | nil => simpa using apart
            | cons => rfl
          simp only [List.cons_append, variableNames, next, ih]
          split <;> rfl
      | _ => exact ih

/-- The word of an operator is no name, so that the names around it stand as they are. -/
theorem variableNames_join {ts us : List Token} (op : BinaryOp)
    : variableNames (ts ++ op.token :: us) = variableNames ts ++ variableNames us := by
  rw [variableNames_append (by cases op <;> simp [BinaryOp.token])]
  cases op <;> rfl

theorem variableNames_intercalate (groups : List (List Token))
    : variableNames ([comma].intercalate groups) = groups.flatMap variableNames := by
  induction groups with
  | nil => rfl
  | cons first more ih =>
      cases more with
      | nil => simp
      | cons next more =>
          have behind (us : List Token) : variableNames (comma :: us) = variableNames us := rfl
          rw [List.intercalate_cons_cons, List.append_assoc, List.singleton_append,
            variableNames_append (by simp), behind, ih]
          rfl

end Token

theorem freeNamesIn_eq (es : List Expr) : Expr.freeNamesIn es = es.flatMap freeNames := by
  induction es with
  | nil => rfl
  | cons first more ih => rw [freeNamesIn, ih, List.flatMap_cons]

/-- The variables of an expression stand in its text from left to right. By induction on the
derivation.
-/
theorem Writes.variableNames_eq {level : Level} {ts : List Token} {e : Expr}
    (writes : Writes level ts e)
    : Token.variableNames ts = e.freeNames := by
  induction writes with
  | number value => rfl
  | name text => rfl
  | @call callee function given named each ih =>
      have inside : ∀ argument ∈ given,
          Token.variableNames argument.1 = argument.2.freeNames := ih
      have call : Token.variableNames
          (.name callee :: .opening :: [Token.comma].intercalate (given.map Prod.fst)
            ++ [.closing])
          = Token.variableNames ([Token.comma].intercalate (given.map Prod.fst) ++ [.closing]) :=
        rfl
      rw [call, Token.variableNames_append (by simp), Token.variableNames_intercalate, freeNames,
        freeNamesIn_eq, List.flatMap_map, List.flatMap_map, List.flatMap_congr inside]
      exact List.append_nil _
  | @grouped ts e inner ih =>
      have brackets : Token.variableNames (.opening :: ts ++ [.closing])
          = Token.variableNames (ts ++ [.closing]) := rfl
      rw [brackets, Token.variableNames_append (by simp), ih]
      exact List.append_nil _
  | base bare ih => exact ih
  | raised first second ih ih' =>
      exact (Token.variableNames_join .pow).trans (by rw [ih, ih', freeNames])
  | unsigned bare ih => exact ih
  | signed op behind ih => cases op <;> exact ih
  | factor only ih => exact ih
  | multiplied binds first second ih ih' => rw [Token.variableNames_join, ih, ih', freeNames]
  | summand only ih => exact ih
  | added binds first second ih ih' => rw [Token.variableNames_join, ih, ih', freeNames]

/-- A text that compiles either names a variable without value, and then the leftmost one is
reported, or it has a finite value, or its value is reported not to be finite; there are no other
errors. For in a call no function misses an argument that it takes by its place.
-/
theorem eval_outcome_of_compile {source : Text} {e : Expr} (accepted : compile source = .ok e)
    (scope : Scope)
    : ∃ words, Token.readAll? source = some words
      ∧ Token.Spelled words source
      ∧ (match (Token.variableNames words).find? fun name => ¬ scope.Resolves name with
        | some name => e.eval scope = .error (.undefinedVariable name)
        | none =>
            (∃ value, value.isFinite = true ∧ e.eval scope = .ok value)
              ∨ e.eval scope = .error .nonFinite)
      ∧ e.RespectsArities
      ∧ ∀ (function : Function) args, function.arity.admits args.length = true →
          ∃ value, function.ofPlaces? args = some value := by
  obtain ⟨respects, words, spelled, writes⟩ := compile_eq_ok_iff.mp accepted
  have read := (Token.readAll?_eq_some_iff writes.neat.chain).mpr spelled
  refine ⟨words, read, spelled, ?_, respects, fun function args => function.exists_ofPlaces?⟩
  have reports := reportsFirst_value scope e respects
  rw [writes.variableNames_eq, ← List.head?_filter]
  rw [unresolved] at reports
  cases others : e.freeNames.filter fun name => ¬ scope.Resolves name with
  | cons name more =>
      rw [others] at reports
      have failed : e.value scope = .error (.undefinedVariable name) := reports
      exact (by rw [eval, failed]; rfl : e.eval scope = .error (.undefinedVariable name))
  | nil =>
      rw [others] at reports
      obtain ⟨value, valued⟩ := reports
      by_cases finite : value.isFinite = true
      · exact .inl ⟨value, finite, by rw [eval, valued]; exact if_pos finite⟩
      · exact .inr (by rw [eval, valued]; exact if_neg finite)

/-- Of four variables two have no value: the one that is reported stands first in the text, though
it stands in an argument of a call.
-/
theorem eval_outcome_of_compile_of_call
    : let source := "max(x, b*c) + d^Math.PI".toList
      let scope : Scope := { locals := [("x", 2)], bindings := .insert ∅ "b" 1 }
      ∃ e, compile source = .ok e
        ∧ (Token.readAll? source).map Token.variableNames = some ["x", "b", "c", "d", "PI"]
        ∧ e.eval scope = .error (.undefinedVariable "c") := by
  intro source scope
  cases accepted : compile source with
  | error error =>
      have compiles : (compile source).isOk := by decide +kernel
      simp [accepted, Except.isOk, Except.toBool] at compiles
  | ok e =>
      have names : (Token.readAll? source).map Token.variableNames
          = some ["x", "b", "c", "d", "PI"] := by decide +kernel
      obtain ⟨words, read, -, outcome, -⟩ := eval_outcome_of_compile accepted scope
      rw [read, Option.map_some, Option.some.injEq] at names
      have first : (["x", "b", "c", "d", "PI"].find? fun name => ¬ scope.Resolves name)
          = some "c" := by decide +kernel
      rw [names, first] at outcome
      exact ⟨e, rfl, by rw [read, Option.map_some, names], outcome⟩

end Expr

end LatexFigures
