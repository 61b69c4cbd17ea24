import LatexFigures.Proofs.Expr.Marks
import LatexFigures.Proofs.Number.Finite

/-! Two readers of numbers. A literal of a finite number is read directly, any other text is
compiled. The literals are the decimals of expressions behind at most one sign, so that the readers
agree on every text that both of them read: the direct one changes the value of no expression. It
reads more texts only because it takes more characters for blanks.
-/

namespace LatexFigures.Expr

open Number

namespace Token

-----------------------------------------------------------------------------------------
-- Literals are decimals
-----------------------------------------------------------------------------------------

theorem isExponent_of_exponent? {s : Text} {places : Int}
    (read : Literal.exponent? s = some places)
    : IsExponent s := by
  cases s with
  | nil => exact .absent
  | cons mark rest =>
      obtain ⟨sign, digits, rfl, signed, signless⟩ := exists_sign rest
      simp only [Literal.exponent?, splitSign_append signed signless] at read
      split at read
      · rename_i counts
        simp only [Bool.and_eq_true, Bool.or_eq_true, beq_iff_eq, Bool.not_eq_true',
          List.isEmpty_eq_false_iff, List.all_eq_true] at counts
        obtain ⟨⟨marked, nonempty⟩, all⟩ := counts
        exact .present marked signed all nonempty
      · contradiction

/-- The names of infinity and of not a number aside, a literal without sign is a decimal. -/
theorem isDecimal_of_magnitude? {s : Text} {value : Float}
    (read : Literal.magnitude? s = some value) (finite : value.isFinite = true)
    : IsDecimal s := by
  have all : IsDigits (s.takeWhile Char.isDigit) := fun c => Text.of_mem_takeWhile
  have whole := List.takeWhile_append_dropWhile (p := Char.isDigit) (l := s)
  unfold Literal.magnitude? at read
  split at read
  -- the three names stand for no finite number
  iterate 3
    cases read
    exact absurd finite (by decide)
  dsimp only at read
  split at read
  · rename_i behind point
    obtain ⟨least, read⟩ := Option.ite_none_left_eq_some.mp read
    obtain ⟨places, power, -⟩ := Option.map_eq_some_iff.mp read
    have all' : IsDigits (behind.takeWhile Char.isDigit) := fun c => Text.of_mem_takeWhile
    refine ⟨_, _, .pointed all all' ?_, isExponent_of_exponent? power, ?_⟩
    · simpa only [Bool.and_eq_true, List.isEmpty_iff, not_and_or] using least
    · rw [List.append_assoc, List.cons_append, List.takeWhile_append_dropWhile, ← point, whole]
  · obtain ⟨least, read⟩ := Option.ite_none_left_eq_some.mp read
    obtain ⟨places, power, -⟩ := Option.map_eq_some_iff.mp read
    have nonempty : s.takeWhile Char.isDigit ≠ [] := fun none => least (by simp [none])
    exact ⟨_, _, .whole all nonempty, isExponent_of_exponent? power, whole.symm⟩

/-- A literal of a finite number holds the characters of words alone, but for signs. -/
theorem mem_of_finite? {s : Text} {value : Float} (literal : Literal.finite? s = some value)
    : ∀ c ∈ s, IsWordChar c ∨ c = '+' ∨ c = '-' := by
  obtain ⟨literal, finite⟩ := Option.filter_eq_some_iff.mp literal
  obtain ⟨sign, digits, rfl, signed, signless⟩ := exists_sign s
  simp only [Literal.read?, splitSign_append signed signless] at literal
  obtain ⟨magnitude, read, rfl⟩ := Option.map_eq_some_iff.mp literal
  rw [isFinite_signed] at finite
  intro c inside
  rcases List.mem_append.mp inside with inSign | inDigits
  · simp only [List.mem_cons, List.not_mem_nil, or_false] at signed
    rcases signed with rfl | rfl | rfl <;> simp_all
  · exact (isDecimal_of_magnitude? read finite).mem c inDigits

end Token

-----------------------------------------------------------------------------------------
-- Literals are expressions
-----------------------------------------------------------------------------------------

variable {s : Text} {value : Float}

/-- A literal of a finite number renders that number, behind its sign. -/
theorem exists_renders_of_finite? (literal : Literal.finite? s = some value)
    : ∃ e, Renders s e ∧ e.RespectsArities ∧ ∀ scope, e.value scope = .ok value := by
  obtain ⟨literal, finite⟩ := Option.filter_eq_some_iff.mp literal
  obtain ⟨sign, digits, rfl, signed, signless⟩ := Token.exists_sign s
  simp only [Literal.read?, Token.splitSign_append signed signless] at literal
  obtain ⟨magnitude, read, rfl⟩ := Option.map_eq_some_iff.mp literal
  rw [isFinite_signed] at finite
  have decimal := Token.isDecimal_of_magnitude? read finite
  have number : Token.Spells (.number magnitude) digits :=
    .number decimal (decimal.read?_eq.trans read)
  have writes : Writes .signed [.number magnitude] (.number magnitude) :=
    .unsigned (.base (.number magnitude))
  have behind (op : UnaryOp)
      : Writes .sum [op.token, .number magnitude] (.unary op (.number magnitude)) :=
    .summand (.factor (.signed op writes))
  simp only [List.mem_cons, List.not_mem_nil, or_false] at signed
  rcases signed with rfl | rfl | rfl
  · exact ⟨_, ⟨_, number.spelled, .summand (.factor writes)⟩, trivial, fun _ => rfl⟩
  · exact ⟨_, ⟨_, .cons .plus number.spelled, behind .pos⟩, trivial, fun _ => rfl⟩
  · exact ⟨_, ⟨_, .cons .minus number.spelled, behind .neg⟩, trivial, fun _ => rfl⟩

/-- A literal of a finite number compiles, and in no scope does its expression have another value.
-/
theorem exists_compile_of_finite? (literal : Literal.finite? s = some value)
    : ∃ e, compile s = .ok e ∧ ∀ scope, e.eval scope = .ok value := by
  obtain ⟨e, renders, arities, valued⟩ := exists_renders_of_finite? literal
  have finite : value.isFinite = true := (Option.filter_eq_some_iff.mp literal).2
  refine ⟨e, compile_eq_ok_iff.mpr ⟨arities, renders⟩, fun scope => ?_⟩
  rw [eval, valued scope]
  exact if_pos finite

/-- Reading literals directly does not change the value of an expression. -/
theorem evaluate_eq_eval {e : Expr} (accepted : compile s = .ok e) (scope : Scope)
    : evaluate s scope = e.eval scope := by
  unfold evaluate
  split
  · rename_i value literal
    obtain ⟨e', accepted', valued⟩ := exists_compile_of_finite? literal
    cases (compile_trim accepted).symm.trans accepted'
    exact (valued scope).symm
  · rw [accepted]
    rfl

theorem evaluate_of_compile_error {error : EvalError} (rejected : compile s = .error error)
    (scope : Scope)
    : evaluate s scope = (Literal.finite? s.trim).elim (.error error) .ok := by
  unfold evaluate
  split
  · rename_i value literal
    rw [literal]
    rfl
  · rename_i other
    rw [rejected, other]
    rfl

theorem evaluateOr_of_finite? (literal : Literal.finite? s.trim = some value) (fallback : Float)
    (scope : Scope)
    : evaluateOr fallback s scope = value := by
  simp only [evaluateOr, evaluate, literal]

/-- Reading literals of finite numbers directly changes no value and no error of a text that
compiles, whatever the names of the scope mean. Of other texts such literals alone have a value,
and the error of any others is that of their compilation.
-/
theorem evaluate_eq_of_compile (source : Text) (scope : Scope)
    : (∀ e, compile source = .ok e → evaluate source scope = e.eval scope)
      ∧ ∀ error, compile source = .error error →
          evaluate source scope
            = (Literal.finite? source.trim).elim (.error error) .ok := by
  constructor
  · intro e accepted
    exact evaluate_eq_eval accepted scope
  · intro error rejected
    exact evaluate_of_compile_error rejected scope

-----------------------------------------------------------------------------------------
-- Literals that are no expressions
-----------------------------------------------------------------------------------------

theorem Token.Spelled.isSpacing_of_isBlank {ts : List Token} (spelled : Spelled ts s)
    : ∀ c ∈ s, Text.isBlank c = true → isSpacing c = true := by
  induction spelled with
  | last spacing => exact fun c inside _ => spacing c inside
  | next spacing spells more ih =>
      intro c inside blank
      simp only [List.mem_append, or_assoc] at inside
      rcases inside with between | inWord | later
      · exact spacing c between
      · exact absurd inWord (spells.not_mem_of_isBlank (.inl blank))
      · exact ih c later blank

/-- Around an expression any blanks may stand that may stand between its words. -/
theorem compile_of_trim {e : Expr} (accepted : compile s.trim = .ok e)
    (spacing : ∀ c ∈ s, Text.isBlank c = true → Token.isSpacing c = true)
    : compile s = .ok e := by
  obtain ⟨arities, ts, spelled, writes⟩ := compile_eq_ok_iff.mp accepted
  obtain ⟨front, back, whole, blank, blank'⟩ := s.exists_append_trim_eq
  have spacing' : ∀ c ∈ front ++ back, Token.isSpacing c = true := by
    intro c outside
    refine spacing c ?_ ((List.mem_append.mp outside).elim (blank c) (blank' c))
    rw [whole]
    simp only [List.mem_append] at outside ⊢
    exact outside.imp_left .inl
  have around : Token.Spelled (ts ++ []) (front ++ s.trim ++ back) := by
    refine .append (spelled.blanks fun c inside => ?_) (.last fun c inside => ?_)
    · exact spacing' c (List.mem_append_left back inside)
    · exact spacing' c (List.mem_append_right front inside)
  rw [List.append_nil, ← whole] at around
  exact compile_eq_ok_iff.mpr ⟨arities, ts, around, writes⟩

/-- A literal of a finite number among blanks of which one may not stand between the words of an
expression, such as a no-break space.
-/
def IsForeignLiteral (s : Text) : Prop :=
  (Literal.finite? s.trim).isSome = true
  ∧ ∃ c ∈ s, Text.isBlank c = true ∧ Token.isSpacing c = false

instance (s : Text) : Decidable (IsForeignLiteral s) := inferInstanceAs (Decidable (_ ∧ _))

/-- These literals are all that is read directly and does not compile. -/
theorem isForeignLiteral_iff
    : IsForeignLiteral s
      ↔ (Literal.finite? s.trim).isSome = true ∧ ∃ error, compile s = .error error := by
  refine and_congr_right fun literal => ?_
  obtain ⟨value, literal⟩ := Option.isSome_iff_exists.mp literal
  obtain ⟨e, accepted, -⟩ := exists_compile_of_finite? literal
  constructor
  · intro ⟨c, inside, blank, foreign⟩
    cases compiled : compile s with
    | error error => exact ⟨error, rfl⟩
    | ok e =>
        obtain ⟨-, ts, spelled, -⟩ := compile_eq_ok_iff.mp compiled
        exact absurd (spelled.isSpacing_of_isBlank c inside blank) (by simp [foreign])
  · intro ⟨error, rejected⟩
    by_contra none
    refine absurd (compile_of_trim accepted fun c inside blank => ?_) (by simp [rejected])
    by_contra foreign
    exact none ⟨c, inside, blank, by simpa using foreign⟩

end LatexFigures.Expr
