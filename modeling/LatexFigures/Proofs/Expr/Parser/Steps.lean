import LatexFigures.Expr.Term
import LatexFigures.Proofs.Expr.Grammar

/-! The parser, one reader at a time: what a reader makes of what the readers that it calls have
found, and what they must have found if it has succeeded.
-/

namespace LatexFigures.Expr.Term

variable {fuel : Nat} {ts rest : List Token} {term held left right : Term}

-----------------------------------------------------------------------------------------
-- What a reader makes of what was found
-----------------------------------------------------------------------------------------

/-- A name without a parenthesis behind it is an operand. -/
theorem operand_name {text : String} (alone : rest.head? ≠ some .opening)
    : operand (fuel + 1) (.name text :: rest) = some (.name text, rest) := by
  rw [operand.eq_4]
  intro ts same
  subst same
  simp at alone

theorem operand_call {callee : String} {given : List Term}
    (read : arguments fuel ts = some (given, rest))
    : operand (fuel + 1) (.name callee :: .opening :: ts)
      = some (.call callee given, rest) := by
  simp only [operand, read, Option.bind_eq_bind, Option.bind_some]
  rfl

theorem operand_grouped (read : sum fuel ts = some (term, .closing :: rest))
    : operand (fuel + 1) (.opening :: ts) = some (term, rest) := by
  simp only [operand, read, Option.bind_eq_bind, Option.bind_some]
  rfl

theorem powered_bare (read : operand fuel ts = some (term, rest))
    (alone : rest.head? ≠ some .power)
    : powered (fuel + 1) ts = some (term, rest) := by
  simp only [powered, read, Option.bind_eq_bind, Option.bind_some]
  split
  · rename_i same
    cases same
    simp at alone
  · rename_i same
    cases same
    rfl

/-- An exponent belongs to the operand in front of it. -/
theorem powered_raised {us : List Token} (base : operand fuel ts = some (left, .power :: us))
    (exponent : signed fuel us = some (right, rest))
    : powered (fuel + 1) ts = some (.binary .pow left right, rest) := by
  simp only [powered, base, exponent, Option.bind_eq_bind, Option.bind_some]
  rfl

theorem signed_sign (op : UnaryOp) (read : signed fuel ts = some (term, rest))
    : signed (fuel + 1) (op.token :: ts) = some (.unary op term, rest) := by
  cases op <;>
    (simp only [UnaryOp.token, signed, read, Option.bind_eq_bind, Option.bind_some]; rfl)

theorem signed_unsigned (plus : ts.head? ≠ some .plus) (minus : ts.head? ≠ some .minus)
    : signed (fuel + 1) ts = powered fuel ts := by
  rw [signed]
  · intro ts same
    subst same
    simp at plus
  · intro ts same
    subst same
    simp at minus

/-- A factor joins the product that is held. -/
theorem productAfter_next {op : BinaryOp} (binds : op ∈ [BinaryOp.mul, .div, .rem])
    (read : signed fuel ts = some (right, rest))
    : productAfter (fuel + 1) left (op.token :: ts)
      = productAfter fuel (.binary op left right) rest := by
  simp only [List.mem_cons, List.not_mem_nil, or_false] at binds
  rcases binds with rfl | rfl | rfl <;>
    simp only [BinaryOp.token, productAfter, read, Option.bind_eq_bind, Option.bind_some]

theorem productAfter_last (times : rest.head? ≠ some .times)
    (dividedBy : rest.head? ≠ some .dividedBy) (modulo : rest.head? ≠ some .modulo)
    : productAfter (fuel + 1) term rest = some (term, rest) := by
  rw [productAfter]
  · intro ts same
    subst same
    simp at times
  · intro ts same
    subst same
    simp at dividedBy
  · intro ts same
    subst same
    simp at modulo

/-- A summand joins the sum that is held. -/
theorem sumAfter_next {op : BinaryOp} (binds : op ∈ [BinaryOp.add, .sub])
    (read : product fuel ts = some (right, rest))
    : sumAfter (fuel + 1) left (op.token :: ts)
      = sumAfter fuel (.binary op left right) rest := by
  simp only [List.mem_cons, List.not_mem_nil, or_false] at binds
  rcases binds with rfl | rfl <;>
    simp only [BinaryOp.token, sumAfter, read, Option.bind_eq_bind, Option.bind_some]

theorem sumAfter_last (plus : rest.head? ≠ some .plus) (minus : rest.head? ≠ some .minus)
    : sumAfter (fuel + 1) term rest = some (term, rest) := by
  rw [sumAfter]
  · intro ts same
    subst same
    simp at plus
  · intro ts same
    subst same
    simp at minus

-----------------------------------------------------------------------------------------
-- What a reader that succeeds has found
-----------------------------------------------------------------------------------------

theorem sumAfter_cases (read : sumAfter (fuel + 1) held ts = some (term, rest))
    : (∃ op behind right after, op ∈ [BinaryOp.add, .sub]
        ∧ ts = op.token :: behind
        ∧ product fuel behind = some (right, after)
        ∧ sumAfter fuel (.binary op held right) after = some (term, rest))
      ∨ held = term ∧ ts = rest := by
  unfold sumAfter at read
  split at read
  · contradiction
  · rename_i same
    cases same
    obtain ⟨⟨right, after⟩, operand, loop⟩ := Option.bind_eq_some_iff.mp read
    exact .inl ⟨.add, _, right, after, by simp, rfl, operand, loop⟩
  · rename_i same
    cases same
    obtain ⟨⟨right, after⟩, operand, loop⟩ := Option.bind_eq_some_iff.mp read
    exact .inl ⟨.sub, _, right, after, by simp, rfl, operand, loop⟩
  · cases read
    exact .inr ⟨rfl, rfl⟩

theorem productAfter_cases (read : productAfter (fuel + 1) held ts = some (term, rest))
    : (∃ op behind right after, op ∈ [BinaryOp.mul, .div, .rem]
        ∧ ts = op.token :: behind
        ∧ signed fuel behind = some (right, after)
        ∧ productAfter fuel (.binary op held right) after = some (term, rest))
      ∨ held = term ∧ ts = rest := by
  unfold productAfter at read
  split at read
  · contradiction
  · rename_i same
    cases same
    obtain ⟨⟨right, after⟩, operand, loop⟩ := Option.bind_eq_some_iff.mp read
    exact .inl ⟨.mul, _, right, after, by simp, rfl, operand, loop⟩
  · rename_i same
    cases same
    obtain ⟨⟨right, after⟩, operand, loop⟩ := Option.bind_eq_some_iff.mp read
    exact .inl ⟨.div, _, right, after, by simp, rfl, operand, loop⟩
  · rename_i same
    cases same
    obtain ⟨⟨right, after⟩, operand, loop⟩ := Option.bind_eq_some_iff.mp read
    exact .inl ⟨.rem, _, right, after, by simp, rfl, operand, loop⟩
  · cases read
    exact .inr ⟨rfl, rfl⟩

theorem signed_cases (read : signed (fuel + 1) ts = some (term, rest))
    : (∃ op behind inner, ts = UnaryOp.token op :: behind
        ∧ signed fuel behind = some (inner, rest)
        ∧ term = .unary op inner)
      ∨ powered fuel ts = some (term, rest) := by
  unfold signed at read
  split at read
  · contradiction
  · rename_i same
    cases same
    obtain ⟨⟨inner, behind⟩, operand, done⟩ := Option.bind_eq_some_iff.mp read
    cases done
    exact .inl ⟨.pos, _, inner, rfl, operand, rfl⟩
  · rename_i same
    cases same
    obtain ⟨⟨inner, behind⟩, operand, done⟩ := Option.bind_eq_some_iff.mp read
    cases done
    exact .inl ⟨.neg, _, inner, rfl, operand, rfl⟩
  · rename_i same _ _
    cases same
    exact .inr read

theorem powered_cases (read : powered (fuel + 1) ts = some (term, rest))
    : (∃ base behind exponent, operand fuel ts = some (base, .power :: behind)
        ∧ signed fuel behind = some (exponent, rest)
        ∧ term = .binary .pow base exponent)
      ∨ operand fuel ts = some (term, rest) := by
  obtain ⟨⟨base, behind⟩, first, next⟩ := Option.bind_eq_some_iff.mp read
  split at next
  · rename_i same
    cases same
    obtain ⟨⟨exponent, after⟩, second, done⟩ := Option.bind_eq_some_iff.mp next
    cases done
    exact .inl ⟨base, _, exponent, first, second, rfl⟩
  · rename_i same
    cases same
    cases next
    exact .inr first

theorem operand_cases (read : operand (fuel + 1) ts = some (term, rest))
    : (∃ value, ts = .number value :: rest ∧ term = .number value)
      ∨ (∃ text, ts = .name text :: rest ∧ term = .name text)
      ∨ (∃ callee behind given, ts = .name callee :: .opening :: behind
          ∧ arguments fuel behind = some (given, rest)
          ∧ term = .call callee given)
      ∨ ∃ behind, ts = .opening :: behind ∧ sum fuel behind = some (term, .closing :: rest) := by
  unfold operand at read
  split at read
  · contradiction
  · cases read
    exact .inl ⟨_, rfl, rfl⟩
  · rename_i same
    cases same
    obtain ⟨⟨given, behind⟩, inside, done⟩ := Option.bind_eq_some_iff.mp read
    cases done
    exact .inr (.inr (.inl ⟨_, _, given, rfl, inside, rfl⟩))
  · cases read
    exact .inr (.inl ⟨_, rfl, rfl⟩)
  · rename_i same
    cases same
    obtain ⟨⟨inner, behind⟩, inside, done⟩ := Option.bind_eq_some_iff.mp read
    split at done
    · rename_i closed
      cases closed
      cases done
      exact .inr (.inr (.inr ⟨_, rfl, inside⟩))
    · contradiction
  · contradiction

theorem arguments_cases {given : List Term}
    (read : arguments (fuel + 1) ts = some (given, rest))
    : ts = .closing :: rest ∧ given = []
      ∨ ∃ first more behind, sum fuel ts = some (first, behind)
        ∧ argumentsAfter fuel behind = some (more, rest)
        ∧ given = first :: more := by
  unfold arguments at read
  split at read
  · contradiction
  · cases read
    exact .inl ⟨rfl, rfl⟩
  · rename_i same _
    cases same
    obtain ⟨⟨first, behind⟩, head, next⟩ := Option.bind_eq_some_iff.mp read
    obtain ⟨⟨more, after⟩, tail, done⟩ := Option.bind_eq_some_iff.mp next
    cases done
    exact .inr ⟨first, more, behind, head, tail, rfl⟩

theorem argumentsAfter_cases {given : List Term}
    (read : argumentsAfter (fuel + 1) ts = some (given, rest))
    : ts = .closing :: rest ∧ given = []
      ∨ ∃ behind first more after, ts = .comma :: behind
        ∧ sum fuel behind = some (first, after)
        ∧ argumentsAfter fuel after = some (more, rest)
        ∧ given = first :: more := by
  unfold argumentsAfter at read
  split at read
  · contradiction
  · cases read
    exact .inl ⟨rfl, rfl⟩
  · rename_i same
    cases same
    obtain ⟨⟨first, behind⟩, head, next⟩ := Option.bind_eq_some_iff.mp read
    obtain ⟨⟨more, after⟩, tail, done⟩ := Option.bind_eq_some_iff.mp next
    cases done
    exact .inr ⟨_, first, more, behind, rfl, head, tail, rfl⟩
  · contradiction

end LatexFigures.Expr.Term
