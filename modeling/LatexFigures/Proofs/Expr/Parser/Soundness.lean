import LatexFigures.Proofs.Expr.Parser.Completeness

/-! The parser finds no other trees than those that the grammar gives: the words that a reader has
used up form the term that it returns.
-/

namespace LatexFigures.Expr

namespace Term

mutual

/-- A sum that is read is one of the grammar. Here and below by induction on the fuel.
-/
theorem sum_forms {fuel : Nat} {ts rest : List Token} {term : Term}
    (read : sum fuel ts = some (term, rest))
    : ∃ used, ts = used ++ rest ∧ Forms .sum used term := by
  cases fuel with
  | zero => simp [sum] at read
  | succ fuel =>
      obtain ⟨⟨first, behind⟩, head, loop⟩ := Option.bind_eq_some_iff.mp read
      obtain ⟨before, rfl, forms⟩ := product_forms head
      obtain ⟨more, rfl, whole⟩ := sumAfter_forms (.summand forms) loop
      exact ⟨before ++ more, (List.append_assoc ..).symm, whole⟩

/-- The loop of a sum adds words behind those of the term that it holds. -/
theorem sumAfter_forms {fuel : Nat} {before ts rest : List Token} {held term : Term}
    (forms : Forms .sum before held)
    (read : sumAfter fuel held ts = some (term, rest))
    : ∃ used, ts = used ++ rest ∧ Forms .sum (before ++ used) term := by
  cases fuel with
  | zero => simp [sumAfter] at read
  | succ fuel =>
      rcases sumAfter_cases read with ⟨op, _, right, _, binds, rfl, second, loop⟩ | ⟨rfl, rfl⟩
      · obtain ⟨us, rfl, operand⟩ := product_forms second
        obtain ⟨more, rfl, whole⟩ := sumAfter_forms (.added binds forms operand) loop
        refine ⟨op.token :: us ++ more, by simp, ?_⟩
        rwa [← List.append_assoc]
      · exact ⟨[], rfl, by rwa [List.append_nil]⟩

theorem product_forms {fuel : Nat} {ts rest : List Token} {term : Term}
    (read : product fuel ts = some (term, rest))
    : ∃ used, ts = used ++ rest ∧ Forms .product used term := by
  cases fuel with
  | zero => simp [product] at read
  | succ fuel =>
      obtain ⟨⟨first, behind⟩, head, loop⟩ := Option.bind_eq_some_iff.mp read
      obtain ⟨before, rfl, forms⟩ := signed_forms head
      obtain ⟨more, rfl, whole⟩ := productAfter_forms (.factor forms) loop
      exact ⟨before ++ more, (List.append_assoc ..).symm, whole⟩

theorem productAfter_forms {fuel : Nat} {before ts rest : List Token} {held term : Term}
    (forms : Forms .product before held)
    (read : productAfter fuel held ts = some (term, rest))
    : ∃ used, ts = used ++ rest ∧ Forms .product (before ++ used) term := by
  cases fuel with
  | zero => simp [productAfter] at read
  | succ fuel =>
      rcases productAfter_cases read
        with ⟨op, _, right, _, binds, rfl, second, loop⟩ | ⟨rfl, rfl⟩
      · obtain ⟨us, rfl, operand⟩ := signed_forms second
        obtain ⟨more, rfl, whole⟩ := productAfter_forms (.multiplied binds forms operand) loop
        refine ⟨op.token :: us ++ more, by simp, ?_⟩
        rwa [← List.append_assoc]
      · exact ⟨[], rfl, by rwa [List.append_nil]⟩

theorem signed_forms {fuel : Nat} {ts rest : List Token} {term : Term}
    (read : signed fuel ts = some (term, rest))
    : ∃ used, ts = used ++ rest ∧ Forms .signed used term := by
  cases fuel with
  | zero => simp [signed] at read
  | succ fuel =>
      rcases signed_cases read with ⟨op, _, inner, rfl, behind, rfl⟩ | bare
      · obtain ⟨us, rfl, forms⟩ := signed_forms behind
        exact ⟨op.token :: us, rfl, .signed op forms⟩
      · obtain ⟨us, rfl, forms⟩ := powered_forms bare
        exact ⟨us, rfl, .unsigned forms⟩

theorem powered_forms {fuel : Nat} {ts rest : List Token} {term : Term}
    (read : powered fuel ts = some (term, rest))
    : ∃ used, ts = used ++ rest ∧ Forms .power used term := by
  cases fuel with
  | zero => simp [powered] at read
  | succ fuel =>
      rcases powered_cases read with ⟨base, _, exponent, first, second, rfl⟩ | bare
      · obtain ⟨us, rfl, below⟩ := operand_forms first
        obtain ⟨vs, rfl, above⟩ := signed_forms second
        exact ⟨us ++ .power :: vs, by simp, .raised below above⟩
      · obtain ⟨us, rfl, forms⟩ := operand_forms bare
        exact ⟨us, rfl, .base forms⟩

theorem operand_forms {fuel : Nat} {ts rest : List Token} {term : Term}
    (read : operand fuel ts = some (term, rest))
    : ∃ used, ts = used ++ rest ∧ Forms .operand used term := by
  cases fuel with
  | zero => simp [operand] at read
  | succ fuel =>
      rcases operand_cases read with ⟨value, rfl, rfl⟩ | ⟨text, rfl, rfl⟩
        | ⟨callee, _, _, rfl, inside, rfl⟩ | ⟨_, rfl, inside⟩
      · exact ⟨[.number value], rfl, .number value⟩
      · exact ⟨[.name text], rfl, .name text⟩
      · obtain ⟨given, rfl, rfl, each⟩ := arguments_forms inside
        exact ⟨_, by simp, .call callee given each⟩
      · obtain ⟨us, rfl, forms⟩ := sum_forms inside
        exact ⟨.opening :: us ++ [.closing], by simp, .grouped forms⟩

/-- Arguments that are read are sums of the grammar between commas. -/
theorem arguments_forms {fuel : Nat} {ts rest : List Token} {terms : List Term}
    (read : arguments fuel ts = some (terms, rest))
    : ∃ given : List (List Token × Term),
        ts = [Token.comma].intercalate (given.map Prod.fst) ++ .closing :: rest
        ∧ given.map Prod.snd = terms
        ∧ ∀ argument ∈ given, Forms .sum argument.1 argument.2 := by
  cases fuel with
  | zero => simp [arguments] at read
  | succ fuel =>
      rcases arguments_cases read with ⟨rfl, rfl⟩ | ⟨first, more, _, head, tail, rfl⟩
      · exact ⟨[], rfl, rfl, by simp⟩
      · obtain ⟨us, rfl, forms⟩ := sum_forms head
        obtain ⟨given, rfl, rfl, each⟩ := argumentsAfter_forms tail
        refine ⟨(us, first) :: given, ?_, rfl, ?_⟩
        · simp [intercalate_mark, List.flatMap_map]
        · simpa using And.intro forms (by simpa using each)

theorem argumentsAfter_forms {fuel : Nat} {ts rest : List Token} {terms : List Term}
    (read : argumentsAfter fuel ts = some (terms, rest))
    : ∃ given : List (List Token × Term),
        ts = given.flatMap (.comma :: ·.1) ++ .closing :: rest
        ∧ given.map Prod.snd = terms
        ∧ ∀ argument ∈ given, Forms .sum argument.1 argument.2 := by
  cases fuel with
  | zero => simp [argumentsAfter] at read
  | succ fuel =>
      rcases argumentsAfter_cases read
        with ⟨rfl, rfl⟩ | ⟨_, first, more, _, rfl, head, tail, rfl⟩
      · exact ⟨[], rfl, rfl, by simp⟩
      · obtain ⟨us, rfl, forms⟩ := sum_forms head
        obtain ⟨given, rfl, rfl, each⟩ := argumentsAfter_forms tail
        refine ⟨(us, first) :: given, by simp, rfl, ?_⟩
        simpa using And.intro forms (by simpa using each)

end

end Term

/-- Words are read as the terms that they form. -/
theorem ofTokens?_eq_some_iff {ts : List Token} {term : Term}
    : Term.ofTokens? ts = some term ↔ Forms .sum ts term := by
  constructor
  · intro read
    unfold Term.ofTokens? at read
    split at read
    · rename_i whole
      cases read
      obtain ⟨used, rfl, forms⟩ := Term.sum_forms whole
      rwa [List.append_nil]
    · contradiction
  · exact Forms.ofTokens?

end LatexFigures.Expr
