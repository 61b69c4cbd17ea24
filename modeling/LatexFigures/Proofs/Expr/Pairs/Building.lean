import LatexFigures.Proofs.Expr.Pairs.Derivation

/-! What is built of the pairs that the grammar reads. Their words form a term, and the builder
gives the expression of this term, so that it never meets an error of its own.
-/

namespace LatexFigures.Expr

variable {level : Level} {text word : Text} {pair : Pair}

-----------------------------------------------------------------------------------------
-- Names, numbers and operators
-----------------------------------------------------------------------------------------

theorem pathless_of_isIdentifier {name : Text} (identifier : Token.IsIdentifier name)
    : pathless name = String.ofList name
      ∧ pathless (Token.path ++ name) = String.ofList name := by
  have ends : Token.EndsWord [] := by simp [Token.EndsWord]
  have plain := Token.not_path identifier ends
  rw [List.append_nil] at plain
  constructor
  · rw [pathless, plain, Option.getD_none]
  · rw [pathless, Text.after?_eq_some_iff.mpr rfl, Option.getD_some]

/-- Behind the path that a name may have in front there is an identifier. -/
theorem IsName.pathless_eq (name : IsName word)
    : Token.IsIdentifier (pathless word).toList
      ∧ (word = (pathless word).toList ∨ word = Token.path ++ (pathless word).toList) := by
  rcases name with identifier | ⟨name, rfl, identifier⟩
  · rw [(pathless_of_isIdentifier identifier).1, String.toList_ofList]
    exact ⟨identifier, .inl rfl⟩
  · rw [(pathless_of_isIdentifier identifier).2, String.toList_ofList]
    exact ⟨identifier, .inr rfl⟩

theorem IsName.spells (name : IsName word) : (Token.name (pathless word)).Spells word := by
  obtain ⟨identifier, plain | behind⟩ := name.pathless_eq
  · have spells := Token.Spells.name identifier
    rwa [← plain] at spells
  · have spells := Token.Spells.path identifier
    rwa [← behind] at spells

/-- In sums and products the builder knows all operators of the grammar, and they join terms. -/
theorem Level.exists_operator? (loose : level = .sum ∨ level = .product)
    (known : word ∈ level.operators)
    : ∃ op : BinaryOp, level.operator? word = some op
      ∧ op.token.Spells word
      ∧ ∀ {ts us left right}, Forms level ts left → Forms level.tighter us right
          → Forms level (ts ++ op.token :: us) (.binary op left right) := by
  rcases loose with rfl | rfl
  · simp only [Level.operators, List.mem_cons, List.not_mem_nil, or_false] at known
    rcases known with rfl | rfl
    · exact ⟨.add, rfl, .plus, .added (by simp)⟩
    · exact ⟨.sub, rfl, .minus, .added (by simp)⟩
  · simp only [Level.operators, List.mem_cons, List.not_mem_nil, or_false] at known
    rcases known with rfl | rfl | rfl
    · exact ⟨.mul, rfl, .times, .multiplied (by simp)⟩
    · exact ⟨.div, rfl, .dividedBy, .multiplied (by simp)⟩
    · exact ⟨.rem, rfl, .modulo, .multiplied (by simp)⟩

theorem Forms.only {ts : List Token} {term : Term} (loose : level = .sum ∨ level = .product)
    (forms : Forms level.tighter ts term)
    : Forms level ts term := by
  rcases loose with rfl | rfl
  · exact .summand forms
  · exact .factor forms

/-- The words of a step are its operator and those of its operand. -/
theorem Step.spelled {step : Step level} {token : Token} {ts : List Token}
    (spells : token.Spells step.operator) (spelled : Token.Spelled ts step.operand)
    : Token.Spelled (token :: ts) step.text := by
  have all := Token.Spelled.next step.front_gap spells (spelled.blanks step.middle_gap)
  rwa [Step.text, List.append_assoc]

theorem Padded.spelled {p : Padded} {ts : List Token} (spelled : Token.Spelled ts p.text)
    : Token.Spelled ts p.whole :=
  (spelled.blanks p.front_gap).append_blanks p.back_gap

namespace Pair

-----------------------------------------------------------------------------------------
-- Steps of the builder
-----------------------------------------------------------------------------------------

theorem build_chain (loose : level = .sum ∨ level = .product) {rule : Rule} {more : List Pair}
    : build level ⟨rule, text, pair :: more⟩
      = pair.build level.tighter >>= fun left => chainAfter level text left more := by
  rcases loose with rfl | rfl <;> simp only [build, chain]

theorem chainAfter_step {op : BinaryOp} {step : Step level} {left : Expr} {more : List Pair}
    (known : level.operator? step.operator = some op)
    : chainAfter level text left (step.pairs ++ more)
      = step.pair.build level.tighter
        >>= fun right => chainAfter level text (.binary op left right) more := by
  simp only [Step.pairs, List.cons_append, List.nil_append, chainAfter, known]

theorem build_operand_of_sum (isSum : pair.rule = .sum)
    : pair.build .operand = pair.build .sum := by
  obtain ⟨_, _, _⟩ := pair
  cases isSum
  simp only [build]

/-- Signs wait until the power behind them is built, by induction on them. -/
theorem signed_eq (isPower : pair.rule = .power) (signs : List Sign) (before : List UnaryOp)
    : signed text before none (signs.map Sign.pair ++ [pair])
      = pair.build .power >>= fun e =>
          .ok (before.foldl (fun e op => .unary op e)
            (signs.foldr (fun sign e => .unary sign.op e) e)) := by
  induction signs generalizing before with
  | nil =>
      obtain ⟨_, _, _⟩ := pair
      cases isPower
      simp only [List.map_nil, List.nil_append, signed, build, List.foldr_nil]
  | cons sign signs ih =>
      have op : (if sign.op.text = ['-'] then UnaryOp.neg else .pos) = sign.op := by
        cases sign.op <;> rfl
      simp only [List.map_cons, List.cons_append, Sign.pair, signed, op]
      rw [ih]
      rfl

theorem length_of_buildAll {pairs : List Pair} {es : List Expr} (built : buildAll pairs = .ok es)
    : es.length = pairs.length := by
  induction pairs generalizing es with
  | nil =>
      cases built
      rfl
  | cons first more ih =>
      simp only [buildAll, Term.bind_eq_ok_iff] at built
      obtain ⟨e, -, others, rest, done⟩ := built
      cases done
      exact congrArg Nat.succ (ih rest)

end Pair

-----------------------------------------------------------------------------------------
-- What is built
-----------------------------------------------------------------------------------------

/-- The words of the text form a term, and what is built is the expression of it. -/
def Level.Builds (level : Level) (text : Text) (result : Except Failure Expr) : Prop :=
  ∃ ts, ∃ term : Term, Token.Spelled ts text
    ∧ Forms level ts term
    ∧ result = term.resolve.mapError .call

theorem mapError_bind {α β : Type} (first : Except EvalError α) (next : α → Except EvalError β)
    : (first >>= next).mapError Failure.call
      = first.mapError .call >>= fun value => (next value).mapError .call := by
  cases first <;> rfl

namespace Level.Builds

theorem number (decimal : Token.IsDecimal word)
    : operand.Builds word (Pair.build .operand ⟨.number, word, []⟩) := by
  obtain ⟨value, read⟩ := decimal.exists_value
  have spells : Token.Spells (.number value) word := .number decimal read
  refine ⟨_, _, spells.spelled, .number value, ?_⟩
  simp only [Pair.build, read]
  rfl

theorem ident (name : IsName word)
    : operand.Builds word (Pair.build .operand ⟨.ident, word, []⟩) := by
  refine ⟨_, _, name.spells.spelled, .name (pathless word), ?_⟩
  simp only [Pair.build]
  rfl

theorem buildAll_cons {first : Pair} {more : List Pair} {term : Term} {terms : List Term}
    (head : first.build .sum = term.resolve.mapError .call)
    (tail : Pair.buildAll more = (Term.resolveAll terms).mapError .call)
    : Pair.buildAll (first :: more) = (Term.resolveAll (term :: terms)).mapError .call := by
  simp only [Pair.buildAll, Term.resolveAll, head, tail, mapError_bind]
  rfl

/-- Arguments behind commas are built one by one, by induction on them. -/
theorem exists_more {arguments : List Padded}
    (each : ∀ argument ∈ arguments, sum.Builds argument.text (argument.pair.build .sum))
    : ∃ given : List (List Token × Term),
        Token.Spelled (given.flatMap (.comma :: ·.1)) (arguments.flatMap (',' :: ·.whole))
        ∧ (∀ argument ∈ given, Forms .sum argument.1 argument.2)
        ∧ Pair.buildAll (arguments.map Padded.pair)
          = (Term.resolveAll (given.map Prod.snd)).mapError .call := by
  induction arguments with
  | nil => exact ⟨[], .last (by simp), by simp, rfl⟩
  | cons argument more ih =>
      obtain ⟨ts, term, spelled, forms, built⟩ := each argument (by simp)
      obtain ⟨given, texts, all, rest⟩ := ih fun other inside => each other (by simp [inside])
      have comma := Token.Spelled.cons .comma ((Padded.spelled spelled).append texts)
      exact ⟨(ts, term) :: given, comma, List.forall_mem_cons.mpr ⟨forms, all⟩,
        buildAll_cons built rest⟩

theorem exists_arguments {arguments : List Padded}
    (each : ∀ argument ∈ arguments, sum.Builds argument.text (argument.pair.build .sum))
    : ∃ given : List (List Token × Term),
        Token.Spelled ([Token.comma].intercalate (given.map Prod.fst))
          ([','].intercalate (arguments.map Padded.whole))
        ∧ (∀ argument ∈ given, Forms .sum argument.1 argument.2)
        ∧ Pair.buildAll (arguments.map Padded.pair)
          = (Term.resolveAll (given.map Prod.snd)).mapError .call := by
  cases arguments with
  | nil => exact ⟨[], .last (by simp), by simp, rfl⟩
  | cons argument more =>
      obtain ⟨ts, term, spelled, forms, built⟩ := each argument (by simp)
      obtain ⟨given, texts, all, rest⟩ :=
        exists_more fun other inside => each other (List.mem_cons_of_mem _ inside)
      refine ⟨(ts, term) :: given, ?_, List.forall_mem_cons.mpr ⟨forms, all⟩,
        buildAll_cons built rest⟩
      simp only [List.map_cons, intercalate_mark, List.flatMap_map]
      exact (Padded.spelled spelled).append texts

/-- A call is built from what stands between the commas; only its function is looked up before. -/
theorem call {callee gap inside : Text} {arguments : List Padded} (name : IsName callee)
    (gaps : IsGap gap ∧ IsGap inside)
    (each : ∀ argument ∈ arguments, sum.Builds argument.text (argument.pair.build .sum))
    (cut : text = callee ++ gap ++ '(' :: inside
      ++ [','].intercalate (arguments.map Padded.whole) ++ [')'])
    : operand.Builds text (Pair.build .operand
        ⟨.call, text, ⟨.ident, callee, []⟩ :: arguments.map Padded.pair⟩) := by
  obtain ⟨given, spelled, forms, built⟩ := exists_arguments each
  have closing := Token.Spells.closing.spelled
  have opening := Token.Spelled.cons .opening ((spelled.blanks gaps.2).append closing)
  have words := Token.Spelled.cons name.spells (opening.blanks gaps.1)
  refine ⟨_, _, ?_, .call (pathless callee) given forms, ?_⟩
  · simpa [cut] using words
  · simp only [Pair.build, Pair.call, Term.resolve]
    cases Function.named? (pathless callee) with
    | none => rfl
    | some function =>
        simp only [built, mapError_bind]
        cases Term.resolveAll (given.map Prod.snd) with
        | error => rfl
        | ok es =>
            simp only [Except.mapError, bind, Except.bind]
            split <;> rfl

theorem grouped {p : Padded} (isSum : p.pair.rule = .sum)
    (inner : sum.Builds p.text (p.pair.build .sum))
    : operand.Builds ('(' :: p.whole ++ [')']) (p.pair.build .operand) := by
  obtain ⟨ts, term, spelled, forms, built⟩ := inner
  have words := Token.Spelled.cons .opening
    ((Padded.spelled spelled).append Token.Spells.closing.spelled)
  refine ⟨_, term, words, .grouped forms, ?_⟩
  rw [Pair.build_operand_of_sum isSum, built]

theorem base (bare : operand.Builds word (pair.build .operand))
    : power.Builds word (Pair.build .power ⟨.power, text, [pair]⟩) := by
  obtain ⟨ts, term, spelled, forms, built⟩ := bare
  refine ⟨ts, term, spelled, .base forms, ?_⟩
  simp only [Pair.build, Pair.power, built]

theorem raised {step : Step .power} (first : operand.Builds word (pair.build .operand))
    (second : signed.Builds step.operand (step.pair.build .signed))
    : power.Builds (word ++ step.text)
        (Pair.build .power ⟨.power, text, pair :: step.pairs⟩) := by
  obtain ⟨ts, base, spelled, forms, built⟩ := first
  obtain ⟨us, exponent, spelled', forms', built'⟩ := second
  have spells : Token.power.Spells step.operator := by
    have known := step.known
    simp only [Level.operators, List.mem_cons, List.not_mem_nil, or_false] at known
    rcases known with same | same <;> rw [same]
    · exact .stars
    · exact .caret
  refine ⟨_, _, spelled.append (Step.spelled spells spelled'), .raised forms forms', ?_⟩
  simp only [Pair.build, Pair.power, Step.pairs, built, built', Term.resolve, mapError_bind]
  rfl

/-- Signs are taken off the words one by one, by induction on them. -/
theorem signed (isPower : pair.rule = .power) (signs : List Sign)
    (behind : power.Builds word (pair.build .power))
    : signed.Builds (signs.flatMap Sign.text ++ word)
        (Pair.build .signed ⟨.unary, text, signs.map Sign.pair ++ [pair]⟩) := by
  obtain ⟨ts, term, spelled, forms, built⟩ := behind
  simp only [Pair.build, Pair.signed_eq isPower, List.foldl_nil, built]
  induction signs with
  | nil =>
      refine ⟨ts, term, spelled, .unsigned forms, ?_⟩
      cases term.resolve <;> rfl
  | cons sign signs ih =>
      obtain ⟨us, inner, texts, forms, result⟩ := ih
      have words := Token.Spelled.cons sign.op.spells (texts.blanks sign.is_gap)
      refine ⟨_, .unary sign.op inner, by simpa [Sign.text] using words, .signed sign.op forms, ?_⟩
      rw [Term.resolve, mapError_bind, ← result]
      cases term.resolve <;> rfl

/-- The loop of sums and of products goes on from the operands that it holds to the term of all of
them. By induction on the steps.
-/
theorem exists_chained (loose : level = .sum ∨ level = .product) {steps : List (Step level)}
    (each : ∀ step ∈ steps, level.tighter.Builds step.operand (step.pair.build level.tighter))
    {ts : List Token} {left : Term} (spelled : Token.Spelled ts word)
    (forms : Forms level ts left)
    : ∃ us, ∃ term : Term,
        Token.Spelled us (word ++ steps.flatMap Step.text)
        ∧ Forms level us term
        ∧ ∀ text, (left.resolve.mapError Failure.call
            >>= fun e => Pair.chainAfter level text e (steps.flatMap Step.pairs))
          = term.resolve.mapError .call := by
  induction steps generalizing word ts left with
  | nil =>
      refine ⟨ts, left, by simpa using spelled, forms, fun text => ?_⟩
      simp only [List.flatMap_nil, Pair.chainAfter]
      cases left.resolve <;> rfl
  | cons step steps ih =>
      obtain ⟨us, right, spelled', forms', built⟩ := each step (by simp)
      obtain ⟨op, known, spells, join⟩ := level.exists_operator? loose step.known
      obtain ⟨all, term, texts, whole, result⟩ :=
        ih (fun other inside => each other (by simp [inside]))
          (spelled.append (Step.spelled spells spelled')) (join forms forms')
      refine ⟨all, term, by simpa using texts, whole, fun text => ?_⟩
      rw [← result text]
      simp only [List.flatMap_cons, Pair.chainAfter_step known, built, Term.resolve, mapError_bind]
      cases left.resolve <;> cases right.resolve <;> rfl

theorem chain (loose : level = .sum ∨ level = .product) {steps : List (Step level)}
    (head : level.tighter.Builds word (pair.build level.tighter))
    (each : ∀ step ∈ steps, level.tighter.Builds step.operand (step.pair.build level.tighter))
    : level.Builds (word ++ steps.flatMap Step.text)
        (Pair.build level ⟨level.rule, text, pair :: steps.flatMap Step.pairs⟩) := by
  obtain ⟨ts, first, spelled, forms, built⟩ := head
  obtain ⟨us, term, texts, whole, result⟩ := exists_chained loose each spelled (.only loose forms)
  refine ⟨us, term, texts, whole, ?_⟩
  rw [← result text, ← built, Pair.build_chain loose]

end Level.Builds

theorem Derives.rule_eq (reads : Derives level text pair)
    : (level = .sum → pair.rule = .sum) ∧ (level = .power → pair.rule = .power) := by
  cases reads with
  | chain loose => rcases loose with rfl | rfl <;> simp [Level.rule]
  | _ => simp

/-- What the grammar reads is built up to its calls. By induction on the derivation. -/
theorem Derives.builds (reads : Derives level text pair)
    : level.Builds text (pair.build level) := by
  induction reads with
  | number decimal => exact .number decimal
  | ident name => exact .ident name
  | call name gaps arguments each cut ih => exact .call name gaps ih cut
  | grouped inner reads ih => exact .grouped (reads.rule_eq.1 rfl) ih
  | base bare ih => exact .base ih
  | raised step first second cut ih ih' => exact cut ▸ .raised ih ih'
  | signed signs behind cut ih => exact cut ▸ .signed (behind.rule_eq.2 rfl) signs ih
  | chain loose steps head each cut ih ih' => exact cut ▸ .chain loose ih ih'

end LatexFigures.Expr
