import LatexFigures.Proofs.Expr.Grammar
import LatexFigures.Proofs.Expr.Parser.Steps

/-! The parser finds every tree that the grammar gives. For this the grammar's recursion on the
left meets the parser's loops: having read a left operand, the parser is in the state of a loop
that holds it.
-/

namespace LatexFigures.Expr

/-- Begins an operand. -/
def Token.startsOperand : Token → Bool
  | .number _ | .name _ | .opening => true
  | _ => false

namespace Level

/-- The reader of a level. -/
def parse : Level → Nat → List Token → Option (Term × List Token)
  | sum => Term.sum
  | product => Term.product
  | signed => Term.signed
  | power => Term.powered
  | operand => Term.operand

/-- What the reader of a level does when it holds a term; only sums and products go on. -/
def parseAfter : Level → Nat → Term → List Token → Option (Term × List Token)
  | sum => Term.sumAfter
  | product => Term.productAfter
  | _ => fun _ term rest => some (term, rest)

/-- The words that a reader still takes into the last operand that it is given. The loops of
sums and products take more words, but hold a term already when they do.
-/
def takes : Level → Token → Bool
  | operand, t => t == .opening
  | power, t | signed, t | product, t => t == .opening || t == .power
  | sum, t => t == .opening || t == .power || t == .times || t == .dividedBy || t == .modulo

/-- How many readers stand between that of a level and that of operands. -/
def depth : Level → Nat
  | sum => 4
  | product => 3
  | signed => 2
  | power => 1
  | operand => 0

/-- May begin an expression of this level. Signs stand in front of powers, not inside. -/
def starts : Level → Token → Bool
  | .sum, t | .product, t | .signed, t => t.startsOperand || t == .plus || t == .minus
  | .power, t | .operand, t => t.startsOperand

/-- The words begin as an expression of the level does. -/
def Begins (level : Level) (ts : List Token) : Prop :=
  ∃ first more, ts = first :: more ∧ level.starts first = true

/-- Whatever stands behind them, words begin as they do. -/
theorem Begins.append {level : Level} {ts : List Token} (begins : level.Begins ts)
    (us : List Token)
    : level.Begins (ts ++ us) := by
  obtain ⟨first, more, rfl, starts⟩ := begins
  exact ⟨first, more ++ us, rfl, starts⟩

/-- Wherever the reader of the level meets these words, with enough fuel and with nothing behind
them that it would take into their last operand, it comes to hold the term.
-/
structure Parses (level : Level) (ts : List Token) (term : Term) : Prop where
  begins : level.Begins ts
  reads : ∀ fuel rest,
    (∀ t ∈ rest.head?, level.takes t = false)
    → 8 * ts.length + level.depth ≤ fuel
    → ∃ left, fuel ≤ left + ts.length
      ∧ level.parse fuel (ts ++ rest) = level.parseAfter left term rest

namespace Parses

variable {level : Level} {ts us rest : List Token} {term left right : Term} {fuel : Nat}

theorem length_pos (h : level.Parses ts term) : 0 < ts.length := by
  obtain ⟨first, more, rfl, -⟩ := h.begins
  exact Nat.succ_pos _

/-- A word that may begin an expression of the level stands in front. -/
theorem head_ne (h : level.Parses ts term) {t : Token} (other : level.starts t = false)
    : (ts ++ rest).head? ≠ some t := by
  obtain ⟨first, more, rfl, starts⟩ := h.begins
  rintro same
  cases same
  simp [starts] at other

/-- A product is read completely in front of what neither it nor a sum takes. -/
theorem reads_product (h : product.Parses ts term) (fuel : Nat) (rest : List Token)
    (enough : 8 * ts.length + 3 ≤ fuel)
    (ends : ∀ t ∈ rest.head?, sum.takes t = false)
    : Term.product fuel (ts ++ rest) = some (term, rest) := by
  -- what a sum does not take, a product does not take either, so that it comes to its loop
  obtain ⟨left, kept, reads⟩ := h.reads fuel rest
    (by
      intro t next
      have free := ends t next
      simp only [takes, Bool.or_eq_false_iff] at free ⊢
      exact free.1.1.1)
    enough
  obtain ⟨left, rfl⟩ := Nat.exists_eq_add_one_of_ne_zero (by omega : left ≠ 0)
  refine reads.trans (Term.productAfter_last ?_ ?_ ?_) <;>
    (intro next; simp [next, takes] at ends)

/-- A sum is read completely in front of what no reader takes. -/
theorem reads_sum (h : sum.Parses ts term) (fuel : Nat) (rest : List Token)
    (enough : 8 * ts.length + 4 ≤ fuel)
    (ends : ∀ t ∈ rest.head?, t = .closing ∨ t = .comma)
    : Term.sum fuel (ts ++ rest) = some (term, rest) := by
  obtain ⟨left, kept, reads⟩ := h.reads fuel rest
    (by
      intro t next
      rcases ends t next with rfl | rfl <;> rfl)
    enough
  obtain ⟨left, rfl⟩ := Nat.exists_eq_add_one_of_ne_zero (by omega : left ≠ 0)
  refine reads.trans (Term.sumAfter_last ?_ ?_) <;>
    (intro next; simp [next] at ends)

theorem number (value : Float) : operand.Parses [.number value] (.number value) where
  begins := ⟨_, _, rfl, rfl⟩
  reads := by
    intro fuel rest _ enough
    obtain ⟨fuel, rfl⟩ : ∃ less, fuel = less + 1 := ⟨fuel - 1, by simp at enough; omega⟩
    exact ⟨fuel + 1, by omega, rfl⟩

theorem name (text : String) : operand.Parses [.name text] (.name text) where
  begins := ⟨_, _, rfl, rfl⟩
  reads := by
    intro fuel rest ends enough
    obtain ⟨fuel, rfl⟩ : ∃ less, fuel = less + 1 := ⟨fuel - 1, by simp at enough; omega⟩
    refine ⟨fuel + 1, by omega, Term.operand_name ?_⟩
    intro next
    simpa [takes] using ends _ next

theorem grouped (inner : sum.Parses ts term)
    : operand.Parses (.opening :: ts ++ [.closing]) term where
  begins := ⟨_, _, rfl, rfl⟩
  reads := by
    intro fuel rest _ enough
    simp only [List.cons_append, List.length_cons, List.length_append, List.length_nil, depth]
      at enough
    obtain ⟨fuel, rfl⟩ := Nat.exists_eq_add_one_of_ne_zero (by omega : fuel ≠ 0)
    have read : Term.sum fuel (ts ++ .closing :: rest) = some (term, .closing :: rest) :=
      inner.reads_sum _ _ (by omega) (by simp)
    refine ⟨fuel + 1, by omega, ?_⟩
    rw [List.append_assoc]
    exact Term.operand_grouped read

theorem base (bare : operand.Parses ts term) : power.Parses ts term where
  begins := bare.begins
  reads := by
    intro fuel rest ends enough
    simp only [depth] at enough
    obtain ⟨fuel, rfl⟩ := Nat.exists_eq_add_one_of_ne_zero (by omega : fuel ≠ 0)
    obtain ⟨_, -, reads⟩ := bare.reads fuel rest
      (by
        intro t next
        have free := ends t next
        simp only [takes, Bool.or_eq_false_iff] at free ⊢
        exact free.1)
      (by simp only [depth]; omega)
    refine ⟨fuel + 1, by omega, Term.powered_bare reads ?_⟩
    intro next
    simp [next, takes] at ends

theorem raised (first : operand.Parses ts left) (second : signed.Parses us right)
    : power.Parses (ts ++ .power :: us) (.binary .pow left right) where
  begins := first.begins.append _
  reads := by
    intro fuel rest ends enough
    simp only [List.length_append, List.length_cons, depth] at enough
    obtain ⟨fuel, rfl⟩ := Nat.exists_eq_add_one_of_ne_zero (by omega : fuel ≠ 0)
    obtain ⟨_, -, base⟩ := first.reads fuel (.power :: (us ++ rest))
      (by simp [takes]) (by simp only [depth]; omega)
    obtain ⟨_, -, exponent⟩ := second.reads fuel rest ends
      (by simp only [depth]; omega)
    refine ⟨fuel + 1, by omega, ?_⟩
    rw [List.append_assoc]
    exact Term.powered_raised base exponent

theorem unsigned (bare : power.Parses ts term) : signed.Parses ts term where
  begins := by
    obtain ⟨t, more, rfl, starts⟩ := bare.begins
    simp only [Level.starts] at starts
    exact ⟨t, more, rfl, by simp [Level.starts, starts]⟩
  reads := by
    intro fuel rest ends enough
    simp only [depth] at enough
    obtain ⟨fuel, rfl⟩ := Nat.exists_eq_add_one_of_ne_zero (by omega : fuel ≠ 0)
    obtain ⟨_, -, reads⟩ := bare.reads fuel rest ends
      (by simp only [depth]; omega)
    refine ⟨fuel + 1, by omega, ?_⟩
    exact (Term.signed_unsigned (bare.head_ne rfl) (bare.head_ne rfl)).trans reads

theorem sign (op : UnaryOp) (behind : signed.Parses ts term)
    : signed.Parses (op.token :: ts) (.unary op term) where
  begins := ⟨_, _, rfl, by cases op <;> rfl⟩
  reads := by
    intro fuel rest ends enough
    simp only [List.length_cons, depth] at enough
    obtain ⟨fuel, rfl⟩ := Nat.exists_eq_add_one_of_ne_zero (by omega : fuel ≠ 0)
    obtain ⟨_, -, reads⟩ := behind.reads fuel rest ends
      (by simp only [depth]; omega)
    exact ⟨fuel + 1, by omega, Term.signed_sign op reads⟩

theorem factor (only : signed.Parses ts term) : product.Parses ts term where
  begins := only.begins
  reads := by
    intro fuel rest ends enough
    have pos := only.length_pos
    simp only [depth] at enough
    obtain ⟨fuel, rfl⟩ := Nat.exists_eq_add_one_of_ne_zero (by omega : fuel ≠ 0)
    obtain ⟨_, -, reads⟩ := only.reads fuel rest ends
      (by simp only [depth]; omega)
    simp only [parse, parseAfter] at reads
    refine ⟨fuel, by omega, ?_⟩
    simp only [parse, parseAfter, Term.product, reads, Option.bind_eq_bind, Option.bind_some]

/-- A product and a factor are a product: the loop that holds the one takes the other. -/
theorem multiplied {op : BinaryOp} (binds : op ∈ [BinaryOp.mul, .div, .rem])
    (first : product.Parses ts left) (second : signed.Parses us right)
    : product.Parses (ts ++ op.token :: us) (.binary op left right) where
  begins := first.begins.append _
  reads := by
    intro fuel rest ends enough
    simp only [List.length_append, List.length_cons, depth] at enough ⊢
    obtain ⟨held, kept, loop⟩ := first.reads fuel (op.token :: (us ++ rest))
      (by
        simp only [List.mem_cons, List.not_mem_nil, or_false] at binds
        rcases binds with rfl | rfl | rfl <;> simp [takes, BinaryOp.token])
      (by simp only [depth]; omega)
    obtain ⟨held, rfl⟩ := Nat.exists_eq_add_one_of_ne_zero (by omega : held ≠ 0)
    obtain ⟨_, -, reads⟩ := second.reads held rest ends
      (by simp only [depth]; omega)
    refine ⟨held, by omega, ?_⟩
    -- the loop that holds the left operand takes the operator and the factor behind it
    rw [List.append_assoc, List.cons_append]
    exact loop.trans (Term.productAfter_next binds reads)

theorem summand (only : product.Parses ts term) : sum.Parses ts term where
  begins := only.begins
  reads := by
    intro fuel rest ends enough
    have pos := only.length_pos
    simp only [depth] at enough
    obtain ⟨fuel, rfl⟩ := Nat.exists_eq_add_one_of_ne_zero (by omega : fuel ≠ 0)
    have reads := only.reads_product fuel rest (by omega) ends
    refine ⟨fuel, by omega, ?_⟩
    simp only [parse, parseAfter, Term.sum, reads, Option.bind_eq_bind, Option.bind_some]

/-- A sum and a product are a sum: the loop that holds the one takes the other. -/
theorem added {op : BinaryOp} (binds : op ∈ [BinaryOp.add, .sub])
    (first : sum.Parses ts left) (second : product.Parses us right)
    : sum.Parses (ts ++ op.token :: us) (.binary op left right) where
  begins := first.begins.append _
  reads := by
    intro fuel rest ends enough
    simp only [List.length_append, List.length_cons, depth] at enough ⊢
    obtain ⟨held, kept, loop⟩ := first.reads fuel (op.token :: (us ++ rest))
      (by
        simp only [List.mem_cons, List.not_mem_nil, or_false] at binds
        rcases binds with rfl | rfl <;> simp [takes, BinaryOp.token])
      (by simp only [depth]; omega)
    obtain ⟨held, rfl⟩ := Nat.exists_eq_add_one_of_ne_zero (by omega : held ≠ 0)
    have reads := second.reads_product held rest (by omega) ends
    refine ⟨held, by omega, ?_⟩
    rw [List.append_assoc, List.cons_append]
    exact loop.trans (Term.sumAfter_next binds reads)

/-- Arguments behind another one are read up to the parenthesis, by induction on them. -/
theorem reads_argumentsAfter {given : List (List Token × Term)}
    (each : ∀ argument ∈ given, sum.Parses argument.1 argument.2)
    (enough : 8 * (given.flatMap (.comma :: ·.1)).length + 1 ≤ fuel)
    : Term.argumentsAfter fuel (given.flatMap (.comma :: ·.1) ++ .closing :: rest)
      = some (given.map Prod.snd, rest) := by
  induction given generalizing fuel with
  | nil =>
      obtain ⟨fuel, rfl⟩ : ∃ less, fuel = less + 1 := ⟨fuel - 1, by simp at enough; omega⟩
      rfl
  | cons argument given ih =>
      simp only [List.flatMap_cons, List.length_append, List.length_cons] at enough
      obtain ⟨fuel, rfl⟩ := Nat.exists_eq_add_one_of_ne_zero (by omega : fuel ≠ 0)
      have first : Term.sum fuel
          (argument.1 ++ (given.flatMap (.comma :: ·.1) ++ .closing :: rest))
          = some (argument.2, given.flatMap (.comma :: ·.1) ++ .closing :: rest) :=
        (each argument (by simp)).reads_sum _ _ (by omega) (by cases given <;> simp)
      have more : Term.argumentsAfter fuel
          (given.flatMap (.comma :: ·.1) ++ .closing :: rest)
          = some (given.map Prod.snd, rest) :=
        ih (fun other member => each other (by simp [member])) (by omega)
      simp only [List.flatMap_cons, List.cons_append, List.append_assoc,
        Term.argumentsAfter, first, more, Option.bind_eq_bind, Option.bind_some]
      rfl

theorem reads_arguments {given : List (List Token × Term)}
    (each : ∀ argument ∈ given, sum.Parses argument.1 argument.2)
    (enough : 8 * ([Token.comma].intercalate (given.map Prod.fst)).length + 5 ≤ fuel)
    : Term.arguments fuel
        ([Token.comma].intercalate (given.map Prod.fst) ++ .closing :: rest)
      = some (given.map Prod.snd, rest) := by
  obtain ⟨fuel, rfl⟩ := Nat.exists_eq_add_one_of_ne_zero (by omega : fuel ≠ 0)
  cases given with
  | nil => rfl
  | cons argument given =>
      simp only [List.map_cons, intercalate_mark, List.flatMap_map, List.length_append]
        at enough
      have parses := each argument (by simp)
      have first : Term.sum fuel
          (argument.1 ++ (given.flatMap (.comma :: ·.1) ++ .closing :: rest))
          = some (argument.2, given.flatMap (.comma :: ·.1) ++ .closing :: rest) :=
        parses.reads_sum _ _ (by omega) (by cases given <;> simp)
      have more : Term.argumentsAfter fuel
          (given.flatMap (.comma :: ·.1) ++ .closing :: rest)
          = some (given.map Prod.snd, rest) :=
        reads_argumentsAfter (fun other member => each other (by simp [member])) (by omega)
      simp only [List.map_cons, intercalate_mark, List.flatMap_map, List.append_assoc]
      rw [Term.arguments, first]
      · simp only [more, Option.bind_eq_bind, Option.bind_some]
        rfl
      · intro ts same
        exact parses.head_ne rfl (congrArg List.head? same)

theorem call {callee : String} {given : List (List Token × Term)}
    (each : ∀ argument ∈ given, sum.Parses argument.1 argument.2)
    : operand.Parses
        (.name callee :: .opening :: [Token.comma].intercalate (given.map Prod.fst)
          ++ [.closing])
        (.call callee (given.map Prod.snd)) where
  begins := ⟨_, _, rfl, rfl⟩
  reads := by
    intro fuel rest _ enough
    simp only [List.cons_append, List.length_cons, List.length_append, List.length_nil, depth]
      at enough
    obtain ⟨fuel, rfl⟩ := Nat.exists_eq_add_one_of_ne_zero (by omega : fuel ≠ 0)
    refine ⟨fuel + 1, by omega, ?_⟩
    rw [List.append_assoc]
    exact Term.operand_call (reads_arguments each (by omega))

end Parses

end Level

/-- What the grammar forms is read, by induction on the derivation. -/
theorem Forms.parses {level : Level} {ts : List Token} {term : Term} (forms : Forms level ts term)
    : level.Parses ts term := by
  induction forms with
  | number value => exact .number value
  | name text => exact .name text
  | call callee given each ih => exact .call ih
  | grouped inner ih => exact .grouped ih
  | base bare ih => exact .base ih
  | raised first second ih ih' => exact .raised ih ih'
  | unsigned bare ih => exact .unsigned ih
  | signed op behind ih => exact .sign op ih
  | factor only ih => exact .factor ih
  | multiplied binds first second ih ih' => exact .multiplied binds ih ih'
  | summand only ih => exact .summand ih
  | added binds first second ih ih' => exact .added binds ih ih'

/-- The words of a term are read as that term. -/
theorem Forms.ofTokens? {ts : List Token} {term : Term} (forms : Forms .sum ts term)
    : Term.ofTokens? ts = some term := by
  have read := forms.parses.reads_sum (8 * (ts.length + 1)) [] (by omega) (by simp)
  rw [List.append_nil] at read
  simp only [Term.ofTokens?, read]

end LatexFigures.Expr
