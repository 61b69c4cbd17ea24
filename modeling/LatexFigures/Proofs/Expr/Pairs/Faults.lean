import LatexFigures.Proofs.Expr.FirstError
import LatexFigures.Proofs.Expr.Pairs.Building

/-! Which error compiling reports. What the grammar does not read is malformed. In all that it reads
only calls can fail, and of the calls that do, the first one is reported: the name of a call counts
before its arguments, and their number after them.
-/

namespace LatexFigures.Expr

variable {level : Level} {text : Text} {pair : Pair}

namespace Pair

/-- What is built of the pair is an expression, or the first fault of its calls. -/
def Reports (level : Level) (pair : Pair) : Prop :=
  ReportsFirst (pair.faults.map Failure.call) (pair.build level)

theorem faults_leaf (rule : Rule) (text : Text) : faults ⟨rule, text, []⟩ = [] := by
  cases rule <;> rfl

theorem faultsIn_step (step : Step level) (more : List Pair)
    : faultsIn (step.pairs ++ more) = step.pair.faults ++ faultsIn more := by
  simp only [Step.pairs, List.cons_append, List.nil_append, faultsIn, faults_leaf]

theorem faultsIn_signs (signs : List Sign) (pair : Pair)
    : faultsIn (signs.map Sign.pair ++ [pair]) = pair.faults := by
  induction signs with
  | nil => simp only [List.map_nil, List.nil_append, faultsIn, List.append_nil]
  | cons sign signs ih =>
      rw [List.map_cons, List.cons_append, faultsIn, ih, Sign.pair, faults_leaf, List.nil_append]

namespace Reports

theorem number {word : Text} (decimal : Token.IsDecimal word)
    : Reports .operand ⟨.number, word, []⟩ := by
  obtain ⟨value, read⟩ := decimal.exists_value
  rw [Reports, build, read]
  exact .ok _

theorem ident (word : Text) : Reports .operand ⟨.ident, word, []⟩ := by
  rw [Reports, build]
  exact .ok _

/-- Arguments fail from left to right, by induction on them. -/
theorem buildAll {pairs : List Pair} (each : ∀ pair ∈ pairs, Reports .sum pair)
    : ReportsFirst ((faultsIn pairs).map Failure.call) (Pair.buildAll pairs) := by
  induction pairs with
  | nil => exact .ok _
  | cons first more ih =>
      rw [faultsIn, List.map_append]
      exact (each first (by simp)).bind fun e _ =>
        (ih fun other inside => each other (by simp [inside])).bind_ok

/-- A call fails by its name, then by its arguments, then by their count. -/
theorem call {callee : Pair} {arguments : List Pair}
    (each : ∀ argument ∈ arguments, Reports .sum argument)
    : Reports .operand ⟨.call, text, callee :: arguments⟩ := by
  obtain ⟨rule, word, inner⟩ := callee
  simp only [Reports, build, Pair.call, faults, Call.fault?, Call.name]
  cases looked : Function.named? (pathless word) with
  | none => exact .error _ _
  | some function =>
      simp only [Option.isNone_some, Bool.false_eq_true, if_false, List.map_append]
      refine (buildAll each).bind fun es built => ?_
      rw [length_of_buildAll built]
      split
      · exact .ok _
      · exact .error _ _

theorem base (bare : Reports .operand pair) : Reports .power ⟨.power, text, [pair]⟩ := by
  have built : build .power ⟨.power, text, [pair]⟩ = pair.build .operand := by
    simp only [build, Pair.power]
  rw [Reports, faults_of_ne_call (by simp), faultsIn, faultsIn, List.append_nil, built]
  exact bare

theorem raised {step : Step .power} (first : Reports .operand pair)
    (second : Reports .signed step.pair)
    : Reports .power ⟨.power, text, pair :: step.pairs⟩ := by
  have exponent := faultsIn_step step []
  rw [List.append_nil, faultsIn, List.append_nil] at exponent
  rw [Reports, faults_of_ne_call (by simp), faultsIn, exponent, List.map_append]
  simp only [Step.pairs, build, Pair.power]
  exact first.bind fun e _ => second.bind_ok

theorem signed (isPower : pair.rule = .power) (signs : List Sign) (behind : Reports .power pair)
    : Reports .signed ⟨.unary, text, signs.map Sign.pair ++ [pair]⟩ := by
  rw [Reports, faults_of_ne_call (by simp), faultsIn_signs]
  simp only [build, signed_eq isPower]
  exact behind.bind_ok

/-- Whatever the loop of a sum or a product holds, its operands fail from left to right. By
induction on the steps.
-/
theorem chainAfter (loose : level = .sum ∨ level = .product) {steps : List (Step level)}
    (each : ∀ step ∈ steps, Reports level.tighter step.pair) (left : Expr)
    : ReportsFirst ((faultsIn (steps.flatMap Step.pairs)).map Failure.call)
        (Pair.chainAfter level text left (steps.flatMap Step.pairs)) := by
  induction steps generalizing left with
  | nil =>
      rw [List.flatMap_nil, Pair.chainAfter]
      exact .ok _
  | cons step steps ih =>
      obtain ⟨op, known, -⟩ := level.exists_operator? loose step.known
      rw [List.flatMap_cons, faultsIn_step, List.map_append, chainAfter_step known]
      exact (each step (by simp)).bind fun right _ =>
        ih (fun other inside => each other (by simp [inside])) _

theorem chain (loose : level = .sum ∨ level = .product) {steps : List (Step level)}
    (head : Reports level.tighter pair)
    (each : ∀ step ∈ steps, Reports level.tighter step.pair)
    : Reports level ⟨level.rule, text, pair :: steps.flatMap Step.pairs⟩ := by
  have inner : level.rule ≠ .call := by rcases loose with rfl | rfl <;> simp [Level.rule]
  rw [Reports, faults_of_ne_call inner, faultsIn, List.map_append, build_chain loose]
  exact head.bind fun left _ => chainAfter loose each left

end Reports

end Pair

/-- What the grammar reads is built, or its first fault is reported. By induction on the
derivation.
-/
theorem Derives.reports (reads : Derives level text pair) : pair.Reports level := by
  induction reads with
  | number decimal => exact .number decimal
  | ident name => exact .ident _
  | call name gaps arguments each cut ih => exact .call (by simpa using ih)
  | grouped inner reads ih =>
      rw [Pair.Reports, Pair.build_operand_of_sum (reads.rule_eq.1 rfl)]
      exact ih
  | base bare ih => exact .base ih
  | raised step first second cut ih ih' => exact .raised ih ih'
  | signed signs behind cut ih => exact .signed (behind.rule_eq.2 rfl) signs ih
  | chain loose steps head each cut ih ih' => exact .chain loose ih ih'

-----------------------------------------------------------------------------------------
-- Names of calls
-----------------------------------------------------------------------------------------

namespace Pair

variable {call : Call}

theorem exists_inner {rule : Rule} {inner : List Pair} (other : rule ≠ .call)
    (inside : call ∈ calls ⟨rule, text, inner⟩)
    : ∃ part ∈ inner, call ∈ part.calls := by
  rwa [calls_of_ne_call other, callsIn_eq_flatMap, List.mem_flatMap] at inside

theorem calls_leaf (rule : Rule) (text : Text) : calls ⟨rule, text, []⟩ = [] := by
  cases rule <;> rfl

/-- An operator calls nothing. -/
theorem mem_calls_of_step {step : Step level} {part : Pair} (member : part ∈ step.pairs)
    (inside : call ∈ part.calls)
    : call ∈ step.pair.calls := by
  simp only [Step.pairs, List.mem_cons, List.not_mem_nil, or_false] at member
  rcases member with rfl | rfl
  · simp [calls_leaf] at inside
  · exact inside

end Pair

/-- Every call of a tree has a name, by induction on the derivation. -/
theorem Derives.isName_of_mem_calls (reads : Derives level text pair) {call : Pair.Call}
    (inside : call ∈ pair.calls)
    : IsName call.callee := by
  induction reads with
  | number | ident => simp [Pair.calls_leaf] at inside
  | call name gaps arguments each cut ih =>
      rcases List.mem_cons.mp inside with rfl | inside
      · exact name
      · rw [Pair.callsIn_eq_flatMap, List.flatMap_map, List.mem_flatMap] at inside
        obtain ⟨argument, given, within⟩ := inside
        exact ih argument given within
  | grouped inner reads ih => exact ih inside
  | base bare ih =>
      obtain ⟨part, member, within⟩ := Pair.exists_inner (by simp) inside
      exact ih (List.mem_singleton.mp member ▸ within)
  | raised step first second cut ih ih' =>
      obtain ⟨part, member, within⟩ := Pair.exists_inner (by simp) inside
      rcases List.mem_cons.mp member with rfl | behind
      · exact ih within
      · exact ih' (Pair.mem_calls_of_step behind within)
  | signed signs behind cut ih =>
      obtain ⟨part, member, within⟩ := Pair.exists_inner (by simp) inside
      rcases List.mem_append.mp member with sign | last
      · obtain ⟨sign, -, rfl⟩ := List.mem_map.mp sign
        simp [Sign.pair, Pair.calls_leaf] at within
      · exact ih (List.mem_singleton.mp last ▸ within)
  | @chain level _ _ _ loose steps head each cut ih ih' =>
      have inner : level.rule ≠ .call := by rcases loose with rfl | rfl <;> simp [Level.rule]
      obtain ⟨part, member, within⟩ := Pair.exists_inner inner inside
      rcases List.mem_cons.mp member with rfl | behind
      · exact ih within
      · obtain ⟨step, given, behind⟩ := List.mem_flatMap.mp behind
        exact ih' step given (Pair.mem_calls_of_step behind within)

-----------------------------------------------------------------------------------------
-- Whole sources
-----------------------------------------------------------------------------------------

variable {source : Text} {tree : Pair}

/-- The builder finds the one sum in the pair of a whole source. -/
theorem Derives.buildSource_eq_build (reads : Derives .sum text pair) {whole : Text}
    : Pair.buildSource source [⟨.expression, whole, [pair, ⟨.endOfInput, [], []⟩]⟩]
      = pair.build .sum := by
  simp [Pair.buildSource, reads.rule_eq.1 rfl]

theorem DerivesSource.buildSource_eq (derives : DerivesSource source tree)
    : ∃ term, Term.read? source = some term
      ∧ Pair.buildSource source [tree] = term.resolve.mapError .call := by
  obtain ⟨sum, rfl, reads, rfl⟩ := derives
  obtain ⟨ts, term, spelled, forms, built⟩ := reads.builds
  exact ⟨term, Term.read?_eq_some_iff.mpr ⟨ts, Padded.spelled spelled, forms⟩,
    reads.buildSource_eq_build.trans built⟩

theorem exists_derivesSource {term : Term} (read : Term.read? source = some term)
    : ∃ tree, DerivesSource source tree := by
  obtain ⟨ts, spelled, forms⟩ := Term.read?_eq_some_iff.mp read
  obtain ⟨sum, whole, reads⟩ := forms.covers spelled
  exact ⟨_, sum, whole, reads, rfl⟩

theorem DerivesSource.isName (derives : DerivesSource source tree) {call : Pair.Call}
    (inside : call ∈ tree.calls)
    : IsName call.callee := by
  obtain ⟨sum, -, reads, rfl⟩ := derives
  obtain ⟨part, member, within⟩ := Pair.exists_inner (by simp) inside
  simp only [List.mem_cons, List.not_mem_nil, or_false] at member
  rcases member with rfl | rfl
  · exact reads.isName_of_mem_calls within
  · simp [Pair.calls_leaf] at within

/-- The builder has no errors of its own for what the grammar reads. -/
theorem DerivesSource.buildSource_eq_compile (derives : DerivesSource source tree)
    : Pair.buildSource source [tree] = (compile source).mapError .call := by
  obtain ⟨term, read, built⟩ := derives.buildSource_eq
  rw [built, compile, read]

theorem DerivesSource.reportsFirst (derives : DerivesSource source tree)
    : ReportsFirst tree.faults (compile source) := by
  have injective : Function.Injective Failure.call := fun _ _ same => Failure.call.inj same
  refine .of_mapError injective ?_
  rw [← derives.buildSource_eq_compile]
  obtain ⟨sum, rfl, reads, rfl⟩ := derives
  have whole : Pair.faults ⟨.expression, sum.whole, [sum.pair, ⟨.endOfInput, [], []⟩]⟩
      = sum.pair.faults := by
    simp [Pair.faults, Pair.faultsIn]
  rw [whole, reads.buildSource_eq_build]
  exact reads.reports

/-- A source is malformed exactly if the grammar does not read it, whatever functions it names. In
the trees that the grammar does read, the builder meets none of its own errors. Compiling then
fails exactly if some call does, as its name is not in the table or its function does not take so
many arguments, and the first of these faults is reported.
-/
theorem compile_reports_first_fault (source : Text)
    : (∀ text, compile source = .error (.malformed text)
        ↔ text = source ∧ ¬ ∃ tree, DerivesSource source tree)
      ∧ ∀ tree, DerivesSource source tree →
          Pair.buildSource source [tree] = (compile source).mapError .call
          ∧ ReportsFirst tree.faults (compile source)
          ∧ ((∃ error, compile source = .error error)
              ↔ ∃ call ∈ tree.calls, Function.named? call.name = none
                ∨ ∃ function, Function.named? call.name = some function
                    ∧ function.arity.admits call.given = false)
          ∧ (∀ call ∈ tree.calls, Token.IsIdentifier call.name.toList
              ∧ (call.callee = call.name.toList ∨ call.callee = Token.path ++ call.name.toList))
          ∧ ∀ error ∈ tree.faults, ∃ call ∈ tree.calls,
            (Function.named? call.name = none ∧ error = .unknownFunction call.name)
            ∨ ∃ function, Function.named? call.name = some function
                ∧ Function.named? function.name = some function
                ∧ function.arity.admits call.given = false
                ∧ error = .arity function call.given
                ∧ error.message
                  = s!"{function.name} takes {function.arity.least} argument(s), got {call.given}" := by
  constructor
  · intro text
    cases read : Term.read? source with
    | none =>
        have underivable : ¬ ∃ tree, DerivesSource source tree := by
          rintro ⟨tree, derives⟩
          obtain ⟨term, found, -⟩ := derives.buildSource_eq
          cases read.symm.trans found
        simp [compile, read, underivable, eq_comm]
    | some term =>
        obtain ⟨tree, derives⟩ := exists_derivesSource read
        constructor
        · intro failed
          obtain ⟨call, -, fault⟩ :=
            (Pair.mem_faults_iff tree).mp (derives.reportsFirst.mem_of_eq_error failed)
          rcases Pair.Call.fault?_eq_some_iff.mp fault with ⟨-, ⟨⟩⟩ | ⟨_, -, -, ⟨⟩⟩
        · intro h
          exact absurd ⟨tree, derives⟩ h.2
  · intro tree derives
    have reports := derives.reportsFirst
    refine ⟨derives.buildSource_eq_compile, reports, ?_, ?_, ?_⟩
    · simp only [reports.exists_error_iff, Pair.mem_faults_iff, ← Pair.Call.exists_fault?_iff]
      exact exists_comm.trans (exists_congr fun call => exists_and_left)
    · intro call inside
      exact (derives.isName inside).pathless_eq
    · intro error inside
      obtain ⟨call, member, fault⟩ := (Pair.mem_faults_iff tree).mp inside
      refine ⟨call, member, (Pair.Call.fault?_eq_some_iff.mp fault).imp_right ?_⟩
      rintro ⟨function, known, other, rfl⟩
      exact ⟨function, known, Pair.Call.named?_name function, other, rfl, rfl⟩

/-- The pairs of an operand that stands by itself as a sum. -/
def Pair.ofOperand (text : Text) (operand : Pair) : Pair :=
  ⟨.sum, text, [⟨.product, text, [⟨.unary, text, [⟨.power, text, [operand]⟩]⟩]⟩]⟩

theorem Derives.sum (reads : Derives .operand text pair)
    : Derives .sum text (Pair.ofOperand text pair) :=
  have power := Derives.base reads
  have product := Derives.chain (.inr rfl) [] (.signed [] power rfl) (by simp) (by simp)
  .chain (.inl rfl) [] product (by simp) (by simp)

/-- A name in an argument is reported, without its path, before the count of the arguments. -/
theorem compile_reports_first_fault_in_argument
    : let source := "hypot(Math.foo())".toList
      let argument := "Math.foo()".toList
      let inner : Pair := ⟨.call, argument, [⟨.ident, "Math.foo".toList, []⟩]⟩
      let outer : Pair :=
        ⟨.call, source, [⟨.ident, "hypot".toList, []⟩, .ofOperand argument inner]⟩
      let tree : Pair := ⟨.expression, source, [.ofOperand source outer, ⟨.endOfInput, [], []⟩]⟩
      DerivesSource source tree
        ∧ tree.faults = [.unknownFunction "foo", .arity .hypot 1]
        ∧ compile source = .error (.unknownFunction "foo") := by
  intro source argument inner outer tree
  have faults : tree.faults = [.unknownFunction "foo", .arity .hypot 1] := by decide +kernel
  have foo : IsName "Math.foo".toList :=
    .inr ⟨['f', 'o', 'o'], rfl, 'f', ['o', 'o'], rfl, rfl, List.all_eq_true.mp rfl⟩
  have hypot : IsName "hypot".toList :=
    .inl ⟨'h', ['y', 'p', 'o', 't'], rfl, rfl, List.all_eq_true.mp rfl⟩
  have empty : IsGap [] := List.forall_mem_nil _
  have called : Derives .operand argument inner := .call foo ⟨empty, empty⟩ [] (by simp) rfl
  have given : ∀ a ∈ [Padded.mk [] argument [] (.ofOperand argument inner) empty empty],
      Derives .sum a.text a.pair := List.forall_mem_singleton.mpr called.sum
  have whole : Derives .operand source outer := .call hypot ⟨empty, empty⟩ _ given rfl
  have derives : DerivesSource source tree :=
    ⟨⟨[], source, [], _, empty, empty⟩, by simp [Padded.whole], whole.sum, rfl⟩
  have reports := ((compile_reports_first_fault source).2 tree derives).2.1
  rw [faults] at reports
  exact ⟨derives, faults, reports⟩

end LatexFigures.Expr
