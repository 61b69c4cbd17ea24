import LatexFigures.Proofs.Expr.Marks
import LatexFigures.Proofs.Expr.Pairs.Basic

/-! The grammar of expressions on the characters of a text, with a constructor for every rule: which
texts a rule reads, and as which pairs. Blanks may stand between the parts of a rule, but neither
inside numbers and names nor around what is read. If the words of a text form a term, then the
grammar reads the text.

A parser that skips blanks in search of one more part counts them into the pair of a sum, a product,
signs or a power, even if there is no such part. Here the text of a pair ends with its last part,
without these trailing blanks. Only complaints about pairs that the grammar never gives would show
them: what is built looks at the texts of numbers, names and operators, which end without blanks.
-/

namespace LatexFigures

/-- The form of a sign. -/
def UnaryOp.text : UnaryOp → Text
  | .neg => ['-']
  | .pos => ['+']

theorem UnaryOp.spells (op : UnaryOp) : op.token.Spells op.text := by
  cases op with
  | neg => exact .minus
  | pos => exact .plus

namespace Expr

/-- The text is made of blanks. -/
abbrev IsGap (gap : Text) : Prop := ∀ c ∈ gap, Token.isSpacing c = true

/-- A name, with or without the path in front of it. -/
def IsName (word : Text) : Prop :=
  Token.IsIdentifier word ∨ ∃ name, word = Token.path ++ name ∧ Token.IsIdentifier name

/-- The rule of a level. -/
def Level.rule : Level → Rule
  | sum => .sum
  | product => .product
  | signed => .unary
  | power => .power
  | operand => .primary

/-- The rule of the operators that join operands of the next level. -/
def Level.operatorRule : Level → Rule
  | sum => .addOp
  | product => .mulOp
  | _ => .powOp

/-- The forms of these operators. -/
def Level.operators : Level → List Text
  | sum => [['+'], ['-']]
  | product => [['*'], ['/'], ['%']]
  | power => [['*', '*'], ['^']]
  | signed | operand => []

/-- A text that is read as a pair, with the blanks around it. -/
structure Padded where
  front : Text
  text : Text
  back : Text
  pair : Pair
  front_gap : IsGap front
  back_gap : IsGap back

/-- The text with the blanks around it. -/
def Padded.whole (p : Padded) : Text := p.front ++ p.text ++ p.back

/-- An operator and the operand behind it, with the blanks in front of each. -/
structure Step (level : Level) where
  front : Text
  operator : Text
  middle : Text
  operand : Text
  pair : Pair
  front_gap : IsGap front
  known : operator ∈ level.operators
  middle_gap : IsGap middle

namespace Step

variable {level : Level}

def text (step : Step level) : Text :=
  step.front ++ step.operator ++ step.middle ++ step.operand

def pairs (step : Step level) : List Pair := [⟨level.operatorRule, step.operator, []⟩, step.pair]

end Step

/-- A sign, with the blanks behind it. -/
structure Sign where
  op : UnaryOp
  gap : Text
  is_gap : IsGap gap

namespace Sign

def text (sign : Sign) : Text := sign.op.text ++ sign.gap

def pair (sign : Sign) : Pair := ⟨.sign, sign.op.text, []⟩

end Sign

/-- At this level, the grammar reads the text as the pair. -/
inductive Derives : Level → Text → Pair → Prop
  -- primary = number | call | ident | "(" sum ")", which leaves no pair of its own
  | number {word} (decimal : Token.IsDecimal word) : Derives .operand word ⟨.number, word, []⟩
  | ident {word} (name : IsName word) : Derives .operand word ⟨.ident, word, []⟩
  | grouped (inner : Padded) (reads : Derives .sum inner.text inner.pair)
    : Derives .operand ('(' :: inner.whole ++ [')']) inner.pair
  -- call = ident "(" (sum ("," sum)*)? ")"
  | call {callee gap inside whole} (name : IsName callee) (gaps : IsGap gap ∧ IsGap inside)
      (arguments : List Padded)
      (each : ∀ argument ∈ arguments, Derives .sum argument.text argument.pair)
      (cut : whole = callee ++ gap ++ '(' :: inside
        ++ [','].intercalate (arguments.map Padded.whole) ++ [')'])
    : Derives .operand whole
        ⟨.call, whole, ⟨.ident, callee, []⟩ :: arguments.map Padded.pair⟩
  -- power = primary (powOp unary)?
  | base {text pair} (bare : Derives .operand text pair)
    : Derives .power text ⟨.power, text, [pair]⟩
  | raised {base whole pair} (step : Step .power) (first : Derives .operand base pair)
      (second : Derives .signed step.operand step.pair) (cut : whole = base ++ step.text)
    : Derives .power whole ⟨.power, whole, pair :: step.pairs⟩
  -- unary = sign* power
  | signed {text whole pair} (signs : List Sign) (behind : Derives .power text pair)
      (cut : whole = signs.flatMap Sign.text ++ text)
    : Derives .signed whole ⟨.unary, whole, signs.map Sign.pair ++ [pair]⟩
  -- sum = product (addOp product)* and product = unary (mulOp unary)*
  | chain {level first whole pair} (loose : level = .sum ∨ level = .product)
      (steps : List (Step level)) (head : Derives level.tighter first pair)
      (each : ∀ step ∈ steps, Derives level.tighter step.operand step.pair)
      (cut : whole = first ++ steps.flatMap Step.text)
    : Derives level whole ⟨level.rule, whole, pair :: steps.flatMap Step.pairs⟩

/-- The grammar reads the source as this tree: a sum, and then the end. -/
def DerivesSource (source : Text) (tree : Pair) : Prop :=
  ∃ sum : Padded, source = sum.whole
    ∧ Derives .sum sum.text sum.pair
    ∧ tree = ⟨.expression, source, [sum.pair, ⟨.endOfInput, [], []⟩]⟩

/-- What is read as a power behind signs, taken apart. -/
theorem Derives.exists_of_signed {text : Text} {pair : Pair} (reads : Derives .signed text pair)
    : ∃ (signs : List Sign) (bare : Text) (power : Pair),
        Derives .power bare power
        ∧ text = signs.flatMap Sign.text ++ bare
        ∧ pair = ⟨.unary, text, signs.map Sign.pair ++ [power]⟩ := by
  cases reads with
  | signed signs behind cut => exact ⟨signs, _, _, behind, cut, rfl⟩
  | chain loose => rcases loose with ⟨⟨⟩⟩ | ⟨⟨⟩⟩

/-- What is read as a sum or as a product, taken apart. -/
theorem Derives.exists_of_loose {level : Level} {text : Text} {pair : Pair}
    (reads : Derives level text pair) (loose : level = .sum ∨ level = .product)
    : ∃ (steps : List (Step level)) (first : Text) (head : Pair),
        Derives level.tighter first head
        ∧ (∀ step ∈ steps, Derives level.tighter step.operand step.pair)
        ∧ text = first ++ steps.flatMap Step.text
        ∧ pair = ⟨level.rule, text, head :: steps.flatMap Step.pairs⟩ := by
  cases reads with
  | chain _ steps head each cut => exact ⟨steps, _, _, head, each, cut, rfl⟩
  | _ => rcases loose with ⟨⟨⟩⟩ | ⟨⟨⟩⟩

theorem Token.Spells.isName {text : String} {word : Text} (spells : (Token.name text).Spells word)
    : IsName word := by
  cases spells with
  | name identifier => exact .inl identifier
  | path identifier => exact .inr ⟨_, rfl, identifier⟩

-----------------------------------------------------------------------------------------
-- Terms are read
-----------------------------------------------------------------------------------------

/-- At this level, the grammar reads all of the text but for blanks around it. -/
def Level.Covers (level : Level) (s : Text) : Prop :=
  ∃ p : Padded, s = p.whole ∧ Derives level p.text p.pair

namespace Level.Covers

variable {level : Level} {s rest word blanks : Text}

/-- The blanks around a text stay where they are when another rule reads it, too. -/
theorem mono {above below : Level} (covers : below.Covers s)
    (rule : ∀ {text pair}, Derives below text pair → ∃ pair, Derives above text pair)
    : above.Covers s := by
  obtain ⟨p, rfl, reads⟩ := covers
  obtain ⟨pair, reads⟩ := rule reads
  exact ⟨⟨p.front, p.text, p.back, pair, p.front_gap, p.back_gap⟩, rfl, reads⟩

/-- What stands before an operator and behind it, with the operator between them as a step. -/
theorem exists_step {below above : Level} (first : below.Covers s) (spacing : IsGap blanks)
    (known : word ∈ level.operators) (second : above.Covers rest)
    : ∃ front text back pair, ∃ step : Step level,
        s ++ (blanks ++ word ++ rest) = front ++ (text ++ step.text) ++ back
        ∧ IsGap front ∧ IsGap back
        ∧ Derives below text pair
        ∧ Derives above step.operand step.pair := by
  obtain ⟨p, rfl, reads⟩ := first
  obtain ⟨q, rfl, reads'⟩ := second
  have gap : IsGap (p.back ++ blanks) := fun c inside =>
    (List.mem_append.mp inside).elim (p.back_gap c) (spacing c)
  refine ⟨p.front, p.text, q.back, p.pair,
    ⟨p.back ++ blanks, word, q.front, q.text, q.pair, gap, known, q.front_gap⟩,
    ?_, p.front_gap, q.back_gap, reads, reads'⟩
  simp [Padded.whole, Step.text]

theorem raised (first : operand.Covers s) (spacing : IsGap blanks)
    (known : word ∈ power.operators) (second : signed.Covers rest)
    : power.Covers (s ++ (blanks ++ word ++ rest)) := by
  obtain ⟨front, text, back, pair, step, whole, gap, gap', reads, reads'⟩ :=
    exists_step first spacing known second
  exact ⟨⟨front, _, back, _, gap, gap'⟩, whole, .raised step reads reads' rfl⟩

/-- A sign joins those in front of the text. -/
theorem sign (op : UnaryOp) (spacing : IsGap blanks) (behind : signed.Covers rest)
    : signed.Covers (blanks ++ op.text ++ rest) := by
  obtain ⟨p, rfl, reads⟩ := behind
  obtain ⟨signs, bare, power, reads, cut, -⟩ := reads.exists_of_signed
  have cut : op.text ++ p.front ++ p.text
      = (⟨op, p.front, p.front_gap⟩ :: signs : List Sign).flatMap Sign.text ++ bare := by
    simp [cut, Sign.text]
  exact ⟨⟨blanks, _, p.back, _, spacing, p.back_gap⟩, by simp [Padded.whole],
    .signed (⟨op, p.front, p.front_gap⟩ :: signs) reads cut⟩

/-- A step joins those of the text before it. -/
theorem joined (loose : level = .sum ∨ level = .product) (first : level.Covers s)
    (spacing : IsGap blanks) (known : word ∈ level.operators) (second : level.tighter.Covers rest)
    : level.Covers (s ++ (blanks ++ word ++ rest)) := by
  obtain ⟨front, text, back, pair, step, whole, gap, gap', reads, reads'⟩ :=
    exists_step first spacing known second
  obtain ⟨steps, start, head, reads, each, cut, -⟩ := reads.exists_of_loose loose
  have all : ∀ other ∈ steps ++ [step], Derives level.tighter other.operand other.pair := by
    intro other inside
    rcases List.mem_append.mp inside with before | last
    · exact each other before
    · exact (List.mem_singleton.mp last) ▸ reads'
  have cut : text ++ step.text = start ++ (steps ++ [step]).flatMap Step.text := by simp [cut]
  exact ⟨⟨front, _, back, _, gap, gap'⟩, whole, .chain loose (steps ++ [step]) reads all cut⟩

/-- Arguments are read between the commas, by induction on those behind the first one. -/
theorem exists_argument {first : List Token × Term} {more : List (List Token × Term)}
    (each : ∀ argument ∈ first :: more, ∀ {s}, Token.Spelled argument.1 s → sum.Covers s)
    (spelled : Token.Spelled ([Token.comma].intercalate ((first :: more).map Prod.fst)) s)
    : ∃ argument others, s = [','].intercalate ((argument :: others).map Padded.whole)
        ∧ ∀ a ∈ argument :: others, Derives .sum a.text a.pair := by
  have comma : (',', Token.comma) ∈ Token.marks := by simp [Token.marks]
  induction more generalizing first s with
  | nil =>
      obtain ⟨argument, rfl, reads⟩ := each first List.mem_cons_self (by simpa using spelled)
      exact ⟨argument, [], by simp, by simpa using reads⟩
  | cons next more ih =>
      simp only [List.map_cons, List.intercalate_cons_cons, List.append_assoc] at spelled
      obtain ⟨front, _, rfl, head, behind⟩ := spelled.exists_of_append
      obtain ⟨blanks, rest, rfl, spacing, tail⟩ :=
        behind.exists_of_mark comma
      obtain ⟨argument, whole, reads⟩ := each first (by simp) (head.append_blanks spacing)
      obtain ⟨second, others, rfl, all⟩ :=
        ih (fun a inside => each a (List.mem_cons_of_mem _ inside)) tail
      refine ⟨argument, second :: others, ?_, List.forall_mem_cons.mpr ⟨reads, all⟩⟩
      simp only [List.map_cons, List.intercalate_cons_cons, ← whole]
      simp

/-- Where there are no arguments, blanks are left between the parentheses. -/
theorem exists_arguments {given : List (List Token × Term)}
    (each : ∀ argument ∈ given, ∀ {s}, Token.Spelled argument.1 s → sum.Covers s)
    (spelled : Token.Spelled ([Token.comma].intercalate (given.map Prod.fst)) s)
    : ∃ inside, ∃ arguments : List Padded,
        s = inside ++ [','].intercalate (arguments.map Padded.whole)
        ∧ IsGap inside
        ∧ ∀ argument ∈ arguments, Derives .sum argument.text argument.pair := by
  cases given with
  | nil => exact ⟨s, [], by simp, spelled.isSpacing_of_nil, by simp⟩
  | cons first more =>
      obtain ⟨argument, others, rfl, all⟩ := exists_argument each spelled
      exact ⟨[], argument :: others, rfl, List.forall_mem_nil _, all⟩

end Level.Covers

/-- The words of a term make a text that the grammar reads. By induction on the derivation. -/
theorem Forms.covers {level : Level} {ts : List Token} {term : Term} {s : Text}
    (forms : Forms level ts term) (spelled : Token.Spelled ts s)
    : level.Covers s := by
  have opening : ('(', Token.opening) ∈ Token.marks := by simp [Token.marks]
  have closing : (')', Token.closing) ∈ Token.marks := by simp [Token.marks]
  induction forms generalizing s with
  | number value =>
      obtain ⟨blanks, word, rest, rfl, spacing, spells, last⟩ := spelled.exists_of_cons
      cases spells with
      | number decimal =>
          exact ⟨⟨blanks, word, rest, _, spacing, last.isSpacing_of_nil⟩, rfl, .number decimal⟩
  | name text =>
      obtain ⟨blanks, word, rest, rfl, spacing, spells, last⟩ := spelled.exists_of_cons
      exact ⟨⟨blanks, word, rest, _, spacing, last.isSpacing_of_nil⟩, rfl, .ident spells.isName⟩
  | call callee given each ih =>
      obtain ⟨blanks, word, _, rfl, spacing, spells, behind⟩ := spelled.exists_of_cons
      obtain ⟨gap, _, rfl, spacing', behind⟩ := behind.exists_of_mark opening
      obtain ⟨front, _, rfl, inner, behind⟩ := behind.exists_of_append
      obtain ⟨gap', rest, rfl, spacing'', last⟩ := behind.exists_of_mark closing
      obtain ⟨inside, arguments, whole, isGap, reads⟩ :=
        Level.Covers.exists_arguments ih (inner.append_blanks spacing'')
      have cut : word ++ gap ++ '(' :: (front ++ gap') ++ [')']
          = word ++ gap ++ '(' :: inside ++ [','].intercalate (arguments.map Padded.whole)
            ++ [')'] := by
        rw [whole]
        simp
      exact ⟨⟨blanks, _, rest, _, spacing, last.isSpacing_of_nil⟩, by simp [Padded.whole],
        .call spells.isName ⟨spacing', isGap⟩ arguments reads cut⟩
  | grouped inner ih =>
      obtain ⟨blanks, _, rfl, spacing, behind⟩ := spelled.exists_of_mark opening
      obtain ⟨front, _, rfl, between, behind⟩ := behind.exists_of_append
      obtain ⟨gap, rest, rfl, spacing', last⟩ := behind.exists_of_mark closing
      obtain ⟨p, whole, reads⟩ := ih (between.append_blanks spacing')
      refine ⟨⟨blanks, _, rest, _, spacing, last.isSpacing_of_nil⟩, ?_, .grouped p reads⟩
      rw [Padded.whole, ← whole]
      simp
  | base bare ih => exact (ih spelled).mono fun reads => ⟨_, .base reads⟩
  | raised first second ih ih' =>
      obtain ⟨front, _, rfl, before, behind⟩ := spelled.exists_of_append
      obtain ⟨blanks, word, rest, rfl, spacing, spells, behind⟩ := behind.exists_of_cons
      exact .raised (ih before) spacing (by cases spells <;> simp [Level.operators]) (ih' behind)
  | unsigned bare ih => exact (ih spelled).mono fun reads => ⟨_, .signed [] reads rfl⟩
  | signed op behind ih =>
      obtain ⟨blanks, word, rest, rfl, spacing, spells, behind⟩ := spelled.exists_of_cons
      obtain rfl : word = op.text := by cases op <;> cases spells <;> rfl
      exact .sign op spacing (ih behind)
  | factor only ih =>
      exact (ih spelled).mono fun reads => ⟨_, .chain (.inr rfl) [] reads (by simp) (by simp)⟩
  | multiplied binds first second ih ih' =>
      obtain ⟨front, _, rfl, before, behind⟩ := spelled.exists_of_append
      obtain ⟨blanks, word, rest, rfl, spacing, spells, behind⟩ := behind.exists_of_cons
      refine .joined (.inr rfl) (ih before) spacing ?_ (ih' behind)
      simp only [List.mem_cons, List.not_mem_nil, or_false] at binds
      rcases binds with rfl | rfl | rfl <;> cases spells <;> simp [Level.operators]
  | summand only ih =>
      exact (ih spelled).mono fun reads => ⟨_, .chain (.inl rfl) [] reads (by simp) (by simp)⟩
  | added binds first second ih ih' =>
      obtain ⟨front, _, rfl, before, behind⟩ := spelled.exists_of_append
      obtain ⟨blanks, word, rest, rfl, spacing, spells, behind⟩ := behind.exists_of_cons
      refine .joined (.inl rfl) (ih before) spacing ?_ (ih' behind)
      simp only [List.mem_cons, List.not_mem_nil, or_false] at binds
      rcases binds with rfl | rfl <;> cases spells <;> simp [Level.operators]

end Expr

end LatexFigures
