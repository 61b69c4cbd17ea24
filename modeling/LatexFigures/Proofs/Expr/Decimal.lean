import LatexFigures.Expr.Token
import LatexFigures.Proofs.Text.Cutting

/-! The numbers of expressions: digits with an optional point, an optional power of ten, and no
sign. What is cut off as a number is one, and as long as possible.
-/

namespace LatexFigures.Expr.Token

/-- Nothing but digits, perhaps none. -/
def IsDigits (s : Text) : Prop := ∀ c ∈ s, c.isDigit = true

/-- Digits, with a point among them, before or behind them. -/
inductive IsCoefficient : Text → Prop
  | whole {digits} (all : IsDigits digits) (nonempty : digits ≠ []) : IsCoefficient digits
  | pointed {digits places} (all : IsDigits digits) (all' : IsDigits places)
      (nonempty : digits ≠ [] ∨ places ≠ [])
    : IsCoefficient (digits ++ '.' :: places)

/-- A power of ten, or nothing. -/
inductive IsExponent : Text → Prop
  | absent : IsExponent []
  | present {mark sign digits} (marked : mark = 'e' ∨ mark = 'E')
      (signed : sign ∈ [[], ['+'], ['-']]) (all : IsDigits digits) (nonempty : digits ≠ [])
    : IsExponent (mark :: sign ++ digits)

/-- An unsigned decimal number. -/
def IsDecimal (s : Text) : Prop :=
  ∃ coefficient exponent,
    IsCoefficient coefficient ∧ IsExponent exponent ∧ s = coefficient ++ exponent

/-- Nothing follows that a number or a name could take in. -/
def EndsWord (rest : Text) : Prop :=
  ∀ c ∈ rest.head?, continuesName c = false ∧ c ≠ '.'

variable {s rest word : Text}

theorem not_isDigit_of_mark {c : Char} (mark : c = 'e' ∨ c = 'E') : c.isDigit = false := by
  rcases mark with rfl | rfl <;> rfl

theorem EndsWord.not_isDigit (ends : EndsWord rest) : ∀ c ∈ rest.head?, c.isDigit = false := by
  intro c next
  have other := (ends c next).1
  simp only [continuesName, Char.isAlphanum, Bool.or_eq_false_iff] at other
  exact other.1.2

/-- A coefficient is cut off whole where neither a digit nor a point follows. -/
theorem splitDigits?_append {coefficient : Text} (valid : IsCoefficient coefficient)
    (digit : ∀ c ∈ rest.head?, c.isDigit = false) (point : rest.head? ≠ some '.')
    : splitDigits? (coefficient ++ rest) = some (coefficient, rest) := by
  cases valid with
  | whole all nonempty =>
      simp only [splitDigits?, Text.takeWhile_append all digit, Text.dropWhile_append all digit,
        List.isEmpty_eq_false_iff.mpr nonempty]
      split
      · simp at point
      · rfl
  | @pointed digits places all all' nonempty =>
      have notDigit : ∀ c ∈ ('.' :: (places ++ rest)).head?, c.isDigit = false := by
        intro c next
        cases next
        rfl
      have least : (digits.isEmpty && places.isEmpty) = false := by
        rcases nonempty with held | held <;> simp [held]
      have whole := Text.takeWhile_append all notDigit
      have behind := Text.dropWhile_append all notDigit
      simp only [splitDigits?, List.append_assoc, List.cons_append, whole, behind,
        Text.takeWhile_append all' digit, Text.dropWhile_append all' digit, least]
      rfl

theorem splitDigits?_eq_some {coefficient : Text}
    (cut : splitDigits? s = some (coefficient, rest))
    : s = coefficient ++ rest ∧ IsCoefficient coefficient := by
  have all : IsDigits (s.takeWhile Char.isDigit) := fun c => Text.of_mem_takeWhile
  have whole := List.takeWhile_append_dropWhile (p := Char.isDigit) (l := s)
  simp only [splitDigits?] at cut
  split at cut
  · rename_i behind point
    split at cut
    · contradiction
    · rename_i least
      cases cut
      have all' : IsDigits (behind.takeWhile Char.isDigit) := fun c => Text.of_mem_takeWhile
      refine ⟨?_, .pointed all all' ?_⟩
      · rw [List.append_assoc, List.cons_append, List.takeWhile_append_dropWhile, ← point, whole]
      · by_cases none : s.takeWhile Char.isDigit = []
        · simp [none] at least
          exact .inr (by simpa using least)
        · exact .inl none
  · split at cut
    · contradiction
    · rename_i least
      cases cut
      exact ⟨whole.symm, .whole all (by simpa using least)⟩

/-- What follows the mark of an exponent, as a sign and the rest. -/
theorem exists_sign (s : Text)
    : ∃ sign digits, sign ++ digits = s
      ∧ sign ∈ [[], ['+'], ['-']]
      ∧ (sign = [] → digits.head? ≠ some '+' ∧ digits.head? ≠ some '-') := by
  by_cases plus : s.head? = some '+'
  · obtain ⟨digits, rfl⟩ := List.head?_eq_some_iff.mp plus
    exact ⟨['+'], digits, rfl, by simp, by simp⟩
  · by_cases minus : s.head? = some '-'
    · obtain ⟨digits, rfl⟩ := List.head?_eq_some_iff.mp minus
      exact ⟨['-'], digits, rfl, by simp, by simp⟩
    · exact ⟨[], s, rfl, by simp, fun _ => ⟨plus, minus⟩⟩

/-- An exponent counts if it has a mark and, behind the sign, a digit. -/
theorem splitExponent_sign {mark : Char} {sign digits : Text}
    (signed : sign ∈ [[], ['+'], ['-']])
    (signless : sign = [] → digits.head? ≠ some '+' ∧ digits.head? ≠ some '-')
    : splitExponent (mark :: (sign ++ digits))
      = if (mark == 'e' || mark == 'E') && digits.head?.any Char.isDigit then
          (mark :: sign ++ digits.takeWhile Char.isDigit, digits.dropWhile Char.isDigit)
        else ([], mark :: (sign ++ digits)) := by
  simp only [List.mem_cons, List.not_mem_nil, or_false] at signed
  rcases signed with rfl | rfl | rfl
  · obtain ⟨plus, minus⟩ := signless rfl
    simp only [List.nil_append, splitExponent]
    split
    · simp at plus
    · simp at minus
    · rfl
  · rfl
  · rfl

/-- An exponent is cut off whole where the word ends. -/
theorem splitExponent_append {exponent : Text} (valid : IsExponent exponent)
    (ends : EndsWord rest)
    : splitExponent (exponent ++ rest) = (exponent, rest) := by
  cases valid with
  | absent =>
      cases rest with
      | nil => rfl
      | cons c rest =>
          have other := (ends c rfl).1
          have notMark : (c == 'e' || c == 'E') = false := by
            by_cases mark : c = 'e' ∨ c = 'E'
            · rcases mark with rfl | rfl <;> simp [continuesName] at other
            · simpa using mark
          obtain ⟨sign, digits, rfl, signed, signless⟩ := exists_sign rest
          rw [List.nil_append, splitExponent_sign signed signless, notMark]
          rfl
  | @present mark sign digits marked signed all nonempty =>
      have isMark : (mark == 'e' || mark == 'E') = true := by simpa using marked
      obtain ⟨first, more, rfl⟩ := List.exists_cons_of_ne_nil nonempty
      have digit := all first (by simp)
      have counts : (first :: more ++ rest).head?.any Char.isDigit = true := digit
      have signless : (first :: more ++ rest).head? ≠ some '+'
          ∧ (first :: more ++ rest).head? ≠ some '-' := by
        constructor <;> (rintro ⟨⟩; simp at digit)
      rw [List.cons_append, List.cons_append, List.append_assoc,
        splitExponent_sign signed fun _ => signless,
        Text.takeWhile_append all ends.not_isDigit, Text.dropWhile_append all ends.not_isDigit,
        isMark, counts]
      rfl

theorem splitExponent_eq {exponent : Text} (cut : splitExponent s = (exponent, rest))
    : s = exponent ++ rest ∧ IsExponent exponent := by
  cases s with
  | nil =>
      cases cut
      exact ⟨rfl, .absent⟩
  | cons mark behind =>
      obtain ⟨sign, digits, rfl, signed, signless⟩ := exists_sign behind
      rw [splitExponent_sign signed signless] at cut
      split at cut
      · rename_i counts
        cases cut
        simp only [Bool.and_eq_true, Bool.or_eq_true, beq_iff_eq, Option.any_eq_true] at counts
        obtain ⟨marked, first, head, digit⟩ := counts
        obtain ⟨more, rfl⟩ := List.head?_eq_some_iff.mp head
        refine ⟨?_, .present marked signed (fun c => Text.of_mem_takeWhile) ?_⟩
        · rw [List.cons_append, List.cons_append, List.append_assoc,
            List.takeWhile_append_dropWhile]
        · simp [digit]
      · cases cut
        exact ⟨rfl, .absent⟩

-----------------------------------------------------------------------------------------
-- Numbers with their values
-----------------------------------------------------------------------------------------

theorem IsCoefficient.head {coefficient : Text} (valid : IsCoefficient coefficient)
    : ∃ c more, coefficient = c :: more ∧ (c.isDigit = true ∨ c = '.') := by
  cases valid with
  | @whole digits all nonempty =>
      obtain ⟨first, more, rfl⟩ := List.exists_cons_of_ne_nil nonempty
      exact ⟨first, more, rfl, .inl (all first (by simp))⟩
  | @pointed digits places all all' nonempty =>
      cases digits with
      | nil => exact ⟨'.', places, rfl, .inr rfl⟩
      | cons first more => exact ⟨first, _, rfl, .inl (all first (by simp))⟩

theorem IsDecimal.head (decimal : IsDecimal word)
    : ∃ c more, word = c :: more ∧ (c.isDigit = true ∨ c = '.') := by
  obtain ⟨coefficient, exponent, valid, -, rfl⟩ := decimal
  obtain ⟨c, more, rfl, first⟩ := valid.head
  exact ⟨c, more ++ exponent, rfl, first⟩

theorem ne_sign_of_first {c : Char} (first : c.isDigit = true ∨ c = '.') : c ≠ '+' ∧ c ≠ '-' := by
  constructor
  · rintro rfl
    simp at first
  · rintro rfl
    simp at first

theorem splitSign_append {sign digits : Text} (signed : sign ∈ [[], ['+'], ['-']])
    (signless : sign = [] → digits.head? ≠ some '+' ∧ digits.head? ≠ some '-')
    : Number.Literal.splitSign (sign ++ digits) = (sign == ['-'], digits) := by
  simp only [List.mem_cons, List.not_mem_nil, or_false] at signed
  rcases signed with rfl | rfl | rfl
  · obtain ⟨plus, minus⟩ := signless rfl
    rw [List.nil_append, Number.Literal.splitSign]
    · rfl
    · rintro rest rfl
      exact minus rfl
    · rintro rest rfl
      exact plus rfl
  · rfl
  · rfl

/-- A sign is taken off from in front of digits, and nothing else is. -/
theorem splitSign_of_first {c : Char} {sign : Text} (first : c.isDigit = true ∨ c = '.')
    (signed : sign ∈ [[], ['+'], ['-']])
    : Number.Literal.splitSign (sign ++ c :: s) = (sign == ['-'], c :: s) := by
  obtain ⟨plus, minus⟩ := ne_sign_of_first first
  exact splitSign_append signed fun _ => by simp [plus, minus]

/-- A number has no sign, so that its value is its magnitude. -/
theorem IsDecimal.read?_eq (decimal : IsDecimal word)
    : Number.Literal.read? word = Number.Literal.magnitude? word := by
  obtain ⟨c, more, rfl, first⟩ := decimal.head
  have signless : Number.Literal.splitSign (c :: more) = (false, c :: more) :=
    splitSign_of_first first (by simp : [] ∈ [[], ['+'], ['-']])
  simp only [Number.Literal.read?, signless]
  cases Number.Literal.magnitude? (c :: more) <;> rfl

theorem IsExponent.exists_value {exponent : Text} (valid : IsExponent exponent)
    : ∃ places, Number.Literal.exponent? exponent = some places := by
  cases valid with
  | absent => exact ⟨0, rfl⟩
  | @present mark sign digits marked signed all nonempty =>
      have isMark : (mark == 'e' || mark == 'E') = true := by simpa using marked
      have counts : digits.all Char.isDigit = true := List.all_eq_true.mpr all
      obtain ⟨first, more, rfl⟩ := List.exists_cons_of_ne_nil nonempty
      have split := splitSign_of_first (s := more) (.inl (all first (by simp))) signed
      simp only [List.cons_append, Number.Literal.exponent?, split, isMark, counts]
      exact ⟨_, rfl⟩

/-- Neither a digit nor a point comes next, at an exponent or where there is none. -/
theorem IsExponent.ends_coefficient {exponent : Text} (valid : IsExponent exponent)
    (ends : EndsWord rest)
    : (∀ c ∈ (exponent ++ rest).head?, c.isDigit = false)
      ∧ (exponent ++ rest).head? ≠ some '.' := by
  cases valid with
  | absent => exact ⟨ends.not_isDigit, fun next => (ends '.' next).2 rfl⟩
  | present marked =>
      constructor
      · intro c next
        cases next
        exact not_isDigit_of_mark marked
      · intro h
        cases h
        simp at marked

/-- Every number has a value, so that none is refused. -/
theorem IsDecimal.exists_value (decimal : IsDecimal word)
    : ∃ value, Number.Literal.read? word = some value := by
  rw [decimal.read?_eq]
  obtain ⟨coefficient, exponent, valid, valid', rfl⟩ := decimal
  obtain ⟨places, read⟩ := valid'.exists_value
  have ends : EndsWord [] := by simp [EndsWord]
  obtain ⟨digit, point⟩ := valid'.ends_coefficient ends
  rw [List.append_nil] at digit point
  unfold Number.Literal.magnitude?
  split
  · exact ⟨_, rfl⟩
  · exact ⟨_, rfl⟩
  · exact ⟨_, rfl⟩
  · cases valid with
    | whole all nonempty =>
        simp only [Text.takeWhile_append all digit, Text.dropWhile_append all digit]
        split
        · simp at point
        · simp only [List.isEmpty_eq_false_iff.mpr nonempty, Bool.false_and, read]
          exact ⟨_, rfl⟩
    | @pointed digits places all all' nonempty =>
        have notDigit : ∀ c ∈ ('.' :: (places ++ exponent)).head?, c.isDigit = false := by
          intro c next
          cases next
          rfl
        have least : (digits.isEmpty && places.isEmpty) = false := by
          rcases nonempty with held | held <;> simp [held]
        simp only [List.append_assoc, List.cons_append, Text.takeWhile_append all notDigit,
          Text.dropWhile_append all notDigit, Text.takeWhile_append all' digit,
          Text.dropWhile_append all' digit, least, read]
        exact ⟨_, rfl⟩

/-- A number is cut off whole where the word ends. -/
theorem splitNumber?_append {value : Float} (decimal : IsDecimal word)
    (read : Number.Literal.read? word = some value) (ends : EndsWord rest)
    : splitNumber? (word ++ rest) = some (value, rest) := by
  rw [decimal.read?_eq] at read
  obtain ⟨coefficient, exponent, valid, valid', rfl⟩ := decimal
  obtain ⟨digit, point⟩ := valid'.ends_coefficient ends
  simp only [splitNumber?, List.append_assoc, splitDigits?_append valid digit point,
    splitExponent_append valid' ends, Option.bind_eq_bind, Option.bind_some, read]
  rfl

/-- What is cut off as a number is one, with its value. -/
theorem splitNumber?_eq_some {value : Float} (cut : splitNumber? s = some (value, rest))
    : ∃ word, s = word ++ rest ∧ IsDecimal word ∧ Number.Literal.read? word = some value := by
  obtain ⟨⟨coefficient, behind⟩, first, next⟩ := Option.bind_eq_some_iff.mp cut
  obtain ⟨rfl, valid⟩ := splitDigits?_eq_some first
  cases second : splitExponent behind with
  | mk exponent after =>
      obtain ⟨rfl, valid'⟩ := splitExponent_eq second
      simp only [second, Option.bind_eq_bind, Option.bind_eq_some_iff, Option.pure_def,
        Option.some.injEq, Prod.mk.injEq] at next
      obtain ⟨_, read, rfl, rfl⟩ := next
      have decimal : IsDecimal (coefficient ++ exponent) := ⟨_, _, valid, valid', rfl⟩
      exact ⟨_, (List.append_assoc ..).symm, decimal, decimal.read?_eq.trans read⟩

theorem splitNumber?_eq_none {c : Char} (digit : c.isDigit = false) (point : c ≠ '.')
    : splitNumber? (c :: s) = none := by
  cases cut : splitNumber? (c :: s) with
  | none => rfl
  | some found =>
      obtain ⟨word, whole, decimal, -⟩ := splitNumber?_eq_some cut
      obtain ⟨d, more, rfl, first⟩ := decimal.head
      cases whole
      simp [digit, point] at first

end LatexFigures.Expr.Token
