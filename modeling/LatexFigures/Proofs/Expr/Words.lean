import Mathlib.Data.List.Chain
import LatexFigures.Proofs.Expr.Decimal

/-! The words of a text. A text is its words with blanks around them, and reading it finds these
words as long as no two of them that touch could be one: numbers and names do not stand next to
each other, and neither do stars.
-/

namespace LatexFigures.Expr

namespace Token

/-- A name without a path. -/
def IsIdentifier (s : Text) : Prop :=
  ∃ c more, s = c :: more
    ∧ startsName c = true
    ∧ ∀ d ∈ more, continuesName d = true

/-- The word is written so. A name may have the path in front, and a power has two forms. -/
inductive Spells : Token → Text → Prop
  | number {word value} (decimal : IsDecimal word)
      (read : Number.Literal.read? word = some value)
    : Spells (.number value) word
  | name {text : String} (identifier : IsIdentifier text.toList) : Spells (.name text) text.toList
  | path {text : String} (identifier : IsIdentifier text.toList)
    : Spells (.name text) (path ++ text.toList)
  | plus : Spells .plus ['+']
  | minus : Spells .minus ['-']
  | times : Spells .times ['*']
  | dividedBy : Spells .dividedBy ['/']
  | modulo : Spells .modulo ['%']
  | caret : Spells .power ['^']
  | stars : Spells .power ['*', '*']
  | opening : Spells .opening ['(']
  | closing : Spells .closing [')']
  | comma : Spells .comma [',']

/-- The text is made of these words, with blanks before, between and behind them. -/
inductive Spelled : List Token → Text → Prop
  | last {blanks} (spacing : ∀ c ∈ blanks, isSpacing c = true) : Spelled [] blanks
  | next {blanks word token ts s} (spacing : ∀ c ∈ blanks, isSpacing c = true)
      (spells : token.Spells word) (more : Spelled ts s)
    : Spelled (token :: ts) (blanks ++ word ++ s)

/-- The word is a number or a name. -/
def isWord : Token → Bool
  | .number _ | .name _ => true
  | _ => false

/-- The second word may directly follow the first one. -/
def Apart (first second : Token) : Prop :=
  ¬ (first.isWord ∧ second.isWord)
  ∧ ¬ (first = .times ∧ (second = .times ∨ second = .power))

/-- Nothing follows that belongs to the word. -/
def Ends (token : Token) (rest : Text) : Prop :=
  (token.isWord → EndsWord rest) ∧ (token = .times → rest.head? ≠ some '*')

variable {s rest word : Text} {token : Token}

theorem EndsWord.not_continuesName (ends : EndsWord rest)
    : ∀ c ∈ rest.head?, continuesName c = false :=
  fun c next => (ends c next).1

theorem continuesName_of_startsName {c : Char} (starts : startsName c = true)
    : continuesName c = true := by
  simp only [startsName, continuesName, Char.isAlphanum, Bool.or_eq_true] at starts ⊢
  exact starts.imp_left .inl

theorem IsIdentifier.continues (identifier : IsIdentifier word)
    : ∀ c ∈ word, continuesName c = true := by
  obtain ⟨first, more, rfl, starts, continues⟩ := identifier
  intro c inside
  rcases List.mem_cons.mp inside with rfl | later
  · exact continuesName_of_startsName starts
  · exact continues c later

/-- Behind a path that may be there, an identifier is cut off whole where the word ends. -/
theorem splitName?_of_append (pathless : (Text.after? path s).getD s = word ++ rest)
    (identifier : IsIdentifier word) (ends : EndsWord rest)
    : splitName? s = some (word, rest) := by
  obtain ⟨first, more, rfl, starts, continues⟩ := identifier
  simp only [splitName?, pathless, List.cons_append, starts, if_true,
    Text.takeWhile_append continues ends.not_continuesName,
    Text.dropWhile_append continues ends.not_continuesName]

/-- No identifier begins with the path, as it would end at the point. -/
theorem not_path (identifier : IsIdentifier word) (ends : EndsWord rest)
    : Text.after? path (word ++ rest) = none := by
  rw [Text.after?_eq_none_iff]
  intro h
  obtain ⟨behind, whole⟩ := h
  -- without their first names one text goes on with the point and the other one with (rest)
  have left : (path ++ behind).dropWhile continuesName = '.' :: behind := rfl
  have right : (word ++ rest).dropWhile continuesName = rest :=
    Text.dropWhile_append identifier.continues ends.not_continuesName
  rw [whole, right] at left
  exact (ends '.' (by simp [left])).2 rfl

/-- A name is cut off whole where the word ends, without the path in front of it. -/
theorem splitName?_append (identifier : IsIdentifier word) (ends : EndsWord rest)
    : splitName? (word ++ rest) = some (word, rest)
      ∧ splitName? (path ++ word ++ rest) = some (word, rest) := by
  constructor
  · refine splitName?_of_append ?_ identifier ends
    rw [not_path identifier ends, Option.getD_none]
  · refine splitName?_of_append ?_ identifier ends
    rw [List.append_assoc, Text.after?_eq_some_iff.mpr rfl, Option.getD_some]

theorem splitName?_eq_some (cut : splitName? s = some (word, rest))
    : IsIdentifier word ∧ (s = word ++ rest ∨ s = path ++ word ++ rest) := by
  have front : (Text.after? path s).getD s = s
      ∨ s = path ++ (Text.after? path s).getD s := by
    cases found : Text.after? path s with
    | none => exact .inl rfl
    | some behind => exact .inr (Text.after?_eq_some_iff.mp found).symm
  unfold splitName? at cut
  split at cut
  · contradiction
  · rename_i c behind pathless
    split at cut
    · rename_i starts
      cases cut
      have whole : c :: behind
          = c :: behind.takeWhile continuesName ++ behind.dropWhile continuesName := by
        rw [List.cons_append, List.takeWhile_append_dropWhile]
      refine ⟨⟨c, _, rfl, starts, fun d => Text.of_mem_takeWhile⟩, ?_⟩
      rw [List.append_assoc, ← whole, ← pathless]
      exact front.imp_left Eq.symm
    · contradiction

-----------------------------------------------------------------------------------------
-- First characters
-----------------------------------------------------------------------------------------

/-- Begins or continues a number or a name. -/
def IsWordChar (c : Char) : Prop := continuesName c = true ∨ c = '.'

theorem IsWordChar.of_isDigit {c : Char} (digit : c.isDigit = true) : IsWordChar c :=
  .inl (by simp [continuesName, Char.isAlphanum, digit])

/-- No number or name holds a blank or the mark of an operator. -/
theorem IsWordChar.not_mem {c : Char} (h : IsWordChar c)
    : c ∉ [' ', '\t', '\r', '\n', '+', '-', '*', '/', '%', '^', '(', ')', ','] := by
  intro mark
  simp only [List.mem_cons, List.not_mem_nil, or_false] at mark
  rcases h with continues | rfl
  · rcases mark with rfl | rfl | rfl | rfl | rfl | rfl | rfl | rfl | rfl | rfl | rfl | rfl | rfl
      <;> exact absurd continues (by decide)
  · exact absurd mark (by decide)

/-- Numbers and names begin with characters of such words, other words with none. -/
theorem Spells.head (spells : token.Spells word)
    : ∃ c more, word = c :: more
      ∧ isSpacing c = false
      ∧ (token.isWord = true ↔ IsWordChar c)
      ∧ (c = '*' → token = .times ∨ token = .power) := by
  have ofWordChar {c : Char} (h : IsWordChar c) : isSpacing c = false ∧ c ≠ '*' := by
    have marks := h.not_mem
    simp only [List.mem_cons, not_or] at marks
    simp [isSpacing, marks]
  cases spells with
  | number decimal read =>
      obtain ⟨c, more, rfl, first⟩ := decimal.head
      have wordChar : IsWordChar c := first.elim .of_isDigit .inr
      obtain ⟨blank, star⟩ := ofWordChar wordChar
      exact ⟨c, more, rfl, blank, by simp [isWord, wordChar], fun h => absurd h star⟩
  | name identifier =>
      obtain ⟨c, more, same, starts, -⟩ := identifier
      have wordChar : IsWordChar c := .inl (continuesName_of_startsName starts)
      obtain ⟨blank, star⟩ := ofWordChar wordChar
      exact ⟨c, more, same, blank, by simp [isWord, wordChar], fun h => absurd h star⟩
  | @path text identifier =>
      have wordChar : IsWordChar 'M' := .inl rfl
      exact ⟨'M', 'a' :: 't' :: 'h' :: '.' :: text.toList, rfl, rfl,
        by simp [isWord, wordChar], by simp⟩
  | times | caret | stars => exact ⟨_, _, rfl, rfl, by simp [isWord, IsWordChar]; decide, by simp⟩
  | _ => exact ⟨_, _, rfl, rfl, by simp [isWord, IsWordChar]; decide, by simp⟩

theorem ends_of_isSpacing {c : Char} (blank : isSpacing c = true) : token.Ends (c :: rest) := by
  simp only [isSpacing, Bool.or_eq_true, beq_iff_eq] at blank
  constructor
  · rintro - d ⟨⟩
    rcases blank with ((rfl | rfl) | rfl) | rfl <;> decide
  · rintro - ⟨⟩
    simp at blank

/-- What follows a word ends it, if the words may follow each other. -/
theorem Spelled.ends {ts : List Token} (spelled : Spelled ts s)
    (apart : ∀ next ∈ ts.head?, token.Apart next)
    : token.Ends s := by
  cases spelled with
  | last spacing =>
      cases s with
      | nil => exact ⟨by simp [EndsWord], by simp⟩
      | cons c s => exact ends_of_isSpacing (spacing c (by simp))
  | @next blanks word next ts s spacing spells more =>
      cases blanks with
      | cons c blanks => exact ends_of_isSpacing (spacing c (by simp))
      | nil =>
          obtain ⟨c, behind, rfl, -, wordChar, star⟩ := spells.head
          obtain ⟨words, stars⟩ := apart next rfl
          constructor
          · rintro isWord d ⟨⟩
            have other : ¬ IsWordChar c := fun h => words ⟨isWord, wordChar.mpr h⟩
            simpa [IsWordChar] using other
          · intro isTimes next
            cases next
            exact stars ⟨isTimes, star rfl⟩

-----------------------------------------------------------------------------------------
-- Reading words
-----------------------------------------------------------------------------------------

/-- What begins like a number or a name is read as one. -/
theorem read?_of_isWordChar {c : Char} (h : IsWordChar c)
    : read? (c :: s)
      = match splitNumber? (c :: s) with
        | some (value, rest) => some (number value, rest)
        | none => (splitName? (c :: s)).map fun (text, rest) =>
            (name (String.ofList text), rest) := by
  have marks := h.not_mem
  rw [read?]
  all_goals first
    | rfl
    | rintro rest ⟨⟩
      simp at marks

/-- What begins with no digit and not with the point is read as a name if it is one. -/
theorem read?_of_splitName? {text : Text} {c : Char} (h : IsWordChar c)
    (digit : c.isDigit = false) (point : c ≠ '.')
    (cut : splitName? (c :: s) = some (text, rest))
    : read? (c :: s) = some (name (String.ofList text), rest) := by
  rw [read?_of_isWordChar h, splitNumber?_eq_none digit point]
  simp [cut]

theorem toNat_of_isAlpha {c : Char} (letter : c.isAlpha = true)
    : (65 ≤ c.toNat ∧ c.toNat ≤ 90) ∨ (97 ≤ c.toNat ∧ c.toNat ≤ 122) := by
  change (decide (65 ≤ c.toNat ∧ c.toNat ≤ 90)
    || (decide (97 ≤ c.toNat) && decide (c.toNat ≤ 122))) = true at letter
  simpa using letter

theorem not_isDigit_of_startsName {c : Char} (starts : startsName c = true)
    : c.isDigit = false := by
  cases digit : c.isDigit with
  | false => rfl
  | true =>
      obtain ⟨-, most⟩ : 48 ≤ c.toNat ∧ c.toNat ≤ 57 := Char.isDigit_iff_toNat.mp digit
      simp only [startsName, Bool.or_eq_true, beq_iff_eq] at starts
      rcases starts with letter | rfl
      · have range := toNat_of_isAlpha letter
        omega
      · simp at digit

/-- A word is read whole where it ends. -/
theorem read?_append (spells : token.Spells word) (ends : token.Ends rest)
    : read? (word ++ rest) = some (token, rest) := by
  cases spells with
  | number decimal read =>
      have cut := splitNumber?_append decimal read (ends.1 rfl)
      obtain ⟨c, more, rfl, first⟩ := decimal.head
      have wordChar : IsWordChar c := first.elim .of_isDigit .inr
      rw [List.cons_append] at cut ⊢
      rw [read?_of_isWordChar wordChar, cut]
  | @name text identifier =>
      have cut := (splitName?_append identifier (ends.1 rfl)).1
      obtain ⟨c, more, same, starts, -⟩ := identifier
      rw [same, List.cons_append] at cut ⊢
      rw [read?_of_splitName? (.inl (continuesName_of_startsName starts))
        (not_isDigit_of_startsName starts) (by rintro rfl; simp [startsName] at starts) cut,
        ← same, String.ofList_toList]
  | @path text identifier =>
      have cut := (splitName?_append identifier (ends.1 rfl)).2
      exact (read?_of_splitName? (c := 'M') (.inl rfl) rfl (by decide) cut).trans
        (by rw [String.ofList_toList])
  | times =>
      have star := ends.2 rfl
      rw [List.singleton_append, read?]
      rintro behind rfl
      exact star rfl
  | _ => rfl

theorem read?_eq_some (read : read? s = some (token, rest))
    : ∃ word, s = word ++ rest ∧ token.Spells word := by
  unfold read? at read
  split at read
  · cases read
    exact ⟨_, rfl, .plus⟩
  · cases read
    exact ⟨_, rfl, .minus⟩
  · cases read
    exact ⟨_, rfl, .stars⟩
  · cases read
    exact ⟨_, rfl, .times⟩
  · cases read
    exact ⟨_, rfl, .dividedBy⟩
  · cases read
    exact ⟨_, rfl, .modulo⟩
  · cases read
    exact ⟨_, rfl, .caret⟩
  · cases read
    exact ⟨_, rfl, .opening⟩
  · cases read
    exact ⟨_, rfl, .closing⟩
  · cases read
    exact ⟨_, rfl, .comma⟩
  · split at read
    · rename_i number
      cases read
      obtain ⟨word, whole, decimal, value⟩ := splitNumber?_eq_some number
      exact ⟨word, whole, .number decimal value⟩
    · obtain ⟨⟨text, behind⟩, cut, same⟩ := Option.map_eq_some_iff.mp read
      cases same
      obtain ⟨identifier, whole⟩ := splitName?_eq_some cut
      rw [← String.toList_ofList (l := text)] at identifier
      rcases whole with rfl | rfl
      · exact ⟨text, rfl, by simpa using Spells.name identifier⟩
      · exact ⟨path ++ text, rfl, by simpa using Spells.path identifier⟩

-----------------------------------------------------------------------------------------
-- Reading texts
-----------------------------------------------------------------------------------------

theorem readUpTo?_blanks {blanks : Text} (spacing : ∀ c ∈ blanks, isSpacing c = true)
    (fuel : Nat)
    : readAll?.readUpTo? (blanks.length + fuel) (blanks ++ s) = readAll?.readUpTo? fuel s := by
  induction blanks with
  | nil => simp
  | cons c blanks ih =>
      have more := ih fun d inside => spacing d (by simp [inside])
      have size : (c :: blanks).length + fuel = blanks.length + fuel + 1 := by
        simp only [List.length_cons]
        omega
      simp only [size, List.cons_append, readAll?.readUpTo?, spacing c (by simp), if_true, more]

/-- The words of a text are read if they may follow each other. By induction on the words. -/
theorem Spelled.readUpTo? {ts : List Token} {fuel : Nat} (spelled : Spelled ts s)
    (apart : ts.IsChain Apart) (enough : s.length ≤ fuel)
    : readAll?.readUpTo? fuel s = some ts := by
  induction spelled generalizing fuel with
  | @last blanks spacing =>
      obtain ⟨left, rfl⟩ := Nat.exists_eq_add_of_le enough
      have passed := readUpTo?_blanks (s := []) spacing left
      rw [List.append_nil] at passed
      rw [passed, readAll?.readUpTo?]
  | @next blanks word token ts s spacing spells more ih =>
      obtain ⟨follows, apart⟩ := List.isChain_cons.mp apart
      have read := read?_append spells (more.ends follows)
      obtain ⟨c, behind, rfl, blank, -⟩ := spells.head
      simp only [List.length_append, List.length_cons] at enough
      obtain ⟨left, rfl⟩ : ∃ left, fuel = blanks.length + (left + 1) :=
        ⟨fuel - blanks.length - 1, by omega⟩
      rw [List.append_assoc, readUpTo?_blanks spacing]
      rw [List.cons_append] at read ⊢
      simp only [readAll?.readUpTo?, blank, Bool.false_eq_true, if_false, read]
      rw [ih apart (by omega), Option.map_some]

theorem Spelled.blank {ts : List Token} {c : Char} (blank : isSpacing c = true)
    (spelled : Spelled ts s)
    : Spelled ts (c :: s) := by
  cases spelled with
  | last spacing => exact .last (by simpa using And.intro blank spacing)
  | @next blanks word _ _ _ spacing spells more =>
      have all : ∀ d ∈ c :: blanks, isSpacing d = true :=
        List.forall_mem_cons.mpr ⟨blank, spacing⟩
      exact .next all spells more

/-- A word in front of a text of words, without a blank between them. -/
theorem Spelled.cons {ts : List Token} (spells : token.Spells word) (spelled : Spelled ts s)
    : Spelled (token :: ts) (word ++ s) :=
  @Spelled.next [] word token ts s (by simp) spells spelled

theorem Spells.spelled (spells : token.Spells word) : Spelled [token] word := by
  have spelled := Spelled.cons spells (.last (by simp : ∀ c ∈ ([] : Text), isSpacing c = true))
  rwa [List.append_nil] at spelled

/-- The words that are read are those of the text, by induction on the fuel. -/
theorem spelled_of_readUpTo? {ts : List Token} {fuel : Nat}
    (read : readAll?.readUpTo? fuel s = some ts)
    : Spelled ts s := by
  induction fuel generalizing s ts with
  | zero =>
      cases s with
      | nil =>
          cases read
          exact .last (by simp)
      | cons c s => simp [readAll?.readUpTo?] at read
  | succ fuel ih =>
      cases s with
      | nil =>
          cases read
          exact .last (by simp)
      | cons c s =>
          unfold readAll?.readUpTo? at read
          split at read
          · rename_i blank
            exact (ih read).blank blank
          · split at read
            · rename_i token rest first
              obtain ⟨ts, more, rfl⟩ := Option.map_eq_some_iff.mp read
              obtain ⟨word, whole, spells⟩ := read?_eq_some first
              rw [whole]
              exact .cons spells (ih more)
            · contradiction

/-- The words of a text are those that are read, if they may follow each other. -/
theorem readAll?_eq_some_iff {ts : List Token} (apart : ts.IsChain Apart)
    : readAll? s = some ts ↔ Spelled ts s :=
  ⟨spelled_of_readUpTo?, fun spelled => spelled.readUpTo? apart (Nat.le_refl _)⟩

end Token

end LatexFigures.Expr
