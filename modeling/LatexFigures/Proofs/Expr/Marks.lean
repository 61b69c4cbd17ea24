import LatexFigures.Proofs.Expr.Rendering

/-! The characters of an expression. Parentheses and commas stand for words of their own, so that
they cut the words of a text where they cut the text; a comma needs a parenthesis behind it; and
blanks around an expression do not matter.
-/

namespace LatexFigures.Expr

namespace Token

variable {s word front back : Text} {token : Token} {ts us : List Token}

-----------------------------------------------------------------------------------------
-- Characters of words
-----------------------------------------------------------------------------------------

theorem IsCoefficient.isWordChar {coefficient : Text} (valid : IsCoefficient coefficient)
    : ∀ c ∈ coefficient, IsWordChar c := by
  intro c inside
  cases valid with
  | whole all => exact .of_isDigit (all c inside)
  | pointed all all' =>
      simp only [List.mem_append, List.mem_cons] at inside
      rcases inside with digit | point | place
      · exact .of_isDigit (all c digit)
      · exact .inr point
      · exact .of_isDigit (all' c place)

/-- The characters of all words that are neither numbers nor names. -/
def operators : Text := ['+', '-', '*', '/', '%', '^', '(', ')', ',']

/-- Only a power of ten has a sign inside a word. -/
theorem IsDecimal.mem (decimal : IsDecimal word)
    : ∀ c ∈ word, IsWordChar c ∨ c = '+' ∨ c = '-' := by
  obtain ⟨coefficient, exponent, valid, power, rfl⟩ := decimal
  intro c inside
  rcases List.mem_append.mp inside with inside | inside
  · exact .inl (valid.isWordChar c inside)
  · cases power with
    | absent => nomatch inside
    | @present mark sign digits marked signed all nonempty =>
        simp only [List.cons_append, List.mem_cons, List.mem_append] at inside
        rcases inside with rfl | signs | digit
        · rcases marked with rfl | rfl <;> exact .inl (.inl rfl)
        · simp only [List.mem_cons, List.not_mem_nil, or_false] at signed
          rcases signed with rfl | rfl | rfl <;> simp_all
        · exact .inl (.of_isDigit (all c digit))

/-- A number or a name holds characters of such words alone, but for signs. -/
theorem Spells.mem_of_isWord (spells : token.Spells word) (isWord : token.isWord = true)
    : ∀ c ∈ word, IsWordChar c ∨ c = '+' ∨ c = '-' := by
  cases spells with
  | number decimal => exact decimal.mem
  | name identifier => exact fun c inside => .inl (.inl (identifier.continues c inside))
  | path identifier =>
      intro c inside
      rcases List.mem_append.mp inside with shared | own
      · have ofPath : Token.path.all (fun c => continuesName c || c == '.') = true := by decide
        exact .inl (by simpa [IsWordChar] using List.all_eq_true.mp ofPath c shared)
      · exact .inl (.inl (identifier.continues c own))
  | _ => exact Bool.noConfusion isWord

theorem Spells.mem (spells : token.Spells word) : ∀ c ∈ word, IsWordChar c ∨ c ∈ operators := by
  intro c inside
  cases isWord : token.isWord with
  | true =>
      refine (spells.mem_of_isWord isWord c inside).imp_right fun sign => ?_
      rcases sign with rfl | rfl <;> decide
  | false =>
      cases spells with
      | number | name | path => exact Bool.noConfusion isWord
      | _ => exact .inr (by simp_all [operators])

/-- The characters of words lie between the point and the last letter. -/
theorem IsWordChar.toNat_le {c : Char} (h : IsWordChar c) : 46 ≤ c.toNat ∧ c.toNat ≤ 122 := by
  rcases h with continues | rfl
  · simp only [continuesName, Char.isAlphanum, Bool.or_eq_true, beq_iff_eq] at continues
    rcases continues with (letter | digit) | rfl
    · have range := toNat_of_isAlpha letter
      omega
    · have range : 48 ≤ c.toNat ∧ c.toNat ≤ 57 := Char.isDigit_iff_toNat.mp digit
      omega
    · decide
  · decide

/-- A blank is a control character, a space, or no ASCII character. -/
theorem toNat_of_isBlank {c : Char} (blank : Text.isBlank c = true)
    : c.toNat ≤ 32 ∨ 133 ≤ c.toNat := by
  have size : c.toNat = c.val.toNat := rfl
  have bounds : '\r'.val.toNat = 13 ∧ '\u2000'.val.toNat = 8192 := ⟨rfl, rfl⟩
  simp only [Text.isBlank, Bool.or_eq_true, Bool.and_eq_true, decide_eq_true_eq, beq_iff_eq,
    Char.le_def, UInt32.le_iff_toNat_le, or_assoc] at blank
  rcases blank with control | rfl | rfl | rfl | rfl | wide | rfl | rfl | rfl | rfl | rfl
  · omega
  any_goals decide
  · omega

/-- No word holds a blank or a backslash. -/
theorem Spells.not_mem_of_isBlank {c : Char} (spells : token.Spells word)
    (other : Text.isBlank c = true ∨ c = '\\')
    : c ∉ word := by
  intro inside
  rcases spells.mem c inside with wordChar | operator
  · have range := wordChar.toNat_le
    rcases other with blank | rfl
    · have outside := toNat_of_isBlank blank
      omega
    · rcases wordChar with continues | point
      · exact absurd continues (by decide)
      · exact absurd point (by decide)
  · have apart : operators.all (fun c => !Text.isBlank c && c != '\\') = true := by decide
    obtain ⟨blank, backslash⟩ : Text.isBlank c = false ∧ c ≠ '\\' := by
      simpa using List.all_eq_true.mp apart c operator
    rcases other with same | same
    · exact absurd (same.symm.trans blank) (by decide)
    · exact backslash same

theorem isBlank_of_isSpacing {c : Char} (spacing : isSpacing c = true) : Text.isBlank c = true := by
  simp only [isSpacing, Bool.or_eq_true, beq_iff_eq, or_assoc] at spacing
  rcases spacing with rfl | rfl | rfl | rfl <;> decide

-----------------------------------------------------------------------------------------
-- Texts and their words
-----------------------------------------------------------------------------------------

/-- No text of words holds a backslash. -/
theorem Spelled.backslash_not_mem (spelled : Spelled ts s) : '\\' ∉ s := by
  have blanks {blanks : Text} (spacing : ∀ c ∈ blanks, isSpacing c = true) : '\\' ∉ blanks :=
    fun inside => absurd (spacing _ inside) (by decide)
  induction spelled with
  | last spacing => exact blanks spacing
  | next spacing spells more ih =>
      simp only [List.mem_append, not_or]
      exact ⟨⟨blanks spacing, spells.not_mem_of_isBlank (.inr rfl)⟩, ih⟩

theorem Spelled.eq_nil (spelled : Spelled ts []) : ts = [] := by
  generalize none : ([] : Text) = s at spelled
  cases spelled with
  | last => rfl
  | next spacing spells more =>
      obtain ⟨c, behind, rfl, -⟩ := spells.head
      simp at none

theorem Spelled.blanks {blanks : Text} (spacing : ∀ c ∈ blanks, isSpacing c = true)
    (spelled : Spelled ts s)
    : Spelled ts (blanks ++ s) := by
  induction blanks with
  | nil => exact spelled
  | cons c blanks ih =>
      obtain ⟨first, others⟩ := List.forall_mem_cons.mp spacing
      exact (ih others).blank first

/-- Texts of words make a text of all their words, by induction on the words of the first one. -/
theorem Spelled.append (first : Spelled ts s) (second : Spelled us back)
    : Spelled (ts ++ us) (s ++ back) := by
  induction first with
  | last spacing => exact second.blanks spacing
  | next spacing spells more ih =>
      rw [List.cons_append, List.append_assoc]
      exact .next spacing spells ih

theorem Spelled.append_blanks {blanks : Text} (spelled : Spelled ts s)
    (spacing : ∀ c ∈ blanks, isSpacing c = true)
    : Spelled ts (s ++ blanks) := by
  have all := spelled.append (.last spacing)
  rwa [List.append_nil] at all

theorem Spelled.isSpacing_of_nil (spelled : Spelled [] s) : ∀ c ∈ s, isSpacing c = true := by
  cases spelled with
  | last spacing => exact spacing

theorem Spelled.exists_of_cons (spelled : Spelled (token :: ts) s)
    : ∃ blanks word rest, s = blanks ++ word ++ rest
      ∧ (∀ c ∈ blanks, isSpacing c = true)
      ∧ token.Spells word
      ∧ Spelled ts rest := by
  cases spelled with
  | next spacing spells more => exact ⟨_, _, _, rfl, spacing, spells, more⟩

/-- The text of some words and others behind them is cut between these, by induction on the first
words.
-/
theorem Spelled.exists_of_append (spelled : Spelled (ts ++ us) s)
    : ∃ front back, s = front ++ back ∧ Spelled ts front ∧ Spelled us back := by
  induction ts generalizing s with
  | nil => exact ⟨[], s, rfl, .last (by simp), spelled⟩
  | cons t ts ih =>
      obtain ⟨blanks, word, rest, rfl, spacing, spells, more⟩ := spelled.exists_of_cons
      obtain ⟨front, back, rfl, first, second⟩ := ih more
      exact ⟨blanks ++ word ++ front, back, by simp, .next spacing spells first, second⟩

theorem Spelled.dropWhile_isBlank (spelled : Spelled ts s)
    : Spelled ts (s.dropWhile Text.isBlank) := by
  cases spelled with
  | last spacing => exact .last fun c inside => spacing c ((List.dropWhile_sublist _).mem inside)
  | @next blanks word token ts s spacing spells more =>
      obtain ⟨c, behind, rfl, -⟩ := spells.head
      have blank : ∀ d ∈ blanks, Text.isBlank d = true := fun d inside =>
        isBlank_of_isSpacing (spacing d inside)
      have first : Text.isBlank c = false := Bool.eq_false_iff.mpr fun blank =>
        spells.not_mem_of_isBlank (.inl blank) List.mem_cons_self
      have cut : (blanks ++ c :: behind ++ s).dropWhile Text.isBlank = [] ++ c :: behind ++ s := by
        rw [List.append_assoc, List.dropWhile_append_of_pos blank]
        simp [first]
      rw [cut]
      exact .next (by simp) spells more

theorem Spelled.dropEndWhile_isBlank (spelled : Spelled ts s)
    : Spelled ts (Text.dropEndWhile Text.isBlank s) := by
  induction spelled with
  | last spacing => exact .last fun c inside => spacing c (Text.mem_of_mem_dropEndWhile inside)
  | @next blanks word token ts s spacing spells more ih =>
      have final : ∀ c ∈ (blanks ++ word).getLast?, Text.isBlank c = false := by
        intro c last
        obtain ⟨d, behind, rfl, -⟩ := spells.head
        have inside : c ∈ d :: behind := by
          rw [List.getLast?_append_of_ne_nil _ (List.cons_ne_nil d behind)] at last
          exact List.mem_of_getLast? last
        exact Bool.eq_false_iff.mpr fun blank => spells.not_mem_of_isBlank (.inl blank) inside
      rw [Text.dropEndWhile_append final]
      exact .next spacing spells ih

/-- Blanks around words are no part of them. -/
theorem Spelled.trim (spelled : Spelled ts s) : Spelled ts s.trim :=
  spelled.dropWhile_isBlank.dropEndWhile_isBlank

/-- Characters that stand for a word each, and in no other word. -/
def marks : List (Char × Token) := [('(', .opening), (')', .closing), (',', .comma)]

variable {mark : Char}

theorem Spells.eq_of_mark (spells : token.Spells word) {t : Token} (isMark : (mark, t) ∈ marks)
    (inside : mark ∈ word)
    : token = t ∧ word = [mark] := by
  cases isWord : token.isWord with
  | true =>
      have apart : ∀ m ∈ marks, continuesName m.1 = false ∧ m.1 ∉ ['.', '+', '-'] := by decide
      obtain ⟨name, others⟩ := apart _ isMark
      have among := spells.mem_of_isWord isWord mark inside
      simp_all [IsWordChar]
  | false =>
      cases spells with
      | number | name | path => exact Bool.noConfusion isWord
      | _ => simp_all [marks]

theorem Spells.mem_of_mark (spells : token.Spells word) (isMark : (mark, token) ∈ marks)
    : mark ∈ word := by
  cases spells <;> simp_all [marks]

/-- The text of words that begin with a mark: blanks, the mark, and the text of the others. -/
theorem Spelled.exists_of_mark (spelled : Spelled (token :: ts) s)
    (isMark : (mark, token) ∈ marks)
    : ∃ blanks rest, s = blanks ++ mark :: rest
      ∧ (∀ c ∈ blanks, isSpacing c = true)
      ∧ Spelled ts rest := by
  obtain ⟨blanks, word, rest, rfl, spacing, spells, more⟩ := spelled.exists_of_cons
  obtain ⟨-, rfl⟩ := spells.eq_of_mark isMark (spells.mem_of_mark isMark)
  exact ⟨blanks, rest, by simp, spacing, more⟩

theorem not_isSpacing_of_mark (isMark : (mark, token) ∈ marks) : isSpacing mark = false := by
  have other : ∀ m ∈ marks, isSpacing m.1 = false := by decide
  exact other _ isMark

/-- A mark in a word, with blanks in front of it, is the whole word. -/
theorem Spells.append_eq_of_mark {blanks rest : Text} {t : Token} (spells : token.Spells word)
    (spacing : ∀ c ∈ blanks, isSpacing c = true) (isMark : (mark, t) ∈ marks)
    (whole : blanks ++ word = front ++ mark :: rest)
    : token = t ∧ front = blanks ∧ rest = [] := by
  have notBlank : mark ∉ blanks := fun inside => by
    simpa [not_isSpacing_of_mark isMark] using spacing mark inside
  have inside : mark ∈ blanks ++ word := by simp [whole]
  obtain ⟨rfl, rfl⟩ :=
    spells.eq_of_mark isMark ((List.mem_append.mp inside).resolve_left notBlank)
  rcases List.eq_nil_or_concat rest with rfl | ⟨inner, last, rfl⟩
  · exact ⟨rfl, (List.append_inj' whole rfl).1.symm, rfl⟩
  · rw [List.concat_eq_append, ← List.cons_append, ← List.append_assoc] at whole
    exact absurd (by simp [(List.append_inj' whole rfl).1]) notBlank

/-- A mark cuts the words of a text where it cuts the text, by induction on the words. -/
theorem Spelled.split (spelled : Spelled ts (front ++ mark :: back))
    (isMark : (mark, token) ∈ marks)
    : ∃ before after,
        ts = before ++ token :: after ∧ Spelled before front ∧ Spelled after back := by
  generalize whole : front ++ mark :: back = s at spelled
  induction spelled generalizing front with
  | last spacing =>
      have blank := spacing mark (by simp [← whole])
      simp [not_isSpacing_of_mark isMark] at blank
  | @next blanks word first ts s spacing spells more ih =>
      have behind (rest : Text) (same : rest ++ mark :: back = s)
          (start : front = blanks ++ word ++ rest)
          : ∃ before after,
              first :: ts = before ++ token :: after
              ∧ Spelled before front
              ∧ Spelled after back := by
        obtain ⟨before, after, rfl, middle, last⟩ := ih same
        exact ⟨first :: before, after, rfl, start ▸ .next spacing spells middle, last⟩
      rcases List.append_eq_append_iff.mp whole with ⟨rest, inWord, tail⟩ | ⟨rest, start, same⟩
      · cases rest with
        | nil => exact behind [] tail (by simpa using inWord.symm)
        | cons c rest =>
            obtain ⟨rfl, rfl⟩ := List.cons.inj tail
            obtain ⟨rfl, rfl, rfl⟩ := spells.append_eq_of_mark spacing isMark inWord
            exact ⟨[], ts, rfl, .last spacing, more⟩
      · exact behind rest same.symm start

theorem Spelled.mem_of_mark (spelled : Spelled ts s) (isMark : (mark, token) ∈ marks)
    (inside : token ∈ ts)
    : mark ∈ s := by
  induction spelled with
  | last => nomatch inside
  | next spacing spells more ih =>
      simp only [List.mem_append]
      rcases List.mem_cons.mp inside with rfl | later
      · exact .inl (.inr (spells.mem_of_mark isMark))
      · exact .inr (ih later)

end Token

-----------------------------------------------------------------------------------------
-- Words of expressions
-----------------------------------------------------------------------------------------

theorem unary_token_ne_mark (op : UnaryOp)
    : op.token ≠ .comma ∧ op.token ≠ .opening ∧ op.token ≠ .closing := by
  cases op <;> simp [UnaryOp.token]

theorem binary_token_ne_mark (op : BinaryOp)
    : op.token ≠ .comma ∧ op.token ≠ .opening ∧ op.token ≠ .closing := by
  cases op <;> simp [BinaryOp.token]

/-- Commas stand between the arguments of calls alone. -/
theorem Writes.closing_of_comma {level : Level} {ts : List Token} {e : Expr}
    (writes : Writes level ts e) (comma : .comma ∈ ts)
    : .closing ∈ ts := by
  have join {ts us : List Token} {t : Token} (first : .comma ∈ ts → .closing ∈ ts)
      (second : .comma ∈ us → .closing ∈ us) (other : t ≠ .comma) (comma : .comma ∈ ts ++ t :: us)
      : .closing ∈ ts ++ t :: us := by
    simp only [List.mem_append, List.mem_cons, Ne.symm other, false_or] at comma ⊢
    exact comma.imp first fun inside => .inr (second inside)
  induction writes with
  | number | name => simp at comma
  | call | grouped => simp
  | base bare ih => exact ih comma
  | raised first second ih ih' => exact join ih ih' (by simp) comma
  | unsigned bare ih => exact ih comma
  | signed op behind ih =>
      exact List.mem_cons_of_mem _
        (ih ((List.mem_cons.mp comma).resolve_left (unary_token_ne_mark op).1.symm))
  | factor only ih => exact ih comma
  | multiplied binds first second ih ih' => exact join ih ih' (binary_token_ne_mark _).1 comma
  | summand only ih => exact ih comma
  | added binds first second ih ih' => exact join ih ih' (binary_token_ne_mark _).1 comma

namespace Token

/-- The second word does not open a parenthesis directly behind a closed one. -/
def Continues (first second : Token) : Prop := ¬ (first = .closing ∧ second = .opening)

variable {ts us : List Token} {t : Token}

theorem isChain_cons (apart : t ≠ .closing) (behind : ts.IsChain Continues)
    : (t :: ts).IsChain Continues :=
  List.isChain_cons.mpr ⟨fun _ _ both => apart both.1, behind⟩

/-- Words join if the first one behind the joint does not open a parenthesis. -/
theorem isChain_append (first : ts.IsChain Continues) (second : us.IsChain Continues)
    (apart : us.head? ≠ some .opening)
    : (ts ++ us).IsChain Continues :=
  List.isChain_append.mpr ⟨first, second, fun _ _ _ next both => apart (both.2 ▸ next)⟩

theorem isChain_join (first : ts.IsChain Continues) (second : us.IsChain Continues)
    (inner : t ≠ .opening ∧ t ≠ .closing)
    : (ts ++ t :: us).IsChain Continues :=
  isChain_append first (isChain_cons inner.2 second) (by simpa using inner.1)

theorem isChain_intercalate {groups : List (List Token)}
    (each : ∀ group ∈ groups, group.IsChain Continues)
    : ([comma].intercalate groups).IsChain Continues := by
  cases groups with
  | nil => exact List.isChain_nil
  | cons first more =>
      induction more generalizing first with
      | nil =>
          rw [List.intercalate_singleton]
          exact each first (by simp)
      | cons next more ih =>
          rw [List.intercalate_cons_cons, List.append_assoc]
          exact isChain_join (each first (by simp))
            (ih next fun group inside => each group (List.mem_cons_of_mem _ inside)) (by simp)

theorem isChain_grouped (inner : ts.IsChain Continues)
    : (opening :: ts ++ [closing]).IsChain Continues :=
  isChain_append (isChain_cons (by simp) inner) (List.isChain_singleton _) (by simp)

/-- In the text of such words, too, no parenthesis opens directly behind a closed one. -/
theorem Spelled.head_ne_opening {front back : Text} (spelled : Spelled ts (front ++ ')' :: back))
    (chain : ts.IsChain Continues)
    : back.head? ≠ some '(' := by
  intro opens
  obtain ⟨back, rfl⟩ := List.head?_eq_some_iff.mp opens
  have closes : (')', closing) ∈ marks := by simp [marks]
  have opens : ('(', opening) ∈ marks := by simp [marks]
  obtain ⟨before, after, rfl, -, behind⟩ := spelled.split closes
  rw [← List.nil_append ('(' :: back)] at behind
  obtain ⟨between, after, rfl, nothing, -⟩ := behind.split opens
  obtain rfl := nothing.eq_nil
  have both := (List.isChain_append.mp chain).2.1
  exact (List.isChain_cons_cons.mp both).1 ⟨rfl, rfl⟩

end Token

/-- No parenthesis opens directly behind a closed one, by induction on the derivation. -/
theorem Writes.isChain_continues {level : Level} {ts : List Token} {e : Expr}
    (writes : Writes level ts e)
    : ts.IsChain Token.Continues := by
  induction writes with
  | number value => exact List.isChain_singleton _
  | name text => exact List.isChain_singleton _
  | call given named each ih =>
      refine Token.isChain_cons (by simp) (Token.isChain_grouped (Token.isChain_intercalate ?_))
      intro group member
      obtain ⟨argument, inside, rfl⟩ := List.mem_map.mp member
      exact ih argument inside
  | grouped inner ih => exact Token.isChain_grouped ih
  | base bare ih => exact ih
  | raised first second ih ih' => exact Token.isChain_join ih ih' (by simp)
  | unsigned bare ih => exact ih
  | signed op behind ih => exact Token.isChain_cons (unary_token_ne_mark op).2.2 ih
  | factor only ih => exact ih
  | multiplied binds first second ih ih' => exact Token.isChain_join ih ih' (binary_token_ne_mark _).2
  | summand only ih => exact ih
  | added binds first second ih ih' => exact Token.isChain_join ih ih' (binary_token_ne_mark _).2

-----------------------------------------------------------------------------------------
-- Texts of expressions
-----------------------------------------------------------------------------------------

variable {s : Text} {e : Expr}

/-- Blanks around an expression do not matter. -/
theorem compile_trim (accepted : compile s = .ok e) : compile s.trim = .ok e := by
  obtain ⟨arities, ts, spelled, writes⟩ := compile_eq_ok_iff.mp accepted
  exact compile_eq_ok_iff.mpr ⟨arities, ts, spelled.trim, writes⟩

theorem evaluateOr_trim (accepted : compile s = .ok e) (fallback : Float) (scope : Scope)
    : evaluateOr fallback s.trim scope = evaluateOr fallback s scope := by
  simp only [evaluateOr, evaluate, Text.trim_trim, accepted, compile_trim accepted]

theorem Renders.backslash_not_mem (renders : Renders s e) : '\\' ∉ s := by
  obtain ⟨ts, spelled, -⟩ := renders
  exact spelled.backslash_not_mem

/-- An expression with a comma has a call around it. -/
theorem Renders.closing_of_comma (renders : Renders s e) (comma : ',' ∈ s) : ')' ∈ s := by
  obtain ⟨ts, spelled, writes⟩ := renders
  obtain ⟨front, back, rfl⟩ := List.append_of_mem comma
  have isMark : (',', Token.comma) ∈ Token.marks := by simp [Token.marks]
  obtain ⟨before, after, rfl, -, -⟩ := spelled.split isMark
  exact spelled.mem_of_mark (by simp [Token.marks]) (writes.closing_of_comma (by simp))

end LatexFigures.Expr
