import LatexFigures.Proofs.Expr.Parser.Soundness
import LatexFigures.Proofs.Expr.Words

/-! Compiling a text and writing an expression are inverse to each other: a text compiles to the
expressions that it renders, as far as those respect the arities, and it renders at most one.
-/

namespace LatexFigures.Expr

-----------------------------------------------------------------------------------------
-- Words of an expression may follow each other
-----------------------------------------------------------------------------------------

/-- The words may follow each other, and so may any operators around them and these words. -/
structure Neat (ts : List Token) : Prop where
  head : ∃ first more, ts = first :: more ∧ first ≠ .times ∧ first ≠ .power
  last : ∃ more final, ts = more ++ [final] ∧ final ≠ .times
  chain : ts.IsChain Token.Apart

namespace Neat

variable {ts us : List Token} {t : Token}

theorem single (times : t ≠ .times) (power : t ≠ .power) : Neat [t] :=
  ⟨⟨t, [], rfl, times, power⟩, ⟨[], t, rfl, times⟩, List.isChain_singleton t⟩

/-- Words that are neither numbers nor names join neat words. -/
theorem join (first : Neat ts) (second : Neat us) (mark : t.isWord = false)
    : Neat (ts ++ t :: us) := by
  obtain ⟨before, final, rfl, notTimes⟩ := first.last
  obtain ⟨head, behind, rfl, times, power⟩ := second.head
  obtain ⟨middle, last, same, notTimes'⟩ := second.last
  constructor
  · obtain ⟨start, more, same, free⟩ := first.head
    exact ⟨start, more ++ t :: head :: behind, by rw [same, List.cons_append], free⟩
  · exact ⟨before ++ [final] ++ t :: middle, last, by simp [same], notTimes'⟩
  · refine List.isChain_append.mpr ⟨first.chain, ?_, ?_⟩
    · refine List.isChain_cons.mpr ⟨?_, second.chain⟩
      intro y next
      cases next
      exact ⟨by simp [mark], by simp [times, power]⟩
    · rintro x final y ⟨⟩
      simp only [List.getLast?_append, List.getLast?_singleton, Option.some_or,
        Option.mem_def, Option.some.injEq] at final
      subst final
      exact ⟨by simp [mark], by simp [notTimes]⟩

/-- A word that may precede neat words makes neat words with them. -/
theorem cons (behind : Neat ts) (times : t ≠ .times) (power : t ≠ .power)
    (apart : ∀ next ∈ ts.head?, t.Apart next)
    : Neat (t :: ts) := by
  obtain ⟨more, final, rfl, notTimes⟩ := behind.last
  exact ⟨⟨t, _, rfl, times, power⟩, ⟨t :: more, final, rfl, notTimes⟩,
    List.isChain_cons.mpr ⟨apart, behind.chain⟩⟩

theorem cons_mark (behind : Neat ts) (times : t ≠ .times) (power : t ≠ .power)
    (mark : t.isWord = false)
    : Neat (t :: ts) :=
  behind.cons times power fun _ _ => ⟨by simp [mark], by simp [times]⟩

theorem grouped (inner : Neat ts) : Neat (.opening :: ts ++ [.closing]) := by
  obtain ⟨first, more, same, times, power⟩ := inner.head
  refine cons_mark (t := .opening) ⟨?_, ⟨ts, .closing, rfl, by simp⟩, ?_⟩ (by simp) (by simp) rfl
  · exact ⟨first, more ++ [.closing], by rw [same]; rfl, times, power⟩
  · refine List.isChain_append.mpr ⟨inner.chain, List.isChain_singleton _, ?_⟩
    rintro x - y ⟨⟩
    exact ⟨by simp [Token.isWord], by simp⟩

/-- Neat words between commas are neat, by induction on their number. -/
theorem intercalate {first : List Token} {more : List (List Token)}
    (each : ∀ group ∈ first :: more, Neat group)
    : Neat ([Token.comma].intercalate (first :: more)) := by
  induction more generalizing first with
  | nil =>
      rw [List.intercalate_singleton]
      exact each first (by simp)
  | cons next more ih =>
      rw [List.intercalate_cons_cons, List.append_assoc]
      exact (each first (by simp)).join (ih fun group member => each group (by simp [member])) rfl

theorem call {callee : String} {groups : List (List Token)}
    (each : ∀ group ∈ groups, Neat group)
    : Neat (.name callee :: .opening :: [Token.comma].intercalate groups ++ [.closing]) := by
  have brackets : Neat (.opening :: [Token.comma].intercalate groups ++ [.closing]) := by
    cases groups with
    | nil => exact (single (t := .closing) (by simp) (by simp)).cons_mark (by simp) (by simp) rfl
    | cons first more => exact (intercalate each).grouped
  refine brackets.cons (by simp) (by simp) ?_
  intro y next
  cases next
  exact ⟨by simp [Token.isWord], by simp⟩

end Neat

/-- The words of a term are neat, by induction on the derivation. -/
theorem Forms.neat {level : Level} {ts : List Token} {term : Term} (forms : Forms level ts term)
    : Neat ts := by
  induction forms with
  | number value => exact .single (by simp) (by simp)
  | name text => exact .single (by simp) (by simp)
  | call callee given each ih =>
      refine .call fun group member => ?_
      obtain ⟨argument, inside, rfl⟩ := List.mem_map.mp member
      exact ih argument inside
  | grouped inner ih => exact ih.grouped
  | base bare ih => exact ih
  | raised first second ih ih' => exact ih.join ih' rfl
  | unsigned bare ih => exact ih
  | signed op behind ih =>
      cases op with
      | neg => exact ih.cons_mark (by simp [UnaryOp.token]) (by simp [UnaryOp.token]) rfl
      | pos => exact ih.cons_mark (by simp [UnaryOp.token]) (by simp [UnaryOp.token]) rfl
  | factor only ih => exact ih
  | @multiplied _ _ op _ _ binds first second ih ih' =>
      exact ih.join ih' (by cases op <;> rfl)
  | summand only ih => exact ih
  | @added _ _ op _ _ binds first second ih ih' =>
      exact ih.join ih' (by cases op <;> rfl)

theorem Writes.neat {level : Level} {ts : List Token} {e : Expr} (writes : Writes level ts e)
    : Neat ts := by
  obtain ⟨term, -, forms⟩ := writes.forms
  exact forms.neat

-----------------------------------------------------------------------------------------
-- Texts
-----------------------------------------------------------------------------------------

/-- A text is read as the terms that its words form. -/
theorem Term.read?_eq_some_iff {s : Text} {term : Term}
    : Term.read? s = some term ↔ ∃ ts, Token.Spelled ts s ∧ Forms .sum ts term := by
  simp only [Term.read?, Option.bind_eq_some_iff, ofTokens?_eq_some_iff]
  constructor
  · intro h
    obtain ⟨ts, words, forms⟩ := h
    exact ⟨ts, Token.spelled_of_readUpTo? words, forms⟩
  · intro h
    obtain ⟨ts, spelled, forms⟩ := h
    exact ⟨ts, (Token.readAll?_eq_some_iff forms.neat.chain).mpr spelled, forms⟩

/-- The text writes the expression: its words do, as a sum. -/
def Renders (s : Text) (e : Expr) : Prop := ∃ ts, Token.Spelled ts s ∧ Writes .sum ts e

/-- A text renders the expressions of the term that it is read as. -/
theorem renders_iff {s : Text} {e : Expr}
    : Renders s e ↔ ∃ term, Term.read? s = some term ∧ term.named? = some e := by
  simp only [Renders, writes_iff_forms, Term.read?_eq_some_iff]
  constructor
  · intro h
    obtain ⟨ts, spelled, term, named, forms⟩ := h
    exact ⟨term, ⟨ts, spelled, forms⟩, named⟩
  · intro h
    obtain ⟨term, ⟨ts, spelled, forms⟩, named⟩ := h
    exact ⟨ts, spelled, term, named, forms⟩

theorem compile_eq_ok_iff {s : Text} {e : Expr}
    : compile s = .ok e ↔ e.RespectsArities ∧ Renders s e := by
  rw [renders_iff, compile]
  cases Term.read? s with
  | none => simp
  | some term => simp [Term.resolve_eq_ok_iff, and_comm]

/-- Every decimal renders a number. -/
theorem exists_renders_of_isDecimal {s : Text} (decimal : Token.IsDecimal s)
    : ∃ value, Renders s (.number value) := by
  obtain ⟨value, read⟩ := decimal.exists_value
  have spells : Token.Spells (.number value) s := .number decimal read
  exact ⟨value, _, spells.spelled, .summand (.factor (.unsigned (.base (.number value))))⟩

/-- Compiling accepts exactly the renderings of expressions whose calls respect the arities, and
gives the expression that is rendered; no text renders two, whatever the arities.
-/
theorem compile_eq_ok_iff_renders (s : Text)
    : (∀ e, compile s = .ok e ↔ e.RespectsArities ∧ Renders s e)
      ∧ ∀ e e', Renders s e → Renders s e' → e = e' := by
  constructor
  · exact fun e => compile_eq_ok_iff
  · intro e e' renders renders'
    obtain ⟨term, read, named⟩ := renders_iff.mp renders
    obtain ⟨term', read', named'⟩ := renders_iff.mp renders'
    cases read.symm.trans read'
    exact Option.some.inj (named.symm.trans named')

end LatexFigures.Expr
