import LatexFigures.Proofs.Rules.Replacing

/-! Fixed text and templates. With every dollar sign doubled a text refers to no group, and a rule
that takes it for a template inserts the text as it was, at every match; so a table of rules does
not show which of the two a rule was given.
-/

namespace LatexFigures

-----------------------------------------------------------------------------------------
-- Templates without references
-----------------------------------------------------------------------------------------

namespace TemplatePart

/-- Every dollar sign doubled. -/
def escape (s : Text) : Text := s.flatMap fun c => if c = '$' then ['$', '$'] else [c]

theorem escape_cons {c : Char} (other : c ≠ '$') (s : Text)
    : escape (c :: s) = [c] ++ escape s := by
  rw [escape, List.flatMap_cons, if_neg other, escape]

/-- An escaped text is read character by character. Of two dollar signs the first one stands for
both, whatever comes behind them.
-/
theorem read_escape (s : Text) : read (escape s) = s.map fun c => .text [c] := by
  induction s with
  | nil => rfl
  | cons c s ih =>
      by_cases dollar : c = '$'
      · subst dollar
        calc read (escape ('$' :: s))
            = .text ['$'] :: readFrom 1 ('$' :: escape s) := rfl
          _ = .text ['$'] :: read (escape s) := rfl
          _ = ('$' :: s).map fun c => .text [c] := by rw [ih, List.map_cons]
      · have plain : '$' ∉ [c] := by simpa using Ne.symm dollar
        rw [escape_cons dollar, read, readFrom_append plain, ← read, ih]
        rfl

end TemplatePart

open TemplatePart

/-- An escaped template has no groups to look up, and stands for the text. -/
theorem Replacement.apply_template_escape (contents : Text) (named? : String → Option Nat)
    (s : Text)
    : (Replacement.template (escape s)).apply contents named?
      = (Replacement.literal s).apply contents named? := by
  funext m
  calc (read (escape s)).flatMap (expand named? m)
      = (s.map fun c => TemplatePart.text [c]).flatMap (expand named? m) := by rw [read_escape]
    _ = s := flatMap_expand_text named? m s

theorem TextRule.apply_template_escape (name : String) (target : TextTarget) (s : Text)
    : TextRule.apply ⟨name, target, .template (escape s)⟩
      = TextRule.apply ⟨name, target, .literal s⟩ := by
  funext fragment
  unfold TextRule.apply
  rw [Replacement.apply_template_escape]

-----------------------------------------------------------------------------------------
-- Tables
-----------------------------------------------------------------------------------------

/-- The place of an item is told by its key. -/
theorem Ordered.exists_put_eq {α κ : Type} [DecidableEq κ] (key : α → κ) (k : κ) (items : List α)
    : ∃ front back, ∀ item, key item = k → put key item items = front ++ item :: back := by
  induction items with
  | nil => exact ⟨[], [], fun _ _ => rfl⟩
  | cons first more ih =>
      by_cases same : key first = k
      · refine ⟨[], more, fun item own => ?_⟩
        rw [put, if_pos (same.trans own.symm), List.nil_append]
      · obtain ⟨front, back, place⟩ := ih
        refine ⟨first :: front, back, fun item own => ?_⟩
        rw [put, if_neg (own ▸ same), place item own, List.cons_append]

namespace TextRules

variable {rule other : TextRule}

/-- Of a rule in a table only its effect shows. -/
theorem apply_congr (same : rule.apply = other.apply) (front back : List TextRule)
    (headers : List HeaderRule) (ignored : List IgnoredMark) (fragment : Text)
    : apply ⟨front ++ rule :: back, headers, ignored⟩ fragment
      = apply ⟨front ++ other :: back, headers, ignored⟩ fragment := by
  simp only [apply, List.foldl_append, List.foldl_cons, same]

theorem withText_congr (same : rule.apply = other.apply) (name : rule.name = other.name)
    (rules : TextRules) (fragment : Text)
    : (rules.withText rule).apply fragment = (rules.withText other).apply fragment := by
  obtain ⟨front, back, place⟩ := Ordered.exists_put_eq TextRule.name other.name rules.text
  simp only [withText, place rule name, place other rfl]
  exact apply_congr same front back rules.headers rules.ignored fragment

/-- Fixed text never expands. Where a pattern is accepted with a text to insert, it is accepted with
the escaped text as a template, for the same places; and wherever that rule stands in a table, among
whatever other rules, each fragment comes out as with the fixed text.
-/
theorem addText_literal_eq_template {rules added : TextRules} {name : String} {pattern s : Text}
    (accepted : (addText name pattern (.literal s)).run rules = (.ok (), added))
    : ∃ machine,
        let literal : TextRule := ⟨name, .pattern machine, .literal s⟩
        let template : TextRule := ⟨name, .pattern machine, .template (escape s)⟩
        added = rules.withText literal
        ∧ (addText name pattern (.template (escape s))).run rules
          = (.ok (), rules.withText template)
        ∧ (∀ fragment, added.apply fragment = (rules.withText template).apply fragment)
        ∧ ∀ front back headers ignored fragment,
            apply ⟨front ++ literal :: back, headers, ignored⟩ fragment
              = apply ⟨front ++ template :: back, headers, ignored⟩ fragment := by
  cases read : Pattern.read? pattern with
  | none => simp [run_addText, read] at accepted
  | some p =>
      simp only [run_addText, read, Prod.mk.injEq, true_and] at accepted ⊢
      have same := (TextRule.apply_template_escape name (.pattern (.ofPattern p)) s).symm
      refine ⟨.ofPattern p, accepted.symm, rfl, fun fragment => ?_, apply_congr same⟩
      rw [← accepted]
      exact withText_congr same rfl rules fragment

/-- Group references, doubled dollar signs and dollar signs at the end are inserted as they are. -/
theorem addText_literal_eq_template_of_references
    : let pattern : Text := "\\\\shout\\\x7b([^\x7d]*)\\\x7d".toList
      let s : Text := "$1$\x7b1\x7d$$$\x7b$".toList
      ∃ literal template,
        (addText "shout" pattern (.literal s)).run {} = (.ok (), literal)
        ∧ (addText "shout" pattern (.template "$$1$$\x7b1\x7d$$$$$$\x7b$$".toList)).run {}
          = (.ok (), template)
        ∧ literal.apply "a\\shout\x7bhi\x7db".toList = "a$1$\x7b1\x7d$$$\x7b$b".toList
        ∧ template.apply "a\\shout\x7bhi\x7db".toList = "a$1$\x7b1\x7d$$$\x7b$b".toList := by
  intro pattern s
  let p := (Pattern.read? pattern).getD .empty
  let rule : TextRule := ⟨"shout", .pattern (.ofPattern p), .literal s⟩
  have read : Pattern.read? pattern = some p := by decide +kernel
  have accepted : (addText "shout" pattern (.literal s)).run {} = (.ok (), withText {} rule) := by
    simp only [run_addText, read, rule]
  obtain ⟨machine, -, template, same, -⟩ := addText_literal_eq_template accepted
  have shown : (withText {} rule).apply "a\\shout\x7bhi\x7db".toList
      = "a$1$\x7b1\x7d$$$\x7b$b".toList := by
    decide +kernel
  exact ⟨_, _, accepted, template, shown, (same _).symm.trans shown⟩

end TextRules

end LatexFigures
