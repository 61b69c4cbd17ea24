import LatexFigures.Proofs.Document.Expansion
import LatexFigures.Proofs.Document.Malformed

/-! Rules reach running text alone. Two tables of rules may drop, substitute and declare what they
like; a document is refused alike under both, and what is literal in it comes out the same.
-/

namespace LatexFigures.Document

variable {table : DelimiterTable} {all : List Item} {stretch : Stretch} {s : Text}

-----------------------------------------------------------------------------------------
-- Literal stretches
-----------------------------------------------------------------------------------------

section Literal

variable (rules other : TextRules) (stands : stretch.StandsIn all)
  (literal : stretch.kind.isLiteral = true)
include stands literal

theorem visible?_of_isLiteral {item : Item} (inside : item ∈ stretch.inside)
    : visible? rules stretch.kind item = visible? other stretch.kind item := by
  cases item with
  | blank => rfl
  | token line piece =>
      cases piece with
      | content text flag =>
          obtain rfl : flag = stretch.kind.isLiteral := stands.flagged inside
          simp [visible?, counts, literal]
      | opening | closing => rfl

/-- The same fragments of a literal stretch count, since none of them is running text. -/
theorem Stretch.entries_of_isLiteral : stretch.entries rules = stretch.entries other :=
  List.filterMap_congr fun _ inside => visible?_of_isLiteral rules other stands literal inside

theorem Stretch.lines_of_isLiteral : stretch.lines rules = stretch.lines other := by
  rw [lines, lines, entries_of_isLiteral rules other stands literal]

theorem Stretch.html_of_isLiteral : stretch.html rules = stretch.html other := by
  have plain : Entry.html rules stretch.kind = Entry.html other stretch.kind := by
    funext entry
    cases entry with
    | blank => rfl
    | fragment text => simp [Entry.html, fragmentHtml, literal]
  rw [html, html, entries_of_isLiteral rules other stands literal, plain]

theorem Stretch.hasContent_of_isLiteral : stretch.HasContent rules ↔ stretch.HasContent other := by
  rw [HasContent, HasContent, lines_of_isLiteral rules other stands literal]

end Literal

-----------------------------------------------------------------------------------------
-- Literal segments
-----------------------------------------------------------------------------------------

/-- What a literal segment shows: its kind, its content as it stands, and its html. -/
def literalPart? (segment : Segment) : Option (EnvironmentKind × List Text × List Text) :=
  if segment.kind.isLiteral then some (segment.kind, segment.lines, segment.html) else none

/-- What the literal segments of a document show, in their order. -/
def literalParts (segments : List Segment) : List (EnvironmentKind × List Text × List Text) :=
  segments.filterMap literalPart?

/-- What a stretch adds to the literal segments does not depend on rules. One that is not literal
adds nothing, whether it has content or not.
-/
theorem literalPart?_segment (rules other : TextRules) (stands : stretch.StandsIn all)
    : (if stretch.HasContent rules then literalPart? (stretch.segment rules) else none)
      = if stretch.HasContent other then literalPart? (stretch.segment other) else none := by
  have part (rules : TextRules)
      : literalPart? (stretch.segment rules)
        = if stretch.kind.isLiteral then
            some (stretch.kind, stretch.lines rules, stretch.html rules)
          else none :=
    rfl
  by_cases literal : stretch.kind.isLiteral = true
  · have lines := stretch.lines_of_isLiteral rules other stands literal
    have html := stretch.html_of_isLiteral rules other stands literal
    have content := stretch.hasContent_of_isLiteral rules other stands literal
    by_cases has : stretch.HasContent rules
    · rw [if_pos has, if_pos (content.mp has), part, part, lines, html]
    · rw [if_neg has, if_neg (mt content.mpr has)]
  · rw [part, part, if_neg literal, if_neg literal, ite_self, ite_self]

theorem literalParts_contentStretches (rules other : TextRules)
    : literalParts ((contentStretches ⟨table, rules⟩ s).map (·.segment rules))
      = literalParts ((contentStretches ⟨table, other⟩ s).map (·.segment other)) := by
  have parts (rules : TextRules)
      : literalParts ((contentStretches ⟨table, rules⟩ s).map (·.segment rules))
        = (stretches table s).filterMap fun stretch =>
            if stretch.HasContent rules then literalPart? (stretch.segment rules) else none := by
    rw [literalParts, contentStretches, List.filterMap_map, List.filterMap_filter]
    simp only [decide_eq_true_eq, Function.comp_apply]
  rw [parts rules, parts other]
  apply List.filterMap_congr
  intro stretch member
  exact literalPart?_segment rules other (standsIn_of_mem_stretches member)

-----------------------------------------------------------------------------------------
-- Literal lines
-----------------------------------------------------------------------------------------

/-- Running text stands on the line behind (front). -/
def HasRunningText (table : DelimiterTable) (front raw : Text) : Prop :=
  ∃ text, .content text false ∈ tokensAt table front raw

/-- The line behind (front) lies within a literal region: one is open in front of the line, and its
closing mark does not stand on the line.
-/
def LiesInLiteral (table : DelimiterTable) (front raw : Text) : Prop :=
  let current := Token.inForceAfter (tokens table front)
  current.isLiteral = true ∧ ¬ endMark current.tag <:+: Text.dropReturn raw

theorem not_hasRunningText_of_liesInLiteral {front raw : Text}
    (lies : LiesInLiteral table front raw)
    : ¬ HasRunningText table front raw := by
  obtain ⟨literal, free⟩ := lies
  rintro ⟨text, member⟩
  rw [tokensAt, DelimiterTable.scan_of_unmarked (DelimiterTable.unmarked_of_literal literal free),
    DelimiterTable.contentToken] at member
  split at member
  · cases member
  · obtain ⟨-, plain⟩ := Token.content.inj (List.mem_singleton.mp member)
    rw [literal] at plain
    cases plain

/-- A line without running text is expanded as it stands. -/
theorem expand_getElem?_of_not_hasRunningText (rules : TextRules) {front raw back : Text}
    (stands : s.LineAt front raw back) (plain : ¬ HasRunningText table front raw)
    : (expand ⟨table, rules⟩ s)[front.count '\n']?
      = some (if (Text.dropReturn raw).isAllBlank then blankLine else Text.dropReturn raw) := by
  have kept : ∀ token ∈ tokensAt table front raw, expandToken rules token = token.text := by
    intro token member
    cases token with
    | content text literal =>
        cases literal with
        | true => rfl
        | false => exact absurd ⟨text, member⟩ plain
    | opening | closing => rfl
  have fits : table.Fitting (Token.inForceAfter (tokens table front)) (tokensAt table front raw) :=
    DelimiterTable.fitting_scan ..
  have whole : (htmlFrom rules (tokens table front) (tokensAt table front raw)).flatten
      = Text.dropReturn raw := by
    rw [← map_expandToken_eq fits, List.map_congr_left kept, ← List.flatMap_def, tokensAt,
      table.scan_flatMap_text]
  rw [expand_getElem? ⟨table, rules⟩ stands, whole]

-----------------------------------------------------------------------------------------
-- Two tables of rules
-----------------------------------------------------------------------------------------

/-- Rules cannot reach literal text. Under any two tables of rules a document is refused with the
same error, or read under both, and then its literal segments are the same in number, order, kind,
content and html. Lines without running text are expanded as they stand under both, and such are
the lines that lie within literal regions.
-/
theorem literal_rule_independence (table : DelimiterTable) (rules other : TextRules) (s : Text)
    : (∀ e, parse ⟨table, rules⟩ s = .error e ↔ parse ⟨table, other⟩ s = .error e)
      ∧ (∀ segments,
          parse ⟨table, rules⟩ s = .ok segments
          → ∃ others,
              parse ⟨table, other⟩ s = .ok others ∧ literalParts segments = literalParts others)
      ∧ (∀ front raw back,
          s.LineAt front raw back
          → ¬ HasRunningText table front raw
          → let entry := if (Text.dropReturn raw).isAllBlank then blankLine else Text.dropReturn raw
            (expand ⟨table, rules⟩ s)[front.count '\n']? = some entry
            ∧ (expand ⟨table, other⟩ s)[front.count '\n']? = some entry)
      ∧ ∀ front raw, LiesInLiteral table front raw → ¬ HasRunningText table front raw := by
  refine ⟨?_, ?_, ?_, ?_⟩
  · intro e
    rw [parse_eq_error_iff, parse_eq_error_iff]
  · intro segments parsed
    rw [parse_eq] at parsed
    split at parsed
    · cases parsed
    · rename_i readable
      obtain rfl := Except.ok.inj parsed
      refine ⟨(contentStretches ⟨table, other⟩ s).map (·.segment other), ?_, ?_⟩
      · rw [parse_eq, readable]
      · exact literalParts_contentStretches rules other
  · intro front raw back stands plain
    constructor
    · exact expand_getElem?_of_not_hasRunningText rules stands plain
    · exact expand_getElem?_of_not_hasRunningText other stands plain
  · intro front raw lies
    exact not_hasRunningText_of_liesInLiteral lies

end LatexFigures.Document
