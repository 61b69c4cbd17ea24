import LatexFigures.Proofs.Document.Places
import LatexFigures.Proofs.Document.Segments

/-! Reading and expanding a document agree. Both substitute a fragment by the environment in force,
one for the segment that keeps it and one for the line on which it stands.
-/

namespace LatexFigures.Document

-----------------------------------------------------------------------------------------
-- Html of tokens
-----------------------------------------------------------------------------------------

/-- A token in html where (kind) is in force. Delimiters stay as they are. -/
def tokenHtml (rules : TextRules) (kind : EnvironmentKind) : Token → Text
  | .content text _ => fragmentHtml rules kind text
  | token => token.text

/-- Tokens in html, each by the environment in force behind those in front of it. -/
def htmlFrom (rules : TextRules) (before : List Token) : List Token → List Text
  | [] => []
  | token :: more =>
      tokenHtml rules (Token.inForceAfter before) token :: htmlFrom rules (before ++ [token]) more

variable {rules : TextRules} {kind : EnvironmentKind} {table : DelimiterTable} {s : Text}

/-- The mark on content and the environment in force agree on what html shows. -/
theorem expandToken_content {text : Text} {literal : Bool} (flagged : literal = kind.isLiteral)
    : expandToken rules (.content text literal) = fragmentHtml rules kind text := by
  subst flagged
  unfold expandToken fragmentHtml
  cases kind.isLiteral <;> rfl

theorem expandToken_eq {token : Token} (fits : table.Fits kind token)
    : expandToken rules token = tokenHtml rules kind token := by
  cases token with
  | content text literal => exact expandToken_content fits.2.1
  | opening | closing => rfl

theorem map_expandToken_eq {before tokens : List Token}
    (fits : table.Fitting (Token.inForceAfter before) tokens)
    : tokens.map (expandToken rules) = htmlFrom rules before tokens := by
  induction tokens generalizing before with
  | nil => rfl
  | cons token tokens ih =>
      obtain ⟨here, later⟩ := fits
      rw [← inForceAfter_append_singleton] at later
      rw [List.map_cons, htmlFrom, expandToken_eq here, ih later]

-----------------------------------------------------------------------------------------
-- Expanded lines
-----------------------------------------------------------------------------------------

theorem expand_length (registry : Registry) (s : Text)
    : (expand registry s).length = s.count '\n' + 1 := by
  rw [expand, expandFrom_length, Text.lines, Text.placeLines_length, Text.splitAll_length]

/-- A line is expanded in its place, by what is in force behind the text in front of it. -/
theorem expand_getElem? (registry : Registry) {front raw back : Text}
    (stands : s.LineAt front raw back)
    : (expand registry s)[front.count '\n']?
      = some
          (if (Text.dropReturn raw).isAllBlank then blankLine
          else
            (htmlFrom registry.rules (tokens registry.delimiters front)
              (tokensAt registry.delimiters front raw)).flatten) := by
  obtain ⟨earlier, later, lines, before, -⟩ := stands.lines_eq
  have index : (expandFrom registry .math earlier).length = front.count '\n' := by
    have length := congrArg List.length before
    rw [Text.lines, Text.placeLines_length, Text.splitAll_length, List.length_append,
      List.length_singleton] at length
    rw [expandFrom_length]
    omega
  rw [expand, lines, expandFrom_append, ← index, List.getElem?_append_right (Nat.le_refl _),
    Nat.sub_self, stateBehind_eq_of_lines before, expandFrom, Text.lineBehind]
  split
  · rw [List.getElem?_cons_zero]
  · rw [List.getElem?_cons_zero, tokensAt, ← map_expandToken_eq (DelimiterTable.fitting_scan ..),
      ← List.flatMap_def]

-----------------------------------------------------------------------------------------
-- Agreement
-----------------------------------------------------------------------------------------

/-- The segments of a document in html, and its expanded lines. Segments are the stretches between
delimiters that have content. Their html has each line as the environment makes it, literal ones as
they stand, and a break in the place of each blank line between them. Every line of the document has
one expanded line: a break if it is blank, and otherwise its delimiters as they stand with the
content between them as the environment in force makes it, which for content in a stretch is what
its segment has.
-/
theorem parse_expand_agree {registry : Registry} {segments : List Segment}
    (parsed : parse registry s = .ok segments)
    : (expand registry s).length = s.count '\n' + 1
      ∧ List.Forall₂
          (fun stretch segment =>
            stretch.StandsIn (items registry.delimiters s)
            ∧ segment.kind = stretch.kind
            ∧ segment.lines = (stretch.entries registry.rules).filterMap Entry.line?
            ∧ segment.html
              = (stretch.entries registry.rules).map (Entry.html registry.rules segment.kind)
            ∧ ∀ line text literal,
                .token line (.content text literal) ∈ stretch.inside
                → expandToken registry.rules (.content text literal)
                  = (Entry.fragment text).html registry.rules segment.kind)
          (contentStretches registry s) segments
      ∧ ∀ front raw back,
          s.LineAt front raw back
          → (expand registry s)[front.count '\n']?
            = some
                (if (Text.dropReturn raw).isAllBlank then blankLine
                else
                  (htmlFrom registry.rules (tokens registry.delimiters front)
                    (tokensAt registry.delimiters front raw)).flatten) := by
  refine ⟨expand_length registry s, ?_, fun _ _ _ => expand_getElem? registry⟩
  refine forall₂_of_parse parsed fun stretch _ stands => ?_
  exact ⟨stands, rfl, rfl, rfl, fun _ _ _ inside => expandToken_content (stands.flagged inside)⟩

/-- Dashes are substituted in running text and stay in literal text, on its own line and in its
segment; the comment is gone from the segments alone.
-/
theorem parse_expand_agree_dashes
    : ∃ (registry : Registry) (s : Text) (segments : List Segment),
        s = "a--b\n\n%c\n\\begin\x7bprint\x7d--\n\nd\\end\x7bprint\x7de".toList
        ∧ parse registry s = .ok segments
        ∧ segments.map (·.html)
          = [["a-b".toList, "<br>".toList], ["--".toList, "<br>".toList, "d".toList],
              ["e".toList]]
        ∧ (expand registry s).length = 6
        ∧ (expand registry s)[3]? = some "\\begin\x7bprint\x7d--".toList := by
  let registry : Registry := {
    rules := {
      text := [⟨"dash", .form [.text "--".toList], .literal "-".toList⟩]
      ignored := [.comment] } }
  let s : Text := "a--b\n\n%c\n\\begin\x7bprint\x7d--\n\nd\\end\x7bprint\x7de".toList
  let front : Text := "a--b\n\n%c\n".toList
  obtain ⟨segments, parsed⟩ :=
    exists_segments (by decide +kernel : (parse registry s).toOption.isSome)
  obtain ⟨length, aligned, lines⟩ := parse_expand_agree parsed
  have html : segments.map (·.html)
      = (contentStretches registry s).map fun stretch =>
          (stretch.entries registry.rules).map (Entry.html registry.rules stretch.kind) :=
    map_eq_of_forall₂ aligned fun stretch segment h => by rw [h.2.2.2.1, h.2.1]
  have line : s.LineAt front "\\begin\x7bprint\x7d--".toList "\n\nd\\end\x7bprint\x7de".toList :=
    ⟨rfl, .inr rfl, by decide, .inr rfl⟩
  exact ⟨registry, s, segments, rfl, parsed, html.trans (by decide +kernel),
    length.trans (by decide +kernel), (lines _ _ _ line).trans (by decide +kernel)⟩

end LatexFigures.Document
