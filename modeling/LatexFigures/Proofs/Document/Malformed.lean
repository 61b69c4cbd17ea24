import LatexFigures.Proofs.Document.Places
import LatexFigures.Proofs.Document.Segments
import LatexFigures.Proofs.Environment.Region

/-! When a document is refused, and what the error points at. An opened figure whose canvas cannot
be read is the only cause, and the first one of the document gives the line.
-/

namespace LatexFigures

variable {table : DelimiterTable} {current : EnvironmentKind} {s : Text}

-----------------------------------------------------------------------------------------
-- Blank lines
-----------------------------------------------------------------------------------------

namespace DelimiterTable

theorem ActiveMark.backslash_mem {mark : Text} (active : table.ActiveMark current mark)
    : '\\' ∈ mark := by
  cases active with
  | opening | closing => exact List.mem_append_left _ (List.mem_append_left _ (by decide))

/-- Blank text is content alone. -/
theorem scan_of_isAllBlank (blank : s.isAllBlank = true)
    : table.scan current s = (contentToken current s, current) := by
  refine scan_of_unmarked fun mark active inside => ?_
  have char := List.all_eq_true.mp blank '\\' (inside.subset active.backslash_mem)
  simp [Text.isBlank] at char

theorem contentToken_filter_isDelimiter (current : EnvironmentKind) (s : Text)
    : (contentToken current s).filter Token.isDelimiter = [] := by
  unfold contentToken
  split <;> rfl

/-- Leaving blank lines out does not change the delimiters. -/
theorem scanLines_delimiters (table : DelimiterTable) (current : EnvironmentKind)
    (lines : List Text)
    : ((table.scanLines current lines).flatMap (·.1)).filter Token.isDelimiter
      = ((table.scanLines current (lines.filter (!·.isAllBlank))).flatMap (·.1)).filter
          Token.isDelimiter := by
  induction lines generalizing current with
  | nil => rfl
  | cons line lines ih =>
      cases blank : line.isAllBlank with
      | true =>
          simp [scanLines, scan_of_isAllBlank blank, contentToken_filter_isDelimiter, blank, ih]
      | false => simp [scanLines, blank, ih]

end DelimiterTable

namespace Document

/-- The tokens of all lines of a document, blank ones among them. -/
def allTokens (table : DelimiterTable) (s : Text) : List Token :=
  (table.scanLines .math ((Text.lines s).map (·.text))).flatMap (·.1)

theorem mem_allTokens_iff {token : Token} (delimits : token.isDelimiter = true)
    : token ∈ allTokens table s ↔ token ∈ tokens table s := by
  have filtered (tokens : List Token)
      : token ∈ tokens ↔ token ∈ tokens.filter Token.isDelimiter := by
    rw [List.mem_filter, delimits, and_iff_left rfl]
  rw [filtered, allTokens, DelimiterTable.scanLines_delimiters, ← filtered, tokens]

-----------------------------------------------------------------------------------------
-- Errors
-----------------------------------------------------------------------------------------

variable {registry : Registry}

theorem parse_eq_error_iff {e : MalformedFigure}
    : parse registry s = .error e
      ↔ (items registry.delimiters s).findSome? Item.malformed? = some e := by
  rw [parse_eq]
  cases (items registry.delimiters s).findSome? Item.malformed? <;> simp

theorem exists_malformed_iff {all : List Item}
    : (∃ e, all.findSome? Item.malformed? = some e)
      ↔ ∃ header,
          .opening .figure header ∈ all.filterMap Item.token?
          ∧ Canvas.read? header = none := by
  simp only [← Option.isSome_iff_exists, List.findSome?_isSome_iff, List.mem_filterMap]
  constructor
  · rintro ⟨item, member, malformed⟩
    obtain ⟨e, found⟩ := Option.isSome_iff_exists.mp malformed
    obtain ⟨line, header, rfl, unreadable, -⟩ := Item.malformed?_eq_some_iff.mp found
    exact ⟨header, ⟨_, member, rfl⟩, unreadable⟩
  · rintro ⟨header, ⟨item, member, token⟩, unreadable⟩
    cases item with
    | blank => cases token
    | token line piece =>
        obtain rfl := Option.some.inj token
        exact ⟨_, member, by simp [Item.malformed?, unreadable]⟩

/-- Before the item of an error no figure was opened whose canvas cannot be read. -/
theorem readable_of_findSome?_eq_none {before : List Item}
    (wellFormed : before.findSome? Item.malformed? = none) {header : Text}
    (opened : .opening .figure header ∈ before.filterMap Item.token?)
    : Canvas.read? header ≠ none := fun unreadable => by
  obtain ⟨e, found⟩ := exists_malformed_iff.mpr ⟨header, opened, unreadable⟩
  rw [wellFormed] at found
  cases found

/-- Tokens of a line hold no line feed. -/
theorem feed_not_mem_of_scan {line : Text} (oneLine : '\n' ∉ line) {onLine more : List Token}
    (scanned : (table.scan current line).1 = onLine ++ more)
    : '\n' ∉ onLine.flatMap Token.text := by
  intro inside
  apply oneLine
  rw [← table.scan_flatMap_text current line, scanned, List.flatMap_append]
  exact List.mem_append_left _ inside

/-- Reading fails exactly if a figure is opened whose canvas cannot be read, on whichever line, and
for no other reason. The error is about the first such opening in the document. Its number is one
more than there are line feeds in front, and its bytes are the line of the opening without its line
end. Rules have no say in it.
-/
theorem parse_error_iff_malformed (registry : Registry) (s : Text)
    : ((∃ e, parse registry s = .error e)
        ↔ ∃ header,
            .opening .figure header ∈ allTokens registry.delimiters s
            ∧ Canvas.read? header = none)
      ∧ (∀ e,
          parse registry s = .error e
          → ∃ (front line ending back header : Text) (onLine behind : List Token),
              s.LineAt front (line ++ ending) back
              ∧ line = Text.dropReturn (line ++ ending)
              ∧ (ending = [] ∨ ending = ['\r'])
              ∧ (registry.delimiters.scan
                  (Token.inForceAfter (tokens registry.delimiters front)) line).1
                = onLine ++ .opening .figure header :: behind
              ∧ Canvas.read? header = none
              ∧ tokens registry.delimiters front ++ onLine ++ [.opening .figure header]
                <+: tokens registry.delimiters s
              ∧ (∀ earlier,
                  .opening .figure earlier ∈ tokens registry.delimiters front ++ onLine
                  → Canvas.read? earlier ≠ none)
              ∧ e.line = 1 + (front ++ onLine.flatMap Token.text).count '\n'
              ∧ e.offset = front.byteSize
              ∧ e.length = line.byteSize
              ∧ s.utf8Encode.extract e.offset (e.offset + e.length) = line.utf8Encode)
      ∧ ∀ (e : MalformedFigure) (rules : TextRules),
          parse { registry with rules } s = .error e ↔ parse registry s = .error e := by
  refine ⟨?_, ?_, fun e rules => by rw [parse_eq_error_iff, parse_eq_error_iff]⟩
  · simp only [parse_eq_error_iff, exists_malformed_iff, items_tokens]
    exact exists_congr fun header => and_congr_left' (mem_allTokens_iff rfl).symm
  · intro e failed
    obtain ⟨before, item, after, cut, malformed, wellFormed⟩ :=
      List.findSome?_eq_some_iff.mp (parse_eq_error_iff.mp failed)
    obtain ⟨place, header, rfl, unreadable, rfl⟩ := Item.malformed?_eq_some_iff.mp malformed
    obtain ⟨front, raw, back, onLine, behind, stands, rfl, scanned, seen⟩ :=
      exists_lineAt_of_items cut
    rw [tokensAt] at scanned
    obtain ⟨ending, whole, isEnd⟩ := Text.exists_ending raw
    have oneLine : '\n' ∉ Text.dropReturn raw := fun inside =>
      stands.oneLine (whole ▸ List.mem_append_left _ inside)
    have parts : s = front ++ (Text.dropReturn raw ++ (ending ++ back)) := by
      rw [stands.whole, ← List.append_assoc (Text.dropReturn raw), ← whole]
    refine ⟨front, Text.dropReturn raw, ending, back, header, onLine, behind, whole ▸ stands,
      by rw [← whole], isEnd, scanned, unreadable, ?_, ?_, ?_, rfl, rfl, ?_⟩
    · rw [← seen, ← items_tokens, cut, List.filterMap_append, List.prefix_append_right_inj]
      exact List.prefix_append [_] _
    · exact fun earlier opened =>
        readable_of_findSome?_eq_none (List.findSome?_eq_none_iff.mpr wellFormed) (seen ▸ opened)
    · rw [List.count_append, List.count_eq_zero_of_not_mem (feed_not_mem_of_scan oneLine scanned),
        Nat.add_comm]
      rfl
    · rw [parts]
      exact Text.extract_utf8Encode front (Text.dropReturn raw) (ending ++ back)

end Document

end LatexFigures
