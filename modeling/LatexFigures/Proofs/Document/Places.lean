import LatexFigures.Proofs.Document.Progress
import LatexFigures.Proofs.Text.Lines

/-! Lines of a document with what is read off them. The tokens of a line depend on the text in front
of it alone, and every token of a document stands on one of the lines.
-/

namespace LatexFigures.Document

-----------------------------------------------------------------------------------------
-- Readers line by line
-----------------------------------------------------------------------------------------

/-- The environment in force behind some lines. -/
def stateBehind (table : DelimiterTable) (current : EnvironmentKind) (lines : List Text.Line)
    : EnvironmentKind :=
  table.stateAfter current ((lines.map (·.text)).filter (!·.isAllBlank))

/-- The tokens of a line behind the text (front). -/
def tokensAt (table : DelimiterTable) (front raw : Text) : List Token :=
  (table.scan (Token.inForceAfter (tokens table front)) (Text.dropReturn raw)).1

variable {table : DelimiterTable} {current : EnvironmentKind}

theorem stateBehind_cons_of_blank {line : Text.Line} (blank : line.text.isAllBlank = true)
    (lines : List Text.Line)
    : stateBehind table current (line :: lines) = stateBehind table current lines := by
  simp [stateBehind, blank]

theorem stateBehind_cons_of_solid {line : Text.Line} (solid : line.text.isAllBlank = false)
    (lines : List Text.Line)
    : stateBehind table current (line :: lines)
      = stateBehind table (table.scan current line.text).2 lines := by
  simp [stateBehind, solid, DelimiterTable.stateAfter]

theorem expandFrom_length (registry : Registry) (current : EnvironmentKind)
    (lines : List Text.Line)
    : (expandFrom registry current lines).length = lines.length := by
  induction lines generalizing current with
  | nil => rfl
  | cons line lines ih =>
      unfold expandFrom
      split <;> simp [ih]

theorem expandFrom_append (registry : Registry) (current : EnvironmentKind)
    (lines more : List Text.Line)
    : expandFrom registry current (lines ++ more)
      = expandFrom registry current lines
        ++ expandFrom registry (stateBehind registry.delimiters current lines) more := by
  induction lines generalizing current with
  | nil => rfl
  | cons line lines ih =>
      cases blank : line.text.isAllBlank with
      | true => simp [expandFrom, blank, ih, stateBehind_cons_of_blank blank]
      | false => simp [expandFrom, blank, ih, stateBehind_cons_of_solid blank]

/-- The items of lines that follow one another, by induction on the first ones. -/
theorem itemsFrom_append (table : DelimiterTable) (current : EnvironmentKind)
    (lines more : List Text.Line)
    : itemsFrom table current (lines ++ more)
      = itemsFrom table current lines
        ++ itemsFrom table (stateBehind table current lines) more := by
  induction lines generalizing current with
  | nil => rfl
  | cons line lines ih =>
      cases blank : line.text.isAllBlank with
      | true => simp [itemsFrom, blank, ih, stateBehind_cons_of_blank blank]
      | false => simp [itemsFrom, blank, ih, stateBehind_cons_of_solid blank]

-----------------------------------------------------------------------------------------
-- In front of a line
-----------------------------------------------------------------------------------------

variable {s front : Text} {earlier later : List Text.Line}

/-- The empty line with which the text in front of a line ends has no tokens. -/
theorem tokens_eq_of_lines (lines : Text.lines front = earlier ++ [Text.lineBehind front []])
    : tokens table front = (itemsFrom table .math earlier).filterMap Item.token? := by
  have empty : Text.isAllBlank [] = true := rfl
  rw [itemsFrom_tokens, tokens, lines]
  simp [Text.lineBehind, empty]

theorem stateBehind_eq_of_lines (lines : Text.lines front = earlier ++ [Text.lineBehind front []])
    : stateBehind table .math earlier = Token.inForceAfter (tokens table front) := by
  rw [stateBehind, DelimiterTable.stateAfter_eq_foldl, ← itemsFrom_tokens,
    ← tokens_eq_of_lines lines, Token.inForceAfter_eq_foldl]

-----------------------------------------------------------------------------------------
-- The line of a token
-----------------------------------------------------------------------------------------

/-- An item of two lists stands behind the first one, or is made from one of its elements. -/
theorem mapped_append_eq_cut {α β : Type} {f : α → β} {xs : List α} {ys before after : List β}
    {item : β} (cut : xs.map f ++ ys = before ++ item :: after)
    : (∃ between, before = xs.map f ++ between ∧ ys = between ++ item :: after)
      ∨ ∃ front x behind, xs = front ++ x :: behind ∧ f x = item ∧ before = front.map f := by
  rcases List.append_eq_append_iff.mp cut with ⟨between, whole, rest⟩ | ⟨between, whole, rest⟩
  · exact .inl ⟨between, whole, rest⟩
  · cases between with
    | nil => exact .inl ⟨[], by simp [whole], rest.symm⟩
    | cons first between =>
        obtain ⟨rfl, -⟩ := List.cons.inj rest
        obtain ⟨front, _, parts, same, made⟩ := List.map_eq_append_iff.mp whole
        obtain ⟨x, behind, rfl, here, -⟩ := List.map_eq_cons_iff.mp made
        exact .inr ⟨front, x, behind, parts, here, same.symm⟩

/-- Every token of some lines stands on one of them, by induction on the lines. -/
theorem exists_line_of_itemsFrom {lines : List Text.Line} {line : Text.Line} {piece : Token}
    {before after : List Item}
    (cut : itemsFrom table current lines = before ++ .token line piece :: after)
    : ∃ earlier later onLine behind,
        lines = earlier ++ line :: later
        ∧ (table.scan (stateBehind table current earlier) line.text).1 = onLine ++ piece :: behind
        ∧ before = itemsFrom table current earlier ++ onLine.map (.token line) := by
  induction lines generalizing current before with
  | nil => simp [itemsFrom] at cut
  | cons first lines ih =>
      cases blank : first.text.isAllBlank with
      | true =>
          rw [itemsFrom, if_pos blank] at cut
          cases before with
          | nil => cases (List.cons.inj cut).1
          | cons item before =>
              obtain ⟨rfl, rest⟩ := List.cons.inj cut
              obtain ⟨earlier, later, onLine, behind, rfl, scanned, rfl⟩ := ih rest
              refine ⟨first :: earlier, later, onLine, behind, rfl, ?_, ?_⟩
              · rwa [stateBehind_cons_of_blank blank]
              · rw [itemsFrom, if_pos blank, List.cons_append]
      | false =>
          have items (more : List Text.Line)
              : itemsFrom table current (first :: more)
                = (table.scan current first.text).1.map (.token first)
                  ++ itemsFrom table (table.scan current first.text).2 more := by
            rw [itemsFrom, if_neg (by simp [blank])]
          rw [items] at cut
          -- the token stands behind the first line, or on it
          rcases mapped_append_eq_cut cut with
            ⟨between, rfl, rest⟩ | ⟨onLine, _, behind, scanned, same, rfl⟩
          · obtain ⟨earlier, later, onLine, behind, rfl, scanned, rfl⟩ := ih rest
            refine ⟨first :: earlier, later, onLine, behind, rfl, ?_, ?_⟩
            · rwa [stateBehind_cons_of_solid blank]
            · rw [items, List.append_assoc]
          · obtain ⟨rfl, rfl⟩ := Item.token.inj same
            exact ⟨[], lines, onLine, behind, rfl, scanned, rfl⟩

/-- Every token of a document stands on a line of it, behind the tokens in front of that line and
others on it.
-/
theorem exists_lineAt_of_items {line : Text.Line} {piece : Token} {before after : List Item}
    (cut : items table s = before ++ .token line piece :: after)
    : ∃ front raw back onLine behind,
        s.LineAt front raw back
        ∧ line = Text.lineBehind front (Text.dropReturn raw)
        ∧ tokensAt table front raw = onLine ++ piece :: behind
        ∧ before.filterMap Item.token? = tokens table front ++ onLine := by
  obtain ⟨earlier, later, onLine, behind, lines, scanned, rfl⟩ := exists_line_of_itemsFrom cut
  obtain ⟨front, raw, back, stands, rfl, before⟩ := Text.lineAt_of_lines_eq lines
  refine ⟨front, raw, back, onLine, behind, stands, rfl, ?_, ?_⟩
  · rwa [stateBehind_eq_of_lines before] at scanned
  · rw [List.filterMap_append, ← tokens_eq_of_lines before, List.filterMap_map]
    simp [Function.comp_def, Item.token?]

end LatexFigures.Document
