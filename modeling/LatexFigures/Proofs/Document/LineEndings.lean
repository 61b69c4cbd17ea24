import LatexFigures.Proofs.Document.Malformed

/-! Line endings do not matter. Carriage returns in front of all line feeds move the lines of a
document behind the first one, one byte for each line, and change nothing else about them; readers
look at the texts of lines alone, and only errors tell where these stand.
-/

namespace LatexFigures

-----------------------------------------------------------------------------------------
-- Lines
-----------------------------------------------------------------------------------------

namespace Text

/-- Puts a carriage return in front of every line feed. -/
def withReturns (s : Text) : Text := s.flatMap fun c => if c = '\n' then ['\r', '\n'] else [c]

/-- No carriage return stands directly in front of a line feed. -/
def EndsBare (s : Text) : Prop := ¬ ['\r', '\n'] <:+: s

instance (s : Text) : Decidable s.EndsBare := inferInstanceAs (Decidable (¬ _))

/-- The parts between line feeds with a carriage return behind each of them but the last one. -/
def returned : List Text → List Text
  | [] => []
  | [last] => [last]
  | raw :: next :: more => (raw ++ ['\r']) :: returned (next :: more)

/-- No part but the last one ends with a carriage return. -/
def BareButLast : List Text → Prop
  | [] | [_] => True
  | raw :: next :: more => raw.getLast? ≠ some '\r' ∧ BareButLast (next :: more)

/-- The same line behind as many bytes more as there are line feeds in front of it. -/
def Line.moved (line : Line) : Line := { line with offset := line.offset + (line.number - 1) }

theorem splitAll_withReturns (s : Text)
    : splitAll '\n' (withReturns s) = returned (splitAll '\n' s) := by
  induction s with
  | nil => rfl
  | cons c s ih =>
      rw [withReturns, List.flatMap_cons, ← withReturns]
      by_cases feed : c = '\n'
      · subst feed
        have cut (rest : Text)
            : splitAll '\n' ('\r' :: '\n' :: rest) = ['\r'] :: splitAll '\n' rest := by
          simp [splitAll]
        rw [if_pos rfl, List.cons_append, List.singleton_append, cut, ih, splitAll, if_pos rfl]
        cases parts : splitAll '\n' s with
        | nil => simp [splitAll_eq_splitOn, List.splitOn_ne_nil] at parts
        | cons part parts => rfl
      · rw [if_neg feed, List.singleton_append, splitAll, splitAll, if_neg feed, if_neg feed, ih]
        rcases splitAll '\n' s with _ | ⟨_, _ | ⟨_, _⟩⟩ <;> rfl

/-- A part that ends with a carriage return stands in front of a line feed, unless it is the last
one. By induction on the text, where the carriage return is in front of the line feed at last.
-/
theorem bareButLast_splitAll {s : Text} (bare : EndsBare s) : BareButLast (splitAll '\n' s) := by
  induction s with
  | nil => trivial
  | cons c s ih =>
      have later := ih fun inside => bare (List.infix_cons inside)
      rw [splitAll]
      split
      · cases parts : splitAll '\n' s with
        | nil => trivial
        | cons part parts => exact ⟨by simp, parts ▸ later⟩
      · rcases parts : splitAll '\n' s with _ | ⟨_ | ⟨d, part⟩, _ | ⟨next, more⟩⟩
        · trivial
        · trivial
        · rw [parts] at later
          refine ⟨fun last => ?_, later.2⟩
          obtain rfl : c = '\r' := by simpa using last
          cases s with
          | nil => simp [splitAll] at parts
          | cons d s =>
              rw [splitAll] at parts
              split at parts
              · rename_i feed
                exact bare ⟨[], s, by rw [feed]; rfl⟩
              · split at parts <;> simp at parts
        · trivial
        · rw [parts] at later
          exact ⟨by simpa using later.1, later.2⟩

/-- Returns in front of line feeds are dropped with them, and count as one byte for each line. -/
theorem placeLines_returned {raws : List Text} (bare : BareButLast raws) (before offset : Nat)
    : placeLines (before + 1) (offset + before) (returned raws)
      = (placeLines (before + 1) offset raws).map Line.moved := by
  match raws with
  | [] => rfl
  | [raw] => rfl
  | raw :: next :: more =>
      have kept : dropReturn (raw ++ ['\r']) = dropReturn raw := by
        rw [dropReturn, dropReturn, if_neg bare.1]
        simp
      have size : offset + before + byteSize (raw ++ ['\r']) + 1
          = offset + raw.byteSize + 1 + (before + 1) := by
        have one : byteSize ['\r'] = 1 := by decide
        rw [byteSize_append, one]
        omega
      rw [returned, placeLines, placeLines, kept, size, placeLines_returned bare.2]
      rfl

theorem lines_withReturns {s : Text} (bare : EndsBare s)
    : lines (withReturns s) = (lines s).map Line.moved := by
  rw [lines, splitAll_withReturns]
  exact placeLines_returned (bareButLast_splitAll bare) 0 0

end Text

-----------------------------------------------------------------------------------------
-- Readers
-----------------------------------------------------------------------------------------

/-- The error in a line that stands behind as many bytes more as there are line feeds in front. -/
def MalformedFigure.moved (e : MalformedFigure) : MalformedFigure :=
  { e with offset := e.offset + (e.line - 1) }

namespace Document

/-- The item on its line where that one has been moved. -/
def Item.moved : Item → Item
  | .blank => .blank
  | .token line piece => .token line.moved piece

variable {table : DelimiterTable} {rules : TextRules}

theorem itemsFrom_moved (current : EnvironmentKind) (lines : List Text.Line)
    : itemsFrom table current (lines.map Text.Line.moved)
      = (itemsFrom table current lines).map Item.moved := by
  induction lines generalizing current with
  | nil => rfl
  | cons line lines ih =>
      have same : line.moved.text = line.text := rfl
      rw [List.map_cons, itemsFrom, itemsFrom, same]
      split
      · rw [ih]
        rfl
      · dsimp only
        rw [ih, List.map_append, List.map_map]
        rfl

/-- Reading depends on the places of lines in its errors alone, by induction on the items. -/
theorem collect_moved (p : Progress) (items : List Item)
    : collect rules p (items.map Item.moved)
      = { collect rules p items with
          outcome := (collect rules p items).outcome.mapError MalformedFigure.moved } := by
  induction items generalizing p with
  | nil => rfl
  | cons item items ih =>
      cases item with
      | blank => exact ih _
      | token line piece =>
          cases piece with
          | content | closing => exact ih _
          | opening kind header =>
              simp only [List.map_cons, Item.moved, collect]
              cases p.enter? kind header with
              | none => rfl
              | some entered => exact ih entered

theorem expandFrom_moved (registry : Registry) (current : EnvironmentKind)
    (lines : List Text.Line)
    : expandFrom registry current (lines.map Text.Line.moved)
      = expandFrom registry current lines := by
  induction lines generalizing current with
  | nil => rfl
  | cons line lines ih => simp only [List.map_cons, expandFrom, Text.Line.moved, ih]

/-- Lines are counted from one. -/
theorem line_pos_of_parse {registry : Registry} {s : Text} {e : MalformedFigure}
    (failed : parse registry s = .error e)
    : 0 < e.line := by
  obtain ⟨before, item, after, cut, malformed, -⟩ :=
    List.findSome?_eq_some_iff.mp (parse_eq_error_iff.mp failed)
  obtain ⟨line, header, rfl, -, rfl⟩ := Item.malformed?_eq_some_iff.mp malformed
  obtain ⟨front, raw, back, onLine, behind, -, rfl, -⟩ := exists_lineAt_of_items cut
  exact Nat.succ_pos _

/-- Line endings do not matter. With a carriage return put in front of every line feed, where none
stood before, a document has the same segments, figures and settings among them, and the same
expanded lines. If it is refused, it is so for the same line of the same length, which begins one
byte later for each of the lines in front of it.
-/
theorem parse_withReturns (registry : Registry) {s : Text} (bare : Text.EndsBare s)
    : parse registry (Text.withReturns s)
        = (parse registry s).mapError MalformedFigure.moved
      ∧ (∀ e, parse registry s = .error e → 0 < e.line)
      ∧ expand registry (Text.withReturns s) = expand registry s := by
  refine ⟨?_, fun e => line_pos_of_parse, ?_⟩
  · rw [parse, read, items, Text.lines_withReturns bare, itemsFrom_moved, collect_moved]
    rfl
  · rw [expand, Text.lines_withReturns bare, expandFrom_moved]
    rfl

/-- A figure without canvas on the last of three lines is two bytes further in. The carriage returns
that stand within the first line and at the end of the document are left alone.
-/
theorem parse_withReturns_of_malformed_figure
    : ∃ (registry : Registry) (s : Text),
        s = "a\rb\n\n\\begin\x7bpspicture\x7d\r".toList
        ∧ Text.EndsBare s
        ∧ Text.withReturns s = "a\rb\r\n\r\n\\begin\x7bpspicture\x7d\r".toList
        ∧ parse registry s = .error ⟨3, 5, 17⟩
        ∧ parse registry (Text.withReturns s) = .error ⟨3, 7, 17⟩
        ∧ expand registry (Text.withReturns s) = expand registry s := by
  let registry : Registry := { rules := {} }
  let s : Text := "a\rb\n\n\\begin\x7bpspicture\x7d\r".toList
  have bare : Text.EndsBare s := by decide +kernel
  have failed : parse registry s = .error ⟨3, 5, 17⟩ :=
    parse_eq_error_iff.mpr (by decide +kernel)
  obtain ⟨moved, -, expanded⟩ := parse_withReturns registry bare
  rw [failed] at moved
  exact ⟨registry, s, rfl, bare, by decide +kernel, failed, moved, expanded⟩

end Document

end LatexFigures
