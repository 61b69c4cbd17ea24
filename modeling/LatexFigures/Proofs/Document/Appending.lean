import LatexFigures.Proofs.Document.Malformed

/-! Documents that go on. Text behind a document leaves its error where it is, its closed segments
and its expanded lines as they are, and only the stretch that is open at its end goes on.
-/

namespace LatexFigures.Document

-----------------------------------------------------------------------------------------
-- Closed and open stretches
-----------------------------------------------------------------------------------------

/-- Items leave these stretches closed and this one open. A delimiter among them closes each of the
former, and what follows them goes on with the latter.
-/
structure Stretch.Leaves (stretch : Stretch) (items : List Item) (closed : List Stretch)
    (opened : Stretch)
    : Prop where
  goesOn : ∀ more, stretchesFrom stretch (items ++ more) = closed ++ stretchesFrom opened more
  ended
    : ∀ found ∈ closed,
        ∃ delimiter,
          delimiter.isDelimiter = true
          ∧ found.upToEnd ++ [delimiter] <+: stretch.upToEnd ++ items.filterMap Item.token?
  reaches : opened.upToEnd = stretch.upToEnd ++ items.filterMap Item.token?

section Leaves

variable {stretch opened : Stretch} {items : List Item} {closed : List Stretch}

/-- A delimiter closes the stretch that is open in front of it. -/
theorem Stretch.Leaves.delimiter {delimiter : Token}
    (h : (stretch.next delimiter).Leaves items closed opened)
    (marks : delimiter.isDelimiter = true) (line : Text.Line)
    : stretch.Leaves (.token line delimiter :: items) (stretch :: closed) opened := by
  have tokens : (stretch.next delimiter).upToEnd ++ items.filterMap Item.token?
      = stretch.upToEnd ++ (Item.token line delimiter :: items).filterMap Item.token? := by
    simp [Stretch.next_upToEnd, Item.token?]
  refine ⟨fun more => ?_, ?_, tokens ▸ h.reaches⟩
  · rw [List.cons_append, stretchesFrom_delimiter marks, h.goesOn, List.cons_append]
  · intro found member
    rw [← tokens]
    rcases List.mem_cons.mp member with rfl | later
    · exact ⟨delimiter, marks, by rw [Stretch.next_upToEnd]; exact List.prefix_append _ _⟩
    · exact h.ended found later

/-- Other items belong to the stretch that is open in front of them. -/
theorem Stretch.Leaves.push {item : Item} (h : (stretch.push item).Leaves items closed opened)
    (undelimited : item.delimiter? = none)
    : stretch.Leaves (item :: items) closed opened := by
  have tokens : (stretch.push item).upToEnd ++ items.filterMap Item.token?
      = stretch.upToEnd ++ (item :: items).filterMap Item.token? := by
    rw [Stretch.push_upToEnd, List.filterMap_cons]
    cases item.token? <;> simp
  refine ⟨fun more => ?_, tokens ▸ h.ended, tokens ▸ h.reaches⟩
  rw [List.cons_append, stretchesFrom, undelimited]
  exact h.goesOn more

/-- Whatever the items are, they leave some stretches closed and one open. By induction on the
items.
-/
theorem exists_leaves (stretch : Stretch) (items : List Item)
    : ∃ closed opened, stretch.Leaves items closed opened := by
  induction items generalizing stretch with
  | nil => exact ⟨[], stretch, fun _ => rfl, by simp, by simp⟩
  | cons item items ih =>
      cases item with
      | blank =>
          obtain ⟨closed, opened, leaves⟩ := ih (stretch.push .blank)
          exact ⟨closed, opened, leaves.push rfl⟩
      | token line piece =>
          cases marks : piece.isDelimiter with
          | true =>
              obtain ⟨closed, opened, leaves⟩ := ih (stretch.next piece)
              exact ⟨stretch :: closed, opened, leaves.delimiter marks line⟩
          | false =>
              obtain ⟨closed, opened, leaves⟩ := ih (stretch.push (.token line piece))
              exact ⟨closed, opened, leaves.push (by simp [Item.delimiter?, marks])⟩

end Leaves

-----------------------------------------------------------------------------------------
-- A document and what follows it
-----------------------------------------------------------------------------------------

/-- The segments of stretches, those that have content. -/
def segmentsOf (rules : TextRules) (stretches : List Stretch) : List Segment :=
  (stretches.filter (·.HasContent rules)).map (·.segment rules)

theorem segmentsOf_append (rules : TextRules) (stretches more : List Stretch)
    : segmentsOf rules (stretches ++ more)
      = segmentsOf rules stretches ++ segmentsOf rules more := by
  rw [segmentsOf, List.filter_append, List.map_append, segmentsOf, segmentsOf]

theorem parse_eq_ok_iff {registry : Registry} {s : Text} {segments : List Segment}
    : parse registry s = .ok segments
      ↔ (items registry.delimiters s).findSome? Item.malformed? = none
        ∧ segmentsOf registry.rules (stretches registry.delimiters s) = segments := by
  rw [parse_eq]
  cases (items registry.delimiters s).findSome? Item.malformed? with
  | some e => simp
  | none => simp [segmentsOf, contentStretches]

/-- The items of a document come first in every document that goes on behind it. -/
theorem exists_items_append (table : DelimiterTable) (s rest : Text)
    : ∃ more, items table (s ++ '\n' :: rest) = items table s ++ more := by
  obtain ⟨more, lines⟩ := Text.exists_lines_append s rest
  rw [items, lines, itemsFrom_append]
  exact ⟨_, rfl⟩

/-- Text behind a document changes nothing that is closed. A document that is refused is refused
with the same error, whatever follows it on later lines. If both documents can be read, then the
segments that delimiters of the first one close come first in the second one too, as they are, with
their settings and figures; only what is open where the first one ends may go on. The expanded lines
of the first one come first among those of the second one.
-/
theorem parse_append_keeps_closed (registry : Registry) (s rest : Text)
    : (∀ e, parse registry s = .error e → parse registry (s ++ '\n' :: rest) = .error e)
      ∧ (∀ segments all,
          parse registry s = .ok segments
          → parse registry (s ++ '\n' :: rest) = .ok all
          → ∃ (closed : List Stretch) (opened : Stretch) (later : List Segment),
              stretches registry.delimiters s = closed ++ [opened]
              ∧ (∀ stretch ∈ closed,
                  ∃ delimiter,
                    delimiter.isDelimiter = true
                    ∧ stretch.upToEnd ++ [delimiter] <+: tokens registry.delimiters s)
              ∧ opened.upToEnd = tokens registry.delimiters s
              ∧ segments
                = segmentsOf registry.rules closed ++ segmentsOf registry.rules [opened]
              ∧ all = segmentsOf registry.rules closed ++ later)
      ∧ expand registry s <+: expand registry (s ++ '\n' :: rest) := by
  obtain ⟨more, whole⟩ := exists_items_append registry.delimiters s rest
  refine ⟨fun e failed => ?_, fun segments all parsed parsedAll => ?_, ?_⟩
  · rw [parse_eq_error_iff] at failed ⊢
    rw [whole, List.findSome?_append, failed, Option.some_or]
  · obtain ⟨closed, opened, leaves⟩ := exists_leaves {} (items registry.delimiters s)
    have first := leaves.goesOn []
    rw [List.append_nil] at first
    have both := leaves.goesOn more
    rw [← whole] at both
    have ended := leaves.ended
    have reaches := leaves.reaches
    rw [items_tokens] at ended reaches
    refine ⟨closed, opened, segmentsOf registry.rules (stretchesFrom opened more), first, ended,
      reaches, ?_, ?_⟩
    · rw [← (parse_eq_ok_iff.mp parsed).2, stretches, first, segmentsOf_append]
      rfl
    · rw [← (parse_eq_ok_iff.mp parsedAll).2, stretches, both, segmentsOf_append]
  · obtain ⟨lines, same⟩ := Text.exists_lines_append s rest
    rw [expand, expand, same, expandFrom_append]
    exact List.prefix_append _ _

/-- The paragraph in front of a figure is closed by it and stays; the figure is open and goes on. -/
theorem parse_append_keeps_closed_paragraph
    : ∃ (registry : Registry) (s rest : Text) (segments all : List Segment),
        s = "a\n\\begin\x7bpspicture\x7d(4,4)\n\\psline(1,1)".toList
        ∧ rest = "\\psline(2,2)\n\\end\x7bpspicture\x7d".toList
        ∧ parse registry s = .ok segments
        ∧ parse registry (s ++ '\n' :: rest) = .ok all
        ∧ segments.map (·.lines) = [["a".toList], ["\\psline(1,1)".toList]]
        ∧ all.map (·.lines)
          = [["a".toList], ["\\psline(1,1)".toList, "\\psline(2,2)".toList]]
        ∧ ∃ segment, segments.head? = some segment ∧ all.head? = some segment := by
  let registry : Registry := { rules := {} }
  let s : Text := "a\n\\begin\x7bpspicture\x7d(4,4)\n\\psline(1,1)".toList
  let rest : Text := "\\psline(2,2)\n\\end\x7bpspicture\x7d".toList
  obtain ⟨segments, parsed⟩ :=
    exists_segments (by decide +kernel : (parse registry s).toOption.isSome)
  obtain ⟨all, parsedAll⟩ :=
    exists_segments (by decide +kernel : (parse registry (s ++ '\n' :: rest)).toOption.isSome)
  have lines : (parse registry s).toOption.map (·.map (·.lines))
      = some [["a".toList], ["\\psline(1,1)".toList]] := by decide +kernel
  have allLines : (parse registry (s ++ '\n' :: rest)).toOption.map (·.map (·.lines))
      = some [["a".toList], ["\\psline(1,1)".toList, "\\psline(2,2)".toList]] := by
    decide +kernel
  rw [parsed] at lines
  rw [parsedAll] at allLines
  have lines := Option.some.inj lines
  refine ⟨registry, s, rest, segments, all, rfl, rfl, parsed, parsedAll, lines,
    Option.some.inj allLines, ?_⟩
  obtain ⟨closed, opened, later, -, -, -, rfl, rfl⟩ :=
    (parse_append_keeps_closed registry s rest).2.1 segments all parsed parsedAll
  -- two segments are there, and the open stretch is one of them at most
  have two := congrArg List.length lines
  have one := List.length_filter_le (fun stretch => stretch.HasContent registry.rules) [opened]
  simp only [List.length_map, List.length_append, segmentsOf, List.length_cons, List.length_nil]
    at two one
  obtain ⟨segment, more, first⟩ :=
    List.exists_cons_of_length_pos (l := segmentsOf registry.rules closed)
      (by simp only [segmentsOf, List.length_map]; omega)
  exact ⟨segment, by rw [first]; rfl, by rw [first]; rfl⟩

end LatexFigures.Document
