import Mathlib.Data.List.Infix
import LatexFigures.Proofs.Document.Progress
import LatexFigures.Proofs.Environment.Region
import LatexFigures.Proofs.Text.Lines

/-! A document that is one literal region is read as one segment. The opening delimiter takes the
groups behind it along; from there on every line that is not blank is kept as it stands.
-/

namespace LatexFigures.Document

-----------------------------------------------------------------------------------------
-- Regions
-----------------------------------------------------------------------------------------

/-- The text of a region: lines between the marks of an environment. -/
def regionText (kind : EnvironmentKind) (lines : List Text) : Text :=
  beginMark kind.tag ++ ['\n'].intercalate lines ++ endMark kind.tag

/-- The groups that the opening delimiter of a region takes along. The closing mark of a region of
one line stands on that.
-/
def regionArguments (kind : EnvironmentKind) (first : Text) (more : List Text) : Text :=
  (Delimiter.splitArguments (first ++ if more.isEmpty then endMark kind.tag else [])).1

/-- The lines of a region behind its groups, without the blank ones. -/
def regionContent (kind : EnvironmentKind) (first : Text) (more : List Text) : List Text :=
  (first.drop (regionArguments kind first more).length :: more).filter (!Text.isAllBlank ·)

/-- A line that can stand in a region: it is one line, and it does not end the region. -/
structure RegionLine (kind : EnvironmentKind) (line : Text) : Prop where
  unbroken : line.Unbroken
  inner : ¬ endMark kind.tag <:+: line

instance (kind : EnvironmentKind) (line : Text) : Decidable (RegionLine kind line) :=
  decidable_of_iff (line.Unbroken ∧ ¬ endMark kind.tag <:+: line)
    ⟨fun h => ⟨h.1, h.2⟩, fun h => ⟨h.unbroken, h.inner⟩⟩

variable {kind : EnvironmentKind}

theorem marks_unbroken {name : String} (named : isEnvironmentName name = true)
    : (beginMark name).Unbroken ∧ (endMark name).Unbroken := by
  have solid := marks_all_not_blank named
  simp only [List.all_eq_true] at solid
  have absent {c : Char} {mark : Text} (all : ∀ b ∈ mark, (!Text.isBlank b) = true)
      (blank : Text.isBlank c = true) : c ∉ mark := fun inside => by
    simpa [blank] using all c inside
  exact ⟨⟨absent solid.1 (by decide), absent solid.1 (by decide)⟩,
    ⟨absent solid.2 (by decide), absent solid.2 (by decide)⟩⟩

/-- The opening mark stands on the first line, the closing one on the last. -/
theorem regionText_lines (named : isEnvironmentName kind.tag = true) {first last : Text}
    {middle : List Text} (fits : ∀ line ∈ first :: (middle ++ [last]), RegionLine kind line)
    : (Text.lines (regionText kind (first :: (middle ++ [last])))).map (·.text)
      = (beginMark kind.tag ++ first) :: (middle ++ [last ++ endMark kind.tag]) := by
  have joined : regionText kind (first :: (middle ++ [last]))
      = ['\n'].intercalate
          ((beginMark kind.tag ++ first) :: (middle ++ [last ++ endMark kind.tag])) := by
    rw [regionText, Text.append_intercalate_cons, ← List.cons_append,
      Text.intercalate_append_singleton, List.cons_append]
  obtain ⟨opening, closing⟩ := marks_unbroken named
  rw [joined]
  refine Text.lines_intercalate_map_text (List.cons_ne_nil _ _) fun part member => ?_
  rcases List.mem_cons.mp member with rfl | later
  · exact opening.append (fits first (by simp)).unbroken
  · rcases List.mem_append.mp later with inside | final
    · exact (fits part (by simp [inside])).unbroken
    · obtain rfl := List.mem_singleton.mp final
      exact (fits last (by simp)).unbroken.append closing

theorem regionText_lines_singleton (named : isEnvironmentName kind.tag = true) {only : Text}
    (fits : RegionLine kind only)
    : (Text.lines (regionText kind [only])).map (·.text)
      = [beginMark kind.tag ++ (only ++ endMark kind.tag)] := by
  have joined : regionText kind [only]
      = ['\n'].intercalate [beginMark kind.tag ++ (only ++ endMark kind.tag)] := by
    simp [regionText, List.intercalate]
  obtain ⟨opening, closing⟩ := marks_unbroken named
  rw [joined]
  refine Text.lines_intercalate_map_text (List.cons_ne_nil _ _) fun part member => ?_
  obtain rfl := List.mem_singleton.mp member
  exact opening.append (fits.unbroken.append closing)

-----------------------------------------------------------------------------------------
-- Reading a region
-----------------------------------------------------------------------------------------

variable {table : DelimiterTable} {rules : TextRules} {p : Progress} {kept : List Text}

/-- Reading stands in the first region of the document and has kept these lines of it. -/
structure Progress.Inside (kind : EnvironmentKind) (kept : List Text) (p : Progress) : Prop where
  segments : p.segments = []
  kind : p.pending.kind = kind
  lines : p.pending.lines = kept

/-- What the tokens of one line do. -/
def Progress.line? (rules : TextRules) (line : Text.Line) (p : Progress) (tokens : List Token)
    : Option Progress :=
  tokens.foldlM (fun p token => p.step? rules (.token line token)) p

/-- A line that is not blank is read token by token, and then the lines behind it are. -/
theorem run_line {current : EnvironmentKind} {line : Text.Line} {lines : List Text.Line}
    (some : line.text.isAllBlank = false)
    : (itemsFrom table current (line :: lines)).foldlM (Progress.step? rules) p
      = (p.line? rules line (table.scan current line.text).1).bind
          ((itemsFrom table (table.scan current line.text).2 lines).foldlM
            (Progress.step? rules)) := by
  rw [itemsFrom, if_neg (by simp [some]), List.foldlM_append, List.foldlM_map]
  rfl

namespace Progress

/-- Literal content is kept as it stands, unless it is blank. -/
theorem Inside.content (h : p.Inside kind kept) (rules : TextRules)
    (literal : kind.isLiteral = true) (line : Text.Line) (s : Text)
    : ∃ q : Progress,
        q.Inside kind (kept ++ [s].filter (!·.isAllBlank))
        ∧ p.line? rules line (DelimiterTable.contentToken kind s) = some q := by
  by_cases empty : s = []
  · subst empty
    exact ⟨p, by simpa [Text.isAllBlank] using h, rfl⟩
  · have token : DelimiterTable.contentToken kind s = [.content s true] := by
      simp [DelimiterTable.contentToken, empty, literal]
    refine ⟨p.addContent rules s true, ?_, by rw [token]; rfl⟩
    cases blank : s.isAllBlank with
    | true => simpa [addContent, blank] using h
    | false =>
        have same : p.addContent rules s true = p.keep s s := by simp [addContent, blank]
        rw [same]
        exact ⟨h.segments, h.kind, by simp [keep, h.lines, blank]⟩

/-- Lines of a literal region are kept unless they are blank, and the region goes on behind them.
By induction on the lines.
-/
theorem Inside.run (h : p.Inside kind kept) (rules : TextRules) (literal : kind.isLiteral = true)
    {lines : List Text.Line} (unmarked : ∀ line ∈ lines, table.Unmarked kind line.text)
    (more : List Text.Line)
    : ∃ q : Progress,
        q.Inside kind (kept ++ (lines.map (·.text)).filter (!·.isAllBlank))
        ∧ (itemsFrom table kind (lines ++ more)).foldlM (step? rules) p
          = (itemsFrom table kind more).foldlM (step? rules) q := by
  induction lines generalizing p kept with
  | nil => exact ⟨p, by simpa using h, rfl⟩
  | cons line lines ih =>
      have later := fun line inside => unmarked line (List.mem_cons_of_mem _ inside)
      cases blank : line.text.isAllBlank with
      | true =>
          have added : p.addBlank.Inside kind kept := ⟨h.segments, h.kind, h.lines⟩
          obtain ⟨q, inside, rest⟩ := ih added later
          refine ⟨q, by simpa [blank] using inside, ?_⟩
          rw [List.cons_append, itemsFrom, if_pos blank, List.foldlM_cons, ← rest]
          rfl
      | false =>
          obtain ⟨next, taken, step⟩ := h.content rules literal line line.text
          obtain ⟨q, inside, rest⟩ := ih taken later
          refine ⟨q, by simpa [blank] using inside, ?_⟩
          rw [List.cons_append, run_line blank,
            DelimiterTable.scan_of_unmarked (unmarked line List.mem_cons_self), step, ← rest]
          rfl

/-- The closing mark ends the region, which is one segment if anything was kept. -/
theorem Inside.ending (h : p.Inside kind kept) (rules : TextRules) (literal : kind.isLiteral = true)
    (line : Text.Line) (s mark : Text)
    (nonempty : kept ++ [s].filter (!·.isAllBlank) ≠ [])
    : ∃ (last : Progress) (segment : Segment),
        p.line? rules line (DelimiterTable.contentToken kind s ++ [.closing kind mark]) = some last
        ∧ (last.close { kind := .math }).segments = [segment]
        ∧ segment.kind = kind
        ∧ segment.lines = kept ++ [s].filter (!·.isAllBlank) := by
  obtain ⟨q, inside, taken⟩ := h.content rules literal line s
  have ended : p.line? rules line (DelimiterTable.contentToken kind s ++ [.closing kind mark])
      = some (q.close { kind := .math }) := by
    rw [line?] at taken ⊢
    rw [List.foldlM_append, taken]
    rfl
  have some : q.pending.lines.isEmpty = false := by
    rw [inside.lines]
    exact List.isEmpty_eq_false_iff.mpr nonempty
  refine ⟨_, ⟨q.pending.kind, q.pending.lines, q.pending.html, q.settings,
    q.pending.context.map (Figure.ofLines q.pending.lines)⟩, ended, ?_, inside.kind, inside.lines⟩
  simp [close, some, inside.segments]

theorem line?_opening (literal : kind.isLiteral = true) (line : Text.Line) (header : Text)
    (tokens : List Token)
    : ({} : Progress).line? rules line (.opening kind header :: tokens)
      = ({ pending := { kind } } : Progress).line? rules line tokens := by
  have plain : kind.isFigure = false := by
    cases kind with
    | figure => cases literal
    | _ => rfl
  simp [line?, step?, enter?, plain, close]

end Progress

-----------------------------------------------------------------------------------------
-- Regions as segments
-----------------------------------------------------------------------------------------

theorem Progress.inside_opened (kind : EnvironmentKind)
    : ({ pending := { kind } } : Progress).Inside kind [] :=
  ⟨rfl, rfl, rfl⟩

variable {registry : Registry}

/-- What a region is read as. -/
def ReadsAs (registry : Registry) (kind : EnvironmentKind) (lines content : List Text) : Prop :=
  ∃ segment,
    parse registry (regionText kind lines) = .ok [segment]
    ∧ segment.kind = kind
    ∧ segment.lines = content

theorem RegionLine.of_append {front back : Text} (fits : RegionLine kind (front ++ back))
    : ¬ endMark kind.tag <:+: back := fun inside =>
  fits.inner (inside.trans (List.suffix_append front back).isInfix)

theorem isAllBlank_of_mark {front mark back : Text} (nonempty : mark ≠ [])
    (solid : mark.all (!Text.isBlank ·) = true)
    : Text.isAllBlank (front ++ (mark ++ back)) = false := by
  obtain ⟨c, rest, rfl⟩ := List.exists_cons_of_ne_nil nonempty
  have char := List.all_eq_true.mp solid c List.mem_cons_self
  simp only [Bool.not_eq_true'] at char
  simp [Text.isAllBlank, char]

section Reading

variable (registered : kind ∈ registry.delimiters.kinds) (literal : kind.isLiteral = true)
include registered literal

/-- A region of one line is a segment of what stands between its groups and its closing mark. -/
theorem parse_region_singleton {arguments inner : Text}
    (fits : RegionLine kind (arguments ++ inner))
    (cut : Delimiter.splitArguments (arguments ++ inner ++ endMark kind.tag)
      = (arguments, inner ++ endMark kind.tag))
    (nonempty : [inner].filter (!Text.isAllBlank ·) ≠ [])
    : ReadsAs registry kind [arguments ++ inner] ([inner].filter (!Text.isAllBlank ·)) := by
  have named := DelimiterTable.named_of_mem_kinds registered
  obtain ⟨line, lines, text⟩ :=
    List.map_eq_singleton_iff.mp (regionText_lines_singleton named fits)
  have solid : line.text.isAllBlank = false := by
    rw [text, ← List.nil_append (beginMark kind.tag ++ _)]
    exact isAllBlank_of_mark (beginMark_ne_nil _) (marks_all_not_blank named).1
  obtain ⟨last, segment, run, closed, same⟩ :=
    (Progress.inside_opened kind).ending registry.rules literal line inner
      (endMark kind.tag) nonempty
  refine ⟨segment, collect_eq_ok_iff.mpr ⟨last, ?_, closed⟩, same⟩
  rw [items, lines, run_line solid, text, DelimiterTable.scan_beginMark registered rfl cut,
    DelimiterTable.scan_endMark registered literal fits.of_append,
    Progress.line?_opening literal, run]
  rfl

/-- A region of several lines is a segment of them, without the groups on the first one. -/
theorem parse_region_lines {arguments inner last : Text} {middle : List Text}
    (fits : ∀ line ∈ (arguments ++ inner) :: (middle ++ [last]), RegionLine kind line)
    (cut : Delimiter.splitArguments (arguments ++ inner) = (arguments, inner))
    (nonempty : (inner :: (middle ++ [last])).filter (!Text.isAllBlank ·) ≠ [])
    : ReadsAs registry kind ((arguments ++ inner) :: (middle ++ [last]))
        ((inner :: (middle ++ [last])).filter (!Text.isAllBlank ·)) := by
  have named := DelimiterTable.named_of_mem_kinds registered
  obtain ⟨opening, rest, lines, atOpening, texts⟩ :=
    List.map_eq_cons_iff.mp (regionText_lines named fits)
  obtain ⟨between, closing, rfl, atMiddle, atLast⟩ := List.map_eq_append_iff.mp texts
  obtain ⟨closing, rfl, atClosing⟩ := List.map_eq_singleton_iff.mp atLast
  have solidOpening : opening.text.isAllBlank = false := by
    rw [atOpening, ← List.nil_append (beginMark kind.tag ++ _)]
    exact isAllBlank_of_mark (beginMark_ne_nil _) (marks_all_not_blank named).1
  have solidClosing : closing.text.isAllBlank = false := by
    rw [atClosing, ← List.append_nil (endMark kind.tag)]
    exact isAllBlank_of_mark (endMark_ne_nil _) (marks_all_not_blank named).2
  have unmarked : ∀ line ∈ between, registry.delimiters.Unmarked kind line.text := by
    intro line inside
    have listed : line.text ∈ middle := atMiddle ▸ List.mem_map_of_mem inside
    exact DelimiterTable.unmarked_of_literal literal (fits line.text (by simp [listed])).inner
  have free : ¬ endMark kind.tag <:+: inner := (fits _ List.mem_cons_self).of_append
  have parts : (inner :: (middle ++ [last])).filter (!Text.isAllBlank ·)
      = [] ++ [inner].filter (!Text.isAllBlank ·) ++ middle.filter (!Text.isAllBlank ·)
        ++ [last].filter (!Text.isAllBlank ·) := by
    rw [← List.singleton_append, List.filter_append, List.filter_append, List.nil_append,
      List.append_assoc]
  rw [parts] at nonempty ⊢
  -- the first line, the lines between, and the last one
  obtain ⟨p, inside, first⟩ := (Progress.inside_opened kind).content registry.rules
    literal opening inner
  obtain ⟨q, further, run⟩ := inside.run registry.rules literal unmarked [closing]
  rw [atMiddle] at further
  obtain ⟨final, segment, ended, closed, same⟩ := further.ending registry.rules
    literal closing last (endMark kind.tag) nonempty
  refine ⟨segment, collect_eq_ok_iff.mpr ⟨final, ?_, closed⟩, same⟩
  rw [items, lines, run_line solidOpening, atOpening,
    DelimiterTable.scan_beginMark registered rfl cut,
    DelimiterTable.scan_of_unmarked (DelimiterTable.unmarked_of_literal literal free),
    Progress.line?_opening literal, first, Option.bind_some, run, run_line solidClosing,
    atClosing, DelimiterTable.scan_endMark registered literal (fits last (by simp)).inner, ended]
  rfl

/-- A region whose groups end in front of the closing mark is one segment. -/
theorem parse_region {first : Text} {more : List Text}
    (fits : ∀ line ∈ first :: more, RegionLine kind line)
    (before : regionArguments kind first more <+: first)
    (nonempty : regionContent kind first more ≠ [])
    : ReadsAs registry kind (first :: more) (regionContent kind first more) := by
  generalize groups : regionArguments kind first more = arguments at before
  obtain ⟨inner, rfl⟩ := before
  have content : regionContent kind (arguments ++ inner) more
      = (inner :: more).filter (!Text.isAllBlank ·) := by
    rw [regionContent, groups, List.drop_left]
  rw [content] at nonempty ⊢
  rcases more.eq_nil_or_concat with rfl | ⟨middle, last, rfl⟩
  · rw [regionArguments, List.isEmpty_nil, if_pos rfl, List.append_assoc] at groups
    have cut : Delimiter.splitArguments (arguments ++ inner ++ endMark kind.tag)
        = (arguments, inner ++ endMark kind.tag) := by
      rw [List.append_assoc]
      exact Delimiter.splitArguments_eq groups
    exact parse_region_singleton registered literal (fits _ List.mem_cons_self) cut nonempty
  · rw [regionArguments, if_neg (by simp), List.append_nil] at groups
    have cut := Delimiter.splitArguments_eq groups
    rw [List.concat_eq_append] at *
    exact parse_region_lines registered literal fits cut nonempty

end Reading

-----------------------------------------------------------------------------------------
-- Groups of a region
-----------------------------------------------------------------------------------------

theorem not_mem_endMark {name : String} {c : Char} (other : c ∉ "\\end\x7b".toList)
    (brace : c ≠ '\x7d') (free : c ∉ name.toList)
    : c ∉ endMark name := by
  unfold endMark
  rw [List.mem_append, List.mem_append, List.mem_singleton]
  exact fun inside => inside.elim (fun front => front.elim other free) brace

theorem head_endMark {name : String}
    : ∀ c ∈ (endMark name).head?, Text.isSpace c = false ∧ c ≠ '[' ∧ c ≠ '(' := by
  intro c head
  have start : (endMark name).head? = some '\\' := rfl
  rw [start] at head
  obtain rfl := Option.some.inj head
  decide

/-- The closing mark is no part of the groups, unless its name could close one. -/
theorem regionArguments_eq {first : Text} {more : List Text}
    (apart : more ≠ [] ∨ (']' ∉ kind.tag.toList ∧ ')' ∉ kind.tag.toList))
    : regionArguments kind first more = (Delimiter.splitArguments first).1 := by
  cases more with
  | cons line more => rw [regionArguments, if_neg (by simp), List.append_nil]
  | nil =>
      obtain ⟨noBracket, noParenthesis⟩ := apart.resolve_left fun some => some rfl
      have cut := Delimiter.splitArguments_append_back first
        (not_mem_endMark (by decide) (by decide) noBracket)
        (not_mem_endMark (by decide) (by decide) noParenthesis) head_endMark
      rw [regionArguments, List.isEmpty_nil, if_pos rfl, cut]

theorem regionArguments_of_head {first : Text} {more : List Text}
    (plain : ∀ c ∈ (first.dropWhile Text.isSpace).head?, c ≠ '[' ∧ c ≠ '(')
    : regionArguments kind first more = [] := by
  cases more with
  | nil =>
      have starts : ∀ c ∈ ((first ++ endMark kind.tag).dropWhile Text.isSpace).head?,
          c ≠ '[' ∧ c ≠ '(' :=
        Text.head_dropWhile_append plain head_endMark
      rw [regionArguments, List.isEmpty_nil, if_pos rfl, Delimiter.splitArguments_of_head starts]
  | cons line more =>
      rw [regionArguments_eq (.inl (List.cons_ne_nil _ _)), Delimiter.splitArguments_of_head plain]

/-- A literal region is one segment of its kind, with the lines that are not blank as they stand,
except for groups that follow the opening mark. These groups are the ones on the first line,
unless that is also the last and a name with their closing characters in it stands behind them.
-/
theorem parse_literal_region {first : Text} {more : List Text}
    (registered : kind ∈ registry.delimiters.kinds) (literal : kind.isLiteral = true)
    (fits : ∀ line ∈ first :: more, RegionLine kind line)
    : (more ≠ [] ∨ (']' ∉ kind.tag.toList ∧ ')' ∉ kind.tag.toList)
        → regionArguments kind first more = (Delimiter.splitArguments first).1)
      ∧ ((∀ c ∈ (first.dropWhile Text.isSpace).head?, c ≠ '[' ∧ c ≠ '(')
        → regionArguments kind first more = [])
      ∧ (regionArguments kind first more <+: first
        → regionContent kind first more ≠ []
        → ReadsAs registry kind (first :: more) (regionContent kind first more)) :=
  ⟨regionArguments_eq, regionArguments_of_head, parse_region registered literal fits⟩

/-- Groups behind the opening mark are not kept, although they stand in front of the closing one.
-/
theorem parse_literal_region_drops_group
    : ¬ ∀ (registry : Registry) (kind : EnvironmentKind) (first : Text) (more : List Text),
        kind ∈ registry.delimiters.kinds
        → kind.isLiteral = true
        → (∀ line ∈ first :: more, RegionLine kind line)
        → (first :: more).filter (!Text.isAllBlank ·) ≠ []
        → ReadsAs registry kind (first :: more) ((first :: more).filter (!Text.isAllBlank ·)) := by
  intro claim
  obtain ⟨segment, parsed, -, lines⟩ := claim {} .verbatim "[x]y".toList [] (by decide +kernel)
    rfl (by decide +kernel) (by decide)
  have read : (parse {} (regionText .verbatim ["[x]y".toList])).toOption.map
      (fun segments => segments.map (·.lines)) = some [["y".toList]] := by
    decide +kernel
  rw [parsed] at read
  have kept : segment.lines = ["y".toList] := by simpa [Except.toOption] using read
  rw [kept] at lines
  exact absurd lines (by decide)

/-- Other marks, a comment and a declaration are content, and so are groups on later lines. -/
theorem parse_literal_region_keeps_marks
    : ∃ (registry : Registry) (kind : EnvironmentKind),
        kind = .custom "a(b" true
        ∧ kind ∈ registry.delimiters.kinds
        ∧ ReadsAs registry kind
            ["[x] (1,2)%y\\psset\x7bunit=2cm\x7d".toList, " ".toList,
              "(3,4)\\end\x7bprint\x7d\\begin\x7ba(b\x7d".toList]
            ["%y\\psset\x7bunit=2cm\x7d".toList,
              "(3,4)\\end\x7bprint\x7d\\begin\x7ba(b\x7d".toList] := by
  let registry : Registry := ((Registry.addEnvironment "a(b" true).run {}).2
  let kind : EnvironmentKind := .custom "a(b" true
  let first : Text := "[x] (1,2)%y\\psset\x7bunit=2cm\x7d".toList
  let more : List Text := [" ".toList, "(3,4)\\end\x7bprint\x7d\\begin\x7ba(b\x7d".toList]
  have registered : kind ∈ registry.delimiters.kinds := by decide +kernel
  have fits : ∀ line ∈ first :: more, RegionLine kind line := by decide +kernel
  obtain ⟨groups, -, reads⟩ := parse_literal_region registered rfl fits
  have before : regionArguments kind first more = "[x] (1,2)".toList :=
    (groups (.inl (List.cons_ne_nil _ _))).trans (by decide +kernel)
  have content : regionContent kind first more
      = ["%y\\psset\x7bunit=2cm\x7d".toList,
          "(3,4)\\end\x7bprint\x7d\\begin\x7ba(b\x7d".toList] := by
    rw [regionContent, before]
    decide +kernel
  refine ⟨registry, kind, rfl, registered, ?_⟩
  rw [← content]
  exact reads (by rw [before]; decide +kernel) (by rw [content]; exact List.cons_ne_nil _ _)

end LatexFigures.Document
