import LatexFigures.Proofs.Document.Expansion

/-! Edits of one line. A line that is content alone, and declares nothing, belongs to one segment;
with other content in its place that segment has another fragment, and all others stay as they are.
Two runs are compared, one over each version of the document.
-/

namespace LatexFigures.Document

-----------------------------------------------------------------------------------------
-- Lists and segments with one entry replaced
-----------------------------------------------------------------------------------------

/-- The lists are the same but for one place, where the first has (x) and the second (y). -/
def Replaced {α : Type} (x y : α) (xs ys : List α) : Prop :=
  ∃ before after, xs = before ++ x :: after ∧ ys = before ++ y :: after

section Replaced

variable {α : Type} {x y : α} {xs ys : List α}

theorem Replaced.last (front : List α) (x y : α) : Replaced x y (front ++ [x]) (front ++ [y]) :=
  ⟨front, [], rfl, rfl⟩

theorem Replaced.append (h : Replaced x y xs ys) (more : List α)
    : Replaced x y (xs ++ more) (ys ++ more) := by
  obtain ⟨before, after, rfl, rfl⟩ := h
  exact ⟨before, after ++ more, by simp, by simp⟩

theorem Replaced.isEmpty_eq_false (h : Replaced x y xs ys)
    : xs.isEmpty = false ∧ ys.isEmpty = false := by
  obtain ⟨before, after, rfl, rfl⟩ := h
  simp

end Replaced

variable {registry : Registry} {rules : TextRules} {kind : EnvironmentKind} {old new : Text}

/-- Where (kind) is in force, the segments have the fragment (old) and the fragment (new) in the
same place, and are the same otherwise. Their drawings, if they are figures, begin in the same
context.
-/
structure EditedSegment (rules : TextRules) (kind : EnvironmentKind) (old new : Text)
    (segment edited : Segment)
    : Prop where
  inForce : segment.kind = kind ∧ edited.kind = kind
  settings : edited.settings = segment.settings
  lines : Replaced old new segment.lines edited.lines
  html
    : Replaced (fragmentHtml rules kind old) (fragmentHtml rules kind new) segment.html edited.html
  figure
    : ∃ context : Option Context,
        segment.figure = context.map (Figure.ofLines segment.lines)
        ∧ edited.figure = context.map (Figure.ofLines edited.lines)

-----------------------------------------------------------------------------------------
-- Two runs
-----------------------------------------------------------------------------------------

/-- What is being collected, with the fragment (old) and the fragment (new) in the same place. -/
structure EditedPending (rules : TextRules) (kind : EnvironmentKind) (old new : Text)
    (pending edited : Pending)
    : Prop where
  inForce : pending.kind = kind ∧ edited.kind = kind
  context : edited.context = pending.context
  lines : Replaced old new pending.lines edited.lines
  html
    : Replaced (fragmentHtml rules kind old) (fragmentHtml rules kind new) pending.html edited.html

/-- How far two runs have come that differ in one fragment behind them: it is still being collected,
or stands in a segment.
-/
inductive EditedProgress (rules : TextRules) (kind : EnvironmentKind) (old new : Text)
    (p q : Progress)
    : Prop
  | collecting (settings : q.settings = p.settings) (segments : q.segments = p.segments)
      (pending : EditedPending rules kind old new p.pending q.pending)
  | closed (settings : q.settings = p.settings) (pending : q.pending = p.pending)
      (segments : ∃ segment edited,
        EditedSegment rules kind old new segment edited
        ∧ Replaced segment edited p.segments q.segments)

namespace EditedProgress

variable {p q next : Progress}

theorem settings_eq (h : EditedProgress rules kind old new p q) : q.settings = p.settings := by
  cases h with
  | collecting settings | closed settings => exact settings

theorem kind_eq (h : EditedProgress rules kind old new p q)
    : q.pending.kind = p.pending.kind := by
  cases h with
  | collecting _ _ pending => rw [pending.inForce.1, pending.inForce.2]
  | closed _ pending => rw [pending]

theorem declare (h : EditedProgress rules kind old new p q) (settings : Settings)
    : EditedProgress rules kind old new { p with settings } { q with settings } := by
  cases h with
  | collecting _ segments pending => exact .collecting rfl segments pending
  | closed _ pending segments => exact .closed rfl pending segments

theorem keep (h : EditedProgress rules kind old new p q) (fragment html : Text)
    : EditedProgress rules kind old new (p.keep fragment html) (q.keep fragment html) := by
  cases h with
  | collecting settings segments pending =>
      refine .collecting settings segments ?_
      exact ⟨pending.inForce, pending.context, pending.lines.append _, pending.html.append _⟩
  | closed settings pending segments =>
      refine .closed settings ?_ segments
      simp only [Progress.keep, pending]

theorem addBlank (h : EditedProgress rules kind old new p q)
    : EditedProgress rules kind old new p.addBlank q.addBlank := by
  cases h with
  | collecting settings segments pending =>
      refine .collecting settings segments ?_
      exact ⟨pending.inForce, pending.context, pending.lines, pending.html.append _⟩
  | closed settings pending segments =>
      refine .closed settings ?_ segments
      simp only [Progress.addBlank, pending]

theorem addContent (h : EditedProgress rules kind old new p q) (fragment : Text) (literal : Bool)
    : EditedProgress rules kind old new (p.addContent rules fragment literal)
        (q.addContent rules fragment literal) := by
  unfold Progress.addContent
  simp only [h.settings_eq, h.kind_eq]
  split
  · exact h
  · split
    · exact h.keep _ _
    · split
      · exact h
      · split
        · exact h.keep _ _
        · split
          · exact (h.declare _).keep _ _
          · exact h.declare _

/-- Closing puts the fragment into a segment, unless it stands in one already. -/
theorem close_segments (h : EditedProgress rules kind old new p q) (pending : Pending)
    : ∃ segment edited,
        EditedSegment rules kind old new segment edited
        ∧ Replaced segment edited (p.close pending).segments (q.close pending).segments := by
  cases h with
  | collecting settings segments collected =>
      obtain ⟨some, someEdited⟩ := collected.lines.isEmpty_eq_false
      simp only [Progress.close, some, someEdited, Bool.false_eq_true, if_false, settings, segments,
        collected.context]
      refine ⟨_, _, ?_, Replaced.last _ _ _⟩
      exact ⟨collected.inForce, rfl, collected.lines, collected.html, p.pending.context, rfl, rfl⟩
  | closed settings same segments =>
      obtain ⟨segment, edited, isEdited, replaced⟩ := segments
      refine ⟨segment, edited, isEdited, ?_⟩
      simp only [Progress.close, same, settings]
      split
      · exact replaced
      · exact replaced.append _

theorem close (h : EditedProgress rules kind old new p q) (pending : Pending)
    : EditedProgress rules kind old new (p.close pending) (q.close pending) := by
  obtain ⟨settings, same⟩ := p.close_frame pending
  obtain ⟨settingsEdited, sameEdited⟩ := q.close_frame pending
  refine .closed ?_ (sameEdited.trans same.symm) (h.close_segments pending)
  rw [settings, settingsEdited, h.settings_eq]

/-- The second run takes every step that the first one takes, wherever the items stand. -/
theorem step (h : EditedProgress rules kind old new p q) {item other : Item}
    (same : other.token? = item.token?) (step : p.step? rules item = some next)
    : ∃ edited,
        q.step? rules other = some edited ∧ EditedProgress rules kind old new next edited := by
  cases item with
  | blank =>
      cases other with
      | token => cases same
      | blank =>
          obtain rfl := Option.some.inj step
          exact ⟨_, rfl, h.addBlank⟩
  | token line piece =>
      cases other with
      | blank => cases same
      | token place piece =>
          obtain rfl := Option.some.inj same
          cases piece with
          | content text literal =>
              obtain rfl := Option.some.inj step
              exact ⟨_, rfl, h.addContent text literal⟩
          | closing =>
              obtain rfl := Option.some.inj step
              exact ⟨_, rfl, h.close _⟩
          | opening opened header =>
              simp only [Progress.step?, Progress.enter?] at step ⊢
              split at step
              · rename_i figure
                obtain ⟨canvas, read, rfl⟩ := Option.map_eq_some_iff.mp step
                rw [if_pos figure, read, h.settings_eq]
                exact ⟨_, rfl, h.close _⟩
              · rename_i other
                obtain rfl := Option.some.inj step
                rw [if_neg other]
                exact ⟨_, rfl, h.close _⟩

/-- The second run gets as far as the first one, by induction on the items. -/
theorem run (h : EditedProgress rules kind old new p q) {items others : List Item}
    (same : others.map Item.token? = items.map Item.token?) {last : Progress}
    (run : items.foldlM (Progress.step? rules) p = some last)
    : ∃ edited,
        others.foldlM (Progress.step? rules) q = some edited
        ∧ EditedProgress rules kind old new last edited := by
  induction items generalizing p q others with
  | nil =>
      obtain rfl := List.map_eq_nil_iff.mp same
      obtain rfl := Option.some.inj run
      exact ⟨q, rfl, h⟩
  | cons item items ih =>
      obtain ⟨other, others, rfl, here, later⟩ := List.map_eq_cons_iff.mp same
      rw [List.foldlM_cons] at run
      obtain ⟨next, first, rest⟩ := Option.bind_eq_some_iff.mp run
      obtain ⟨edited, step, apart⟩ := h.step here first
      obtain ⟨final, run, apart⟩ := ih apart later rest
      exact ⟨final, by rw [List.foldlM_cons, step]; exact run, apart⟩

end EditedProgress

-----------------------------------------------------------------------------------------
-- Lines that are content alone
-----------------------------------------------------------------------------------------

/-- The environment in force behind the text (front). -/
def kindAt (table : DelimiterTable) (front : Text) : EnvironmentKind :=
  Token.inForceAfter (tokens table front)

/-- The line behind (front) is one fragment, which is kept and declares nothing: it is not blank,
and it stands in a literal region, or else no rule ignores it and it is no declaration.
-/
structure PlainAt (registry : Registry) (front raw : Text) : Prop where
  single : ∃ text literal, tokensAt registry.delimiters front raw = [.content text literal]
  solid : (Text.dropReturn raw).isAllBlank = false
  kept
    : (kindAt registry.delimiters front).isLiteral = true
      ∨ registry.rules.isIgnored (Text.dropReturn raw) = false
        ∧ Settings.bodyIn? (Text.dropReturn raw) = none

section PlainAt

variable {s front raw back : Text}

/-- The fragment is the whole line, and literal exactly if the environment in force is. -/
theorem PlainAt.tokensAt_eq (plain : PlainAt registry front raw)
    : tokensAt registry.delimiters front raw
      = [.content (Text.dropReturn raw) (kindAt registry.delimiters front).isLiteral] := by
  obtain ⟨text, literal, single⟩ := plain.single
  have whole := registry.delimiters.scan_flatMap_text (kindAt registry.delimiters front)
    (Text.dropReturn raw)
  have fits := registry.delimiters.fitting_scan (kindAt registry.delimiters front)
    (Text.dropReturn raw)
  rw [tokensAt, ← kindAt] at single
  rw [single] at whole fits
  rw [tokensAt, ← kindAt, single, ← fits.1.2.1, ← whole]
  simp [Token.text]

/-- The same lines with their places give the same tokens, by induction on the lines. -/
theorem itemsFrom_map_token?_congr {table : DelimiterTable} {current : EnvironmentKind}
    {lines others : List Text.Line} (same : others.map (·.text) = lines.map (·.text))
    : (itemsFrom table current others).map Item.token?
      = (itemsFrom table current lines).map Item.token? := by
  induction lines generalizing current others with
  | nil => rw [List.map_eq_nil_iff.mp same]
  | cons line lines ih =>
      obtain ⟨other, others, rfl, here, later⟩ := List.map_eq_cons_iff.mp same
      rw [itemsFrom, itemsFrom, here]
      split
      · simp only [List.map_cons, ih later]
      · simp only [List.map_append, List.map_map, ih later, Function.comp_def, Item.token?]

/-- The items of a document around such a line. Behind it the environment is still in force. -/
theorem PlainAt.items_eq (plain : PlainAt registry front raw) (stands : s.LineAt front raw back)
    : ∃ earlier later,
        items registry.delimiters s
          = itemsFrom registry.delimiters .math earlier
            ++ .token (Text.lineBehind front (Text.dropReturn raw))
                (.content (Text.dropReturn raw) (kindAt registry.delimiters front).isLiteral)
              :: itemsFrom registry.delimiters (kindAt registry.delimiters front) later
        ∧ Text.lines front = earlier ++ [Text.lineBehind front []]
        ∧ later.map (·.text) = (Text.splitAll '\n' back).tail.map Text.dropReturn := by
  obtain ⟨earlier, later, lines, before, behind⟩ := stands.lines_eq
  refine ⟨earlier, later, ?_, before, behind⟩
  have tokens := plain.tokensAt_eq
  have state := registry.delimiters.scan_snd (kindAt registry.delimiters front)
    (Text.dropReturn raw)
  rw [tokensAt, ← kindAt] at tokens
  rw [tokens] at state
  have solid : ¬ (Text.lineBehind front (Text.dropReturn raw)).text.isAllBlank = true := by
    simp [Text.lineBehind, plain.solid]
  rw [items, lines, itemsFrom_append, stateBehind_eq_of_lines before, ← kindAt, itemsFrom,
    if_neg solid]
  simp only [Text.lineBehind, tokens, state, List.map_cons, List.map_nil, List.singleton_append,
    List.foldl_cons, List.foldl_nil, Token.leadsTo]

/-- Such a line adds its fragment to what is being collected. -/
theorem PlainAt.addContent_eq (plain : PlainAt registry front raw) (p : Progress)
    : p.addContent registry.rules (Text.dropReturn raw)
        (kindAt registry.delimiters front).isLiteral
      = p.keep (Text.dropReturn raw)
          (fragmentHtml registry.rules (kindAt registry.delimiters front)
            (Text.dropReturn raw)) := by
  rw [Progress.addContent, plain.solid, fragmentHtml]
  cases literal : (kindAt registry.delimiters front).isLiteral with
  | true => rfl
  | false =>
      obtain ⟨used, undeclared⟩ := plain.kept.resolve_left (by simp [literal])
      simp [used, undeclared]

end PlainAt

-----------------------------------------------------------------------------------------
-- Two versions of a line
-----------------------------------------------------------------------------------------

/-- Behind the two versions of a line the runs differ in its fragment. -/
theorem editedProgress_keep {p : Progress} (inForce : p.pending.kind = kind)
    : EditedProgress rules kind old new (p.keep old (fragmentHtml rules kind old))
        (p.keep new (fragmentHtml rules kind new)) :=
  .collecting rfl rfl
    ⟨⟨inForce, inForce⟩, rfl, .last p.pending.lines _ _, .last p.pending.html _ _⟩

/-- An edit is local. If in a document that can be read one line is replaced by another one, and
both are content alone that is kept and declares nothing, then the new document can be read too. It
has as many segments, and all but one of them are the same, with their figures. The one that has the
line is of the environment in force there and keeps its settings and all other fragments, also in
html; only its drawing is made anew, from the same context, if it is a figure.
-/
theorem parse_line_edit {s edited front raw rawEdited back : Text} {segments : List Segment}
    (stands : s.LineAt front raw back) (standsEdited : edited.LineAt front rawEdited back)
    (plain : PlainAt registry front raw) (plainEdited : PlainAt registry front rawEdited)
    (parsed : parse registry s = .ok segments)
    : ∃ (before after : List Segment) (segment segmentEdited : Segment),
        segments = before ++ segment :: after
        ∧ parse registry edited = .ok (before ++ segmentEdited :: after)
        ∧ EditedSegment registry.rules (kindAt registry.delimiters front) (Text.dropReturn raw)
            (Text.dropReturn rawEdited) segment segmentEdited := by
  obtain ⟨earlier, later, items, before, behind⟩ := plain.items_eq stands
  obtain ⟨earlierEdited, laterEdited, itemsEdited, beforeEdited, behindEdited⟩ :=
    plainEdited.items_eq standsEdited
  obtain rfl : earlier = earlierEdited :=
    List.append_cancel_right (before.symm.trans beforeEdited)
  obtain ⟨last, run, rfl⟩ := collect_eq_ok_iff.mp parsed
  rw [items, List.foldlM_append] at run
  obtain ⟨p, first, run⟩ := Option.bind_eq_some_iff.mp run
  rw [List.foldlM_cons, Progress.step?, plain.addContent_eq] at run
  -- up to the line both documents are the same
  have follows := run_preserves (Follows registry.rules) Follows.step []
    ⟨rfl, [], by simp [fragments, fragmentsFrom, placed]⟩ first
  rw [List.nil_append, ← tokens_eq_of_lines before] at follows
  obtain ⟨final, runEdited, apart⟩ := (editedProgress_keep follows.kind).run
    (itemsFrom_map_token?_congr (behindEdited.trans behind.symm)) run
  have parsedEdited : parse registry edited = .ok (final.close { kind := .math }).segments := by
    refine collect_eq_ok_iff.mpr ⟨final, ?_, rfl⟩
    rw [itemsEdited, List.foldlM_append, first]
    simp only [Option.bind_eq_bind, Option.bind_some, List.foldlM_cons, Progress.step?,
      plainEdited.addContent_eq]
    exact runEdited
  obtain ⟨segment, segmentEdited, isEdited, front, after, whole, wholeEdited⟩ :=
    apart.close_segments { kind := .math }
  exact ⟨front, after, segment, segmentEdited, whole, wholeEdited ▸ parsedEdited, isEdited⟩

/-- A line of a figure becomes a rectangle. Only the figure is drawn anew; the text around it, whose
settings the figure declares, stays.
-/
theorem parse_line_edit_in_figure
    : ∃ (registry : Registry) (s edited : Text) (before after : List Segment)
        (segment segmentEdited : Segment),
        s = ['\n'].intercalate
          ["a".toList, "\\begin\x7bpspicture\x7d(4,4)\\psset\x7bunit=2cm\x7d".toList,
            "\\psline(1,1)\r".toList, "\\end\x7bpspicture\x7db".toList]
        ∧ edited = ['\n'].intercalate
          ["a".toList, "\\begin\x7bpspicture\x7d(4,4)\\psset\x7bunit=2cm\x7d".toList,
            "\\psframe(0,0)(1,1)".toList, "\\end\x7bpspicture\x7db".toList]
        ∧ parse registry s = .ok (before ++ segment :: after)
        ∧ parse registry edited = .ok (before ++ segmentEdited :: after)
        ∧ before.length + after.length = 2
        ∧ EditedSegment registry.rules .figure "\\psline(1,1)".toList
            "\\psframe(0,0)(1,1)".toList segment segmentEdited := by
  let registry : Registry := { rules := {} }
  let front : Text := ['\n'].intercalate
    ["a".toList, "\\begin\x7bpspicture\x7d(4,4)\\psset\x7bunit=2cm\x7d".toList, []]
  let back : Text := "\n\\end\x7bpspicture\x7db".toList
  let raw : Text := "\\psline(1,1)\r".toList
  let rawEdited : Text := "\\psframe(0,0)(1,1)".toList
  let s : Text := front ++ (raw ++ back)
  let edited : Text := front ++ (rawEdited ++ back)
  obtain ⟨segments, parsed⟩ :=
    exists_segments (by decide +kernel : (parse registry s).toOption.isSome)
  have length : (parse registry s).toOption.map List.length = some 3 := by decide +kernel
  have plain : PlainAt registry front raw :=
    ⟨⟨"\\psline(1,1)".toList, false, by decide +kernel⟩, by decide +kernel,
      .inr (by decide +kernel)⟩
  have plainEdited : PlainAt registry front rawEdited :=
    ⟨⟨rawEdited, false, by decide +kernel⟩, by decide +kernel, .inr (by decide +kernel)⟩
  have stands : s.LineAt front raw back := ⟨rfl, .inr rfl, by decide, .inr rfl⟩
  have standsEdited : edited.LineAt front rawEdited back := ⟨rfl, .inr rfl, by decide, .inr rfl⟩
  obtain ⟨before, after, segment, segmentEdited, rfl, parsedEdited, isEdited⟩ :=
    parse_line_edit stands standsEdited plain plainEdited parsed
  have inForce : kindAt registry.delimiters front = .figure := by decide +kernel
  rw [inForce] at isEdited
  rw [parsed] at length
  have length := Option.some.inj length
  simp only [List.length_append, List.length_cons] at length
  exact ⟨registry, s, edited, before, after, segment, segmentEdited, rfl, rfl, parsed,
    parsedEdited, by omega, isEdited⟩

end LatexFigures.Document
