import Mathlib.Data.List.Forall2
import LatexFigures.Proofs.Document.Stretches

/-! Reading as a function of the stretches of a document. A document is refused at the first figure
whose canvas cannot be read; otherwise each stretch in which a fragment counts is a segment.
-/

namespace LatexFigures.Document

-----------------------------------------------------------------------------------------
-- What a stretch shows and declares
-----------------------------------------------------------------------------------------

/-- A fragment of content in html. It stays as it is in a literal environment. -/
def fragmentHtml (rules : TextRules) (kind : EnvironmentKind) (text : Text) : Text :=
  if kind.isLiteral then text else rules.apply text

/-- What shows of an item: a blank line, or a fragment that counts. -/
inductive Entry
  | blank
  | fragment (text : Text)
deriving Repr, DecidableEq

namespace Entry

/-- The text of a fragment. -/
def line? : Entry → Option Text
  | .blank => none
  | .fragment text => some text

/-- The html of an entry. -/
def html (rules : TextRules) (kind : EnvironmentKind) : Entry → Text
  | .blank => blankLine
  | .fragment text => fragmentHtml rules kind text

end Entry

/-- What shows of an item where (kind) is in force. -/
def visible? (rules : TextRules) (kind : EnvironmentKind) : Item → Option Entry
  | .blank => some .blank
  | .token _ (.content text literal) =>
      if counts rules kind text literal then some (.fragment text) else none
  | .token _ _ => none

/-- The body of the declaration that a token makes: the first one in running text, unless that is
ignored.
-/
def declaration? (rules : TextRules) : Token → Option Text
  | .content text false => if rules.isIgnored text then none else Settings.bodyIn? text
  | _ => none

/-- The settings behind the declarations of tokens, which start from the default ones. -/
def settingsAfter (rules : TextRules) (tokens : List Token) : Settings :=
  (tokens.filterMap (declaration? rules)).foldl Settings.declare {}

/-- The context of the figure that a token opens under these settings, if it opens one. -/
def openedContext? (settings : Settings) : Token → Option Context
  | .opening .figure header =>
      (Canvas.read? header).map fun canvas =>
        Context.initial canvas.lowerLeft canvas.upperRight settings
  | _ => none

namespace Stretch

/-- What shows of a stretch, in the order of its items. -/
def entries (rules : TextRules) (stretch : Stretch) : List Entry :=
  stretch.inside.filterMap (visible? rules stretch.kind)

/-- The fragments that count. -/
def lines (rules : TextRules) (stretch : Stretch) : List Text :=
  (stretch.entries rules).filterMap Entry.line?

/-- The fragments that count in html, and breaks for the blank lines among them. -/
def html (rules : TextRules) (stretch : Stretch) : List Text :=
  (stretch.entries rules).map (Entry.html rules stretch.kind)

/-- The context in which a figure opens, if the stretch is one. -/
def context? (rules : TextRules) (stretch : Stretch) : Option Context :=
  stretch.before.getLast?.bind (openedContext? (settingsAfter rules stretch.before))

/-- The stretch as it is collected. -/
def pending (rules : TextRules) (stretch : Stretch) : Pending :=
  { kind := stretch.kind
    lines := stretch.lines rules
    html := stretch.html rules
    context := stretch.context? rules }

/-- The stretch as a segment. -/
def segment (rules : TextRules) (stretch : Stretch) : Segment :=
  { kind := stretch.kind
    lines := stretch.lines rules
    html := stretch.html rules
    settings := settingsAfter rules stretch.upToEnd
    figure := (stretch.context? rules).map (Figure.ofLines (stretch.lines rules)) }

/-- A fragment of the stretch counts. -/
def HasContent (rules : TextRules) (stretch : Stretch) : Prop := stretch.lines rules ≠ []

instance (rules : TextRules) (stretch : Stretch) : Decidable (stretch.HasContent rules) :=
  inferInstanceAs (Decidable (_ ≠ _))

end Stretch

/-- The stretches of a document in which a fragment counts. -/
def contentStretches (registry : Registry) (s : Text) : List Stretch :=
  (stretches registry.delimiters s).filter (·.HasContent registry.rules)

-----------------------------------------------------------------------------------------
-- Items one by one
-----------------------------------------------------------------------------------------

theorem settingsAfter_append_singleton (rules : TextRules) (tokens : List Token) (token : Token)
    : settingsAfter rules (tokens ++ [token])
      = (declaration? rules token).elim (settingsAfter rules tokens)
          (settingsAfter rules tokens).declare := by
  cases declared : declaration? rules token <;>
    simp [settingsAfter, List.filterMap_append, declared]

namespace Stretch

variable (rules : TextRules) (stretch : Stretch) (item : Item)

@[simp]
theorem push_kind : (stretch.push item).kind = stretch.kind := rfl

@[simp]
theorem push_context? : (stretch.push item).context? rules = stretch.context? rules := rfl

theorem push_upToEnd : (stretch.push item).upToEnd = stretch.upToEnd ++ item.token?.toList := by
  cases token : item.token? <;> simp [push, upToEnd, List.filterMap_append, token]

theorem push_entries
    : (stretch.push item).entries rules
      = stretch.entries rules ++ (visible? rules stretch.kind item).toList := by
  rw [entries, push_kind, push, List.filterMap_append, entries]
  cases entry : visible? rules stretch.kind item <;> simp [entry]

theorem push_lines
    : (stretch.push item).lines rules
      = stretch.lines rules ++ (visible? rules stretch.kind item).toList.filterMap Entry.line? := by
  rw [lines, push_entries, List.filterMap_append, lines]

theorem push_html
    : (stretch.push item).html rules
      = stretch.html rules
        ++ (visible? rules stretch.kind item).toList.map (Entry.html rules stretch.kind) := by
  rw [html, push_entries, push_kind, List.map_append, html]

end Stretch

-----------------------------------------------------------------------------------------
-- Progress within a stretch
-----------------------------------------------------------------------------------------

variable {rules : TextRules} {stretch : Stretch} {p : Progress}

/-- Reading has come to the end of the stretch as far as it is given, and has collected it. -/
structure Progress.Reached (rules : TextRules) (stretch : Stretch) (p : Progress) : Prop where
  /-- No delimiter stands inside. -/
  inForce : Token.inForceAfter stretch.upToEnd = stretch.kind
  settings : p.settings = settingsAfter rules stretch.upToEnd
  pending : p.pending = stretch.pending rules

theorem bodyIn?_of_isAllBlank {s : Text} (blank : s.isAllBlank = true)
    : Settings.bodyIn? s = none := by
  induction s with
  | nil => rfl
  | cons c rest ih =>
      simp only [Text.isAllBlank, List.all_cons, Bool.and_eq_true] at blank
      have other : '\\' ≠ c := fun same => by simp [← same, Text.isBlank] at blank
      have nothing : Text.after? "\\psset\x7b".toList (c :: rest) = none :=
        Text.after?_eq_none_iff.mpr fun start => other (List.cons_prefix_cons.mp start).1
      rw [Settings.bodyIn?, nothing]
      exact ih blank.2

/-- Content adds what shows of it, and makes its declaration. -/
theorem addContent_eq (p : Progress) (line : Text.Line) {literal : Bool}
    (flag : literal = p.pending.kind.isLiteral) (text : Text)
    : let token : Token := .content text literal
      let entries := (visible? rules p.pending.kind (.token line token)).toList
      p.addContent rules text literal
        = { p with
            settings := (declaration? rules token).elim p.settings p.settings.declare
            pending :=
              { p.pending with
                lines := p.pending.lines ++ entries.filterMap Entry.line?
                html := p.pending.html ++ entries.map (Entry.html rules p.pending.kind) } } := by
  intro token entries
  have html (text : Text)
      : Entry.html rules p.pending.kind (.fragment text)
        = if literal then text else rules.apply text := by
    rw [Entry.html, fragmentHtml, ← flag]
  simp only [token, entries]
  unfold Progress.addContent visible? counts
  cases blank : text.isAllBlank with
  | true =>
      have undeclared : declaration? rules (.content text literal) = none := by
        cases literal <;> simp [declaration?, bodyIn?_of_isAllBlank blank]
      simp [blank, undeclared]
  | false =>
      cases literal with
      | true => simp [blank, Progress.keep, declaration?, Entry.line?, html]
      | false =>
          cases ignored : rules.isIgnored text with
          | true => simp [blank, declaration?, ignored]
          | false =>
              cases body : Settings.bodyIn? text with
              | none => simp [blank, Progress.keep, declaration?, ignored, body, Entry.line?, html]
              | some body =>
                  cases figure : p.pending.kind.isFigure <;>
                    simp [blank, Progress.keep, declaration?, ignored, body, figure, Entry.line?,
                      html]

namespace Progress.Reached

theorem blank (h : p.Reached rules stretch) : p.addBlank.Reached rules (stretch.push .blank) where
  inForce := by simpa [Stretch.push_upToEnd, Item.token?] using h.inForce
  settings := by simpa [Stretch.push_upToEnd, Item.token?, Progress.addBlank] using h.settings
  pending := by
    simp [Progress.addBlank, h.pending, Stretch.pending, Stretch.push_lines, Stretch.push_html,
      visible?, Entry.line?, Entry.html]

theorem content (h : p.Reached rules stretch) (line : Text.Line) (text : Text)
    : (p.addContent rules text stretch.kind.isLiteral).Reached rules
        (stretch.push (.token line (.content text stretch.kind.isLiteral))) := by
  have kind : p.pending.kind = stretch.kind := by rw [h.pending, Stretch.pending]
  rw [addContent_eq p line (by rw [kind]) text, kind]
  refine ⟨?_, ?_, ?_⟩
  · rw [Stretch.push_upToEnd, Item.token?, Option.toList_some, inForceAfter_append_singleton,
      h.inForce]
    rfl
  · rw [Stretch.push_upToEnd, Item.token?, Option.toList_some, settingsAfter_append_singleton,
      h.settings]
  · simp [h.pending, Stretch.pending, Stretch.push_lines, Stretch.push_html]

/-- A stretch that is closed is a segment if a fragment in it counts. -/
theorem close_segments (h : p.Reached rules stretch) (next : Pending)
    : (p.close next).segments
      = p.segments ++ ([stretch].filter (·.HasContent rules)).map (·.segment rules) := by
  have lines : p.pending.lines = stretch.lines rules := by rw [h.pending, Stretch.pending]
  unfold Progress.close
  split
  · rename_i empty
    simp [Stretch.HasContent, ← lines, List.isEmpty_iff.mp empty]
  · rename_i content
    have content : stretch.HasContent rules := by simpa [lines, Stretch.HasContent] using content
    simp [content, h.pending, h.settings, Stretch.pending, Stretch.segment]

theorem close_append (h : p.Reached rules stretch) (next : Pending) (more : List Stretch)
    : (p.close next).segments ++ (more.filter (·.HasContent rules)).map (·.segment rules)
      = p.segments ++ ((stretch :: more).filter (·.HasContent rules)).map (·.segment rules) := by
  rw [h.close_segments, List.append_assoc, ← List.map_append, ← List.filter_append,
    List.singleton_append]

theorem close (h : p.Reached rules stretch) (delimiter : Token)
    (undeclared : declaration? rules delimiter = none)
    : (p.close ((stretch.next delimiter).pending rules)).Reached rules
        (stretch.next delimiter) := by
  obtain ⟨settings, pending⟩ := p.close_frame ((stretch.next delimiter).pending rules)
  refine ⟨?_, ?_, pending⟩
  · rw [Stretch.next_upToEnd]
    rfl
  · rw [settings, Stretch.next_upToEnd, settingsAfter_append_singleton, undeclared, h.settings]
    rfl

end Progress.Reached

-----------------------------------------------------------------------------------------
-- Reading
-----------------------------------------------------------------------------------------

/-- The error at an item, if it opens a figure whose canvas cannot be read. -/
def Item.malformed? : Item → Option MalformedFigure
  | .token line (.opening .figure header) =>
      if (Canvas.read? header).isNone then some ⟨line.number, line.offset, line.text.byteSize⟩
      else none
  | _ => none

theorem Item.malformed?_eq_some_iff {item : Item} {e : MalformedFigure}
    : item.malformed? = some e
      ↔ ∃ (line : Text.Line) (header : Text),
          item = .token line (.opening .figure header)
          ∧ Canvas.read? header = none
          ∧ e = ⟨line.number, line.offset, line.text.byteSize⟩ := by
  constructor
  · intro found
    unfold malformed? at found
    split at found
    · rename_i line header
      obtain ⟨unreadable, same⟩ := Option.ite_none_right_eq_some.mp found
      exact ⟨line, header, rfl, Option.isNone_iff_eq_none.mp unreadable,
        (Option.some.inj same).symm⟩
    · cases found
  · rintro ⟨line, header, rfl, unreadable, rfl⟩
    simp [malformed?, unreadable]

theorem Stretch.next_pending (rules : TextRules) (stretch : Stretch) (delimiter : Token)
    : (stretch.next delimiter).pending rules
      = { kind := delimiter.leadsTo (Token.inForceAfter stretch.upToEnd)
          context := (stretch.next delimiter).context? rules } := by
  rw [pending, next_kind]
  rfl

theorem Stretch.next_context? (rules : TextRules) (stretch : Stretch) (delimiter : Token)
    : (stretch.next delimiter).context? rules
      = openedContext? (settingsAfter rules (stretch.next delimiter).before) delimiter := by
  simp [context?, next]

/-- An environment opens the next stretch, unless it is a figure whose canvas cannot be read. -/
theorem Progress.Reached.enter?_eq (h : p.Reached rules stretch) (line : Text.Line)
    (kind : EnvironmentKind) (header : Text)
    : p.enter? kind header
      = if (Item.malformed? (.token line (.opening kind header))).isSome then none
        else some (p.close ((stretch.next (.opening kind header)).pending rules)) := by
  rw [Stretch.next_pending]
  by_cases figure : kind = .figure
  · subst figure
    have settings : settingsAfter rules (stretch.next (.opening .figure header)).before
        = p.settings := by
      rw [Stretch.next, settingsAfter_append_singleton, h.settings]
      rfl
    rw [Stretch.next_context?, settings]
    cases canvas : Canvas.read? header <;>
      simp [Progress.enter?, EnvironmentKind.isFigure, Item.malformed?, openedContext?, canvas,
        Token.leadsTo]
  · have wellFormed : Item.malformed? (.token line (.opening kind header)) = none := by
      cases kind <;> first | rfl | exact absurd rfl figure
    have context : (stretch.next (.opening kind header)).context? rules = none := by
      rw [Stretch.next_context?]
      cases kind <;> first | rfl | exact absurd rfl figure
    simp [Progress.enter?, EnvironmentKind.isFigure, figure, wellFormed, context, Token.leadsTo]

/-- Reading items behind a stretch: it is refused at the first malformed figure, and otherwise
gives the stretches with content as segments, behind those that it had. By induction on the items.
-/
theorem collect_eq {table : DelimiterTable} {items : List Item} (reached : p.Reached rules stretch)
    (fits : table.Fitting stretch.kind (items.filterMap Item.token?))
    : (collect rules p items).outcome
      = match items.findSome? Item.malformed? with
        | some e => .error e
        | none =>
            .ok (p.segments
              ++ ((stretchesFrom stretch items).filter (·.HasContent rules)).map
                  (·.segment rules)) := by
  induction items generalizing p stretch with
  | nil => simp [collect, stretchesFrom, reached.close_segments]
  | cons item items ih =>
      cases item with
      | blank => exact ih reached.blank fits
      | token line piece =>
          obtain ⟨fit, fits⟩ := fits
          cases piece with
          | content text literal =>
              obtain rfl : literal = stretch.kind.isLiteral := fit.2.1
              have later := ih (reached.content line text) fits
              rw [(Progress.addContent_frame rules p text _).1] at later
              exact later
          | closing kind text =>
              have pending : (stretch.next (.closing kind text)).pending rules
                  = { kind := .math } := by
                rw [Stretch.next_pending, Stretch.next_context?]
                rfl
              have closed := reached.close (.closing kind text) rfl
              rw [pending] at closed
              have later := ih closed (by rwa [Stretch.next_kind, reached.inForce])
              rw [reached.close_append] at later
              rw [stretchesFrom_delimiter rfl]
              exact later
          | opening kind header =>
              have entered := reached.enter?_eq line kind header
              have opened := reached.close (.opening kind header) rfl
              rw [List.findSome?_cons, stretchesFrom_delimiter rfl]
              cases malformed : Item.malformed? (.token line (.opening kind header)) with
              | some e =>
                  rw [malformed] at entered
                  obtain ⟨_, _, same, -, rfl⟩ := Item.malformed?_eq_some_iff.mp malformed
                  obtain ⟨rfl, -⟩ := Item.token.inj same
                  simp [collect, entered]
              | none =>
                  rw [malformed] at entered
                  have later := ih opened (by rwa [Stretch.next_kind, reached.inForce])
                  rw [reached.close_append] at later
                  simpa [collect, entered] using later

/-- A document is refused at its first malformed figure; otherwise its segments are its stretches
with content.
-/
theorem parse_eq (registry : Registry) (s : Text)
    : parse registry s
      = match (items registry.delimiters s).findSome? Item.malformed? with
        | some e => .error e
        | none => .ok ((contentStretches registry s).map (·.segment registry.rules)) := by
  have start : ({} : Progress).Reached registry.rules {} := ⟨rfl, rfl, rfl⟩
  exact collect_eq start (fitting_items registry.delimiters s)

/-- What holds of every stretch and its segment, holds of the segments of a document one by one. -/
theorem forall₂_of_parse {registry : Registry} {s : Text} {segments : List Segment}
    {R : Stretch → Segment → Prop} (parsed : parse registry s = .ok segments)
    (related : ∀ stretch : Stretch, stretch.segment registry.rules ∈ segments
      → stretch.StandsIn (items registry.delimiters s)
      → R stretch (stretch.segment registry.rules))
    : List.Forall₂ R (contentStretches registry s) segments := by
  rw [parse_eq] at parsed
  split at parsed
  · cases parsed
  · obtain rfl := Except.ok.inj parsed
    refine List.forall₂_map_right_iff.mpr (List.forall₂_same.mpr fun stretch member => ?_)
    exact related stretch (List.mem_map_of_mem member)
      (standsIn_of_mem_stretches (List.mem_of_mem_filter member))

/-- What is the same of every stretch and its segment. -/
theorem map_eq_of_forall₂ {α : Type} {R : Stretch → Segment → Prop} {ofStretch : Stretch → α}
    {ofSegment : Segment → α} {stretches : List Stretch} {segments : List Segment}
    (related : List.Forall₂ R stretches segments)
    (same : ∀ stretch segment, R stretch segment → ofSegment segment = ofStretch stretch)
    : segments.map ofSegment = stretches.map ofStretch := by
  induction related with
  | nil => rfl
  | cons here _ ih => rw [List.map_cons, List.map_cons, same _ _ here, ih]

end LatexFigures.Document
