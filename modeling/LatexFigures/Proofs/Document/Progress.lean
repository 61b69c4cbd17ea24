import LatexFigures.Document.Reading
import LatexFigures.Proofs.Environment.Partition

/-! Reading a document as a run of steps, one for each item, and what every step keeps: collected
segments have content, and exactly figures have a drawing.
-/

namespace LatexFigures.Document

-----------------------------------------------------------------------------------------
-- Items and tokens
-----------------------------------------------------------------------------------------

/-- The tokens of a document: those of its lines that are not blank, scanned one after another.
-/
def tokens (table : DelimiterTable) (s : Text) : List Token :=
  (table.scanLines .math (((Text.lines s).map (·.text)).filter (!·.isAllBlank))).flatMap (·.1)

/-- The token of an item, if it has one. -/
def Item.token? : Item → Option Token
  | .blank => none
  | .token _ piece => some piece

/-- The items of lines hold the tokens of those that are not blank, by induction on the lines. -/
theorem itemsFrom_tokens (table : DelimiterTable) (current : EnvironmentKind)
    (lines : List Text.Line)
    : (itemsFrom table current lines).filterMap Item.token?
      = (table.scanLines current ((lines.map (·.text)).filter (!·.isAllBlank))).flatMap
          (·.1) := by
  induction lines generalizing current with
  | nil => rfl
  | cons line lines ih =>
      unfold itemsFrom
      split
      · rename_i blank
        simpa [List.filterMap_cons, Item.token?, blank] using ih current
      · rename_i some
        have all (tokens : List Token)
            : (tokens.map (Item.token line)).filterMap Item.token? = tokens := by
          simp [List.filterMap_map, Function.comp_def, Item.token?]
        simp [some, List.filterMap_append, all, ih, DelimiterTable.scanLines]

theorem items_tokens (table : DelimiterTable) (s : Text)
    : (items table s).filterMap Item.token? = tokens table s :=
  itemsFrom_tokens table .math (Text.lines s)

-----------------------------------------------------------------------------------------
-- Reading as a run of steps
-----------------------------------------------------------------------------------------

variable {rules : TextRules} {p next : Progress}

/-- What one item does; none if it opens a figure whose canvas cannot be read. -/
def Progress.step? (rules : TextRules) (p : Progress) : Item → Option Progress
  | .blank => some p.addBlank
  | .token _ (.content text literal) => some (p.addContent rules text literal)
  | .token _ (.closing ..) => some (p.close { kind := .math })
  | .token _ (.opening kind header) => p.enter? kind header

/-- Reading succeeds exactly if every step does; the segments are those of the last step, and
the one that is still being collected there.
-/
theorem collect_eq_ok_iff {items : List Item} {segments : List Segment}
    : (collect rules p items).outcome = .ok segments
      ↔ ∃ last, items.foldlM (Progress.step? rules) p = some last
          ∧ (last.close { kind := .math }).segments = segments := by
  induction items generalizing p with
  | nil => simp [collect]
  | cons item items ih =>
      rw [List.foldlM_cons]
      cases item with
      | blank => simpa [collect, Progress.step?] using ih
      | token line token =>
          cases token with
          | content text literal => simpa [collect, Progress.step?] using ih
          | closing kind text => simpa [collect, Progress.step?] using ih
          | opening kind header =>
              simp only [collect, Progress.step?]
              cases p.enter? kind header with
              | none => simp
              | some entered => simpa using ih

/-- What every step keeps, a run of steps keeps. -/
theorem run_preserves (keeps : List Token → Progress → Prop)
    (step : ∀ {seen p item next}, keeps seen p → p.step? rules item = some next
      → keeps (seen ++ item.token?.toList) next)
    {items : List Item} (seen : List Token) {last : Progress} (start : keeps seen p)
    (run : items.foldlM (Progress.step? rules) p = some last)
    : keeps (seen ++ items.filterMap Item.token?) last := by
  induction items generalizing seen p with
  | nil =>
      obtain rfl : p = last := by simpa using run
      simpa using start
  | cons item items ih =>
      rw [List.foldlM_cons] at run
      obtain ⟨next, first, rest⟩ := Option.bind_eq_some_iff.mp run
      have later := ih _ (step start first) rest
      cases item with
      | blank => simpa [List.filterMap_cons, Item.token?] using later
      | token line piece => simpa [List.filterMap_cons, Item.token?] using later

-----------------------------------------------------------------------------------------
-- What every step keeps
-----------------------------------------------------------------------------------------

/-- Segments have content, and they have a drawing exactly if they are figures; the one that is
being collected will have one exactly if it is a figure.
-/
structure Progress.Sound (p : Progress) : Prop where
  content : ∀ segment ∈ p.segments, segment.lines ≠ []
  drawn : ∀ segment ∈ p.segments, segment.figure.isSome ↔ segment.kind = .figure
  context : p.pending.context.isSome ↔ p.pending.kind = .figure

namespace Progress

theorem addContent_frame (rules : TextRules) (p : Progress) (fragment : Text) (literal : Bool)
    : (p.addContent rules fragment literal).segments = p.segments
      ∧ (p.addContent rules fragment literal).pending.kind = p.pending.kind
      ∧ (p.addContent rules fragment literal).pending.context = p.pending.context := by
  unfold addContent
  split
  · exact ⟨rfl, rfl, rfl⟩
  · split
    · exact ⟨rfl, rfl, rfl⟩
    · split
      · exact ⟨rfl, rfl, rfl⟩
      · split
        · exact ⟨rfl, rfl, rfl⟩
        · dsimp only
          split <;> exact ⟨rfl, rfl, rfl⟩

theorem close_frame (p : Progress) (next : Pending)
    : (p.close next).settings = p.settings ∧ (p.close next).pending = next := by
  unfold close
  split <;> exact ⟨rfl, rfl⟩

/-- What an opening delimiter starts is of its kind, and has a context exactly for a figure. -/
theorem enter?_eq_some {kind : EnvironmentKind} {header : Text}
    (entered : p.enter? kind header = some next)
    : ∃ pending : Pending,
        next = p.close pending
        ∧ pending.kind = kind
        ∧ pending.lines = []
        ∧ (pending.context.isSome ↔ kind = .figure) := by
  unfold enter? at entered
  split at entered
  · rename_i figure
    obtain ⟨canvas, -, same⟩ := Option.map_eq_some_iff.mp entered
    refine ⟨_, same.symm, rfl, rfl, ?_⟩
    simpa [EnvironmentKind.isFigure] using figure
  · rename_i other
    refine ⟨_, (Option.some.inj entered).symm, rfl, rfl, ?_⟩
    simpa [EnvironmentKind.isFigure] using other

/-- Closing keeps sound what is collected; the segment it adds has content, and a drawing from
its context.
-/
theorem Sound.close (h : p.Sound) {pending : Pending}
    (context : pending.context.isSome ↔ pending.kind = .figure)
    : (p.close pending).Sound := by
  unfold Progress.close
  split
  · exact ⟨h.content, h.drawn, context⟩
  · rename_i content
    refine ⟨?_, ?_, context⟩
    · intro segment member
      rcases List.mem_append.mp member with earlier | last
      · exact h.content segment earlier
      · rw [List.mem_singleton.mp last]
        simpa using content
    · intro segment member
      rcases List.mem_append.mp member with earlier | last
      · exact h.drawn segment earlier
      · rw [List.mem_singleton.mp last]
        simpa using h.context

/-- Every step keeps what is collected sound. -/
theorem Sound.step {item : Item} (h : p.Sound) (step : p.step? rules item = some next)
    : next.Sound := by
  cases item with
  | blank =>
      obtain rfl := Option.some.inj step
      exact ⟨h.content, h.drawn, h.context⟩
  | token line piece =>
      cases piece with
      | content text literal =>
          obtain rfl := Option.some.inj step
          obtain ⟨segments, kind, context⟩ := addContent_frame rules p text literal
          exact ⟨segments ▸ h.content, segments ▸ h.drawn, kind ▸ context ▸ h.context⟩
      | closing kind text =>
          obtain rfl := Option.some.inj step
          exact h.close (by simp)
      | opening kind header =>
          obtain ⟨pending, rfl, rfl, -, context⟩ := enter?_eq_some step
          exact h.close context

end Progress

-----------------------------------------------------------------------------------------
-- Figures of a document
-----------------------------------------------------------------------------------------

/-- Exactly the figures among the segments of a document have a drawing. -/
theorem drawn_of_parse {registry : Registry} {s : Text} {segments : List Segment}
    (parsed : parse registry s = .ok segments)
    : ∀ segment ∈ segments, segment.figure.isSome ↔ segment.kind = .figure := by
  obtain ⟨last, run, rfl⟩ := collect_eq_ok_iff.mp parsed
  have sound : last.Sound :=
    run_preserves (fun _ p => p.Sound) Progress.Sound.step [] ⟨by simp, by simp, by simp⟩ run
  exact (sound.close (by simp)).drawn

theorem exists_segments {registry : Registry} {s : Text}
    (run : (parse registry s).toOption.isSome = true)
    : ∃ segments, parse registry s = .ok segments := by
  cases result : parse registry s with
  | ok segments => exact ⟨segments, rfl⟩
  | error e =>
      rw [result] at run
      cases run

/-- A document that can be read, and one of its figures that passes a test. -/
theorem exists_figure (registry : Registry) (s : Text) (passes : Figure → Bool)
    (run : ((parse registry s).toOption.any fun segments =>
      (segments.filterMap (·.figure)).any passes) = true)
    : ∃ segments figure,
        parse registry s = .ok segments
        ∧ figure ∈ segments.filterMap (·.figure)
        ∧ passes figure = true := by
  obtain ⟨segments, parsed, drawn⟩ := (Option.any_eq_true _ _).mp run
  obtain ⟨figure, member, test⟩ := List.any_eq_true.mp drawn
  refine ⟨segments, figure, ?_, member, test⟩
  cases result : parse registry s with
  | ok all =>
      rw [result] at parsed
      exact congrArg Except.ok (Option.some.inj parsed)
  | error e =>
      rw [result] at parsed
      cases parsed

end LatexFigures.Document
