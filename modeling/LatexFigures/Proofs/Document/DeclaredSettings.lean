import LatexFigures.Proofs.Document.Segments
import LatexFigures.Proofs.Drawing.Declarations

/-! The settings of a document are tracked twice: fragment by fragment as it is read, and again line
by line as a figure is interpreted. Both tracks lead to the same settings, those that the
declarations in front make.
-/

namespace LatexFigures.Document

variable {rules : TextRules} {stretch : Stretch}

/-- What a figure keeps of an item declares what the item declares. Ignored fragments are not kept,
and blank ones declare nothing.
-/
theorem declared_of_item {item : Item}
    (plain : ∀ line text literal, item = .token line (.content text literal) → literal = false)
    : ((visible? rules .figure item).bind Entry.line?).bind Settings.bodyIn?
      = item.token?.bind (declaration? rules) := by
  cases item with
  | blank => rfl
  | token line piece =>
      cases piece with
      | opening | closing => rfl
      | content text literal =>
          obtain rfl := plain line text literal rfl
          cases blank : text.isAllBlank with
          | true =>
              simp [visible?, counts, blank, Item.token?, declaration?, bodyIn?_of_isAllBlank blank]
          | false =>
              cases ignored : rules.isIgnored text <;>
                simp [visible?, counts, blank, ignored, EnvironmentKind.isFigure, Entry.line?,
                  Item.token?, declaration?]

/-- The lines of a figure make the declarations that were met while they were collected. -/
theorem declared_of_lines {all : List Item} (stands : stretch.StandsIn all)
    (figure : stretch.kind = .figure)
    : (stretch.lines rules).filterMap Settings.bodyIn?
      = (stretch.inside.filterMap Item.token?).filterMap (declaration? rules) := by
  rw [Stretch.lines, Stretch.entries, figure, List.filterMap_filterMap, List.filterMap_filterMap,
    List.filterMap_filterMap]
  refine List.filterMap_congr fun item inside => ?_
  have plain : ∀ line text literal, item = .token line (.content text literal)
      → literal = false := by
    rintro line text literal rfl
    rw [stands.flagged inside, figure]
    rfl
  simp only [← declared_of_item plain, Option.bind_assoc]

theorem settingsAfter_upToEnd (rules : TextRules) (stretch : Stretch)
    : settingsAfter rules stretch.upToEnd
      = ((stretch.inside.filterMap Item.token?).filterMap (declaration? rules)).foldl
          Settings.declare (settingsAfter rules stretch.before) := by
  rw [settingsAfter, Stretch.upToEnd, List.filterMap_append, List.foldl_append, settingsAfter]

/-- A figure opens under the settings that the declarations in front of it make. -/
theorem Stretch.context?_eq_some {ctx : Context} (opened : stretch.context? rules = some ctx)
    : stretch.kind = .figure ∧ ctx.settings = settingsAfter rules stretch.before := by
  obtain ⟨token, last, opens⟩ := Option.bind_eq_some_iff.mp opened
  obtain ⟨earlier, whole⟩ := List.getLast?_eq_some_iff.mp last
  unfold openedContext? at opens
  split at opens
  · rename_i header
    obtain ⟨canvas, -, rfl⟩ := Option.map_eq_some_iff.mp opens
    refine ⟨?_, rfl⟩
    rw [Stretch.kind, whole, inForceAfter_append_singleton]
    rfl
  · cases opens

/-- The settings of a segment are the default ones with the declarations in all fragments in front
of its end that are neither literal nor ignored, in their order. Those in figures count for what
follows. A figure reaches the same settings by interpreting its lines, from those in force when it
opened.
-/
theorem parse_settings_agree {registry : Registry} {s : Text} {segments : List Segment}
    (parsed : parse registry s = .ok segments)
    : List.Forall₂
        (fun stretch segment =>
          stretch.StandsIn (items registry.delimiters s)
          ∧ stretch.upToEnd <+: tokens registry.delimiters s
          ∧ segment.kind = stretch.kind
          ∧ segment.settings = settingsAfter registry.rules stretch.upToEnd
          ∧ (segment.kind = .figure ↔ segment.figure.isSome)
          ∧ ∀ figure,
              segment.figure = some figure
              → figure.context.settings = segment.settings
                ∧ ∃ ctx,
                    ctx.settings = settingsAfter registry.rules stretch.before
                    ∧ figure = Figure.ofLines segment.lines ctx)
        (contentStretches registry s) segments := by
  refine forall₂_of_parse parsed fun stretch member stands => ?_
  refine ⟨stands, stands.upToEnd_prefix, rfl, rfl, (drawn_of_parse parsed _ member).symm,
    fun figure shown => ?_⟩
  obtain ⟨ctx, opened, rfl⟩ := Option.map_eq_some_iff.mp shown
  obtain ⟨isFigure, settings⟩ := Stretch.context?_eq_some opened
  refine ⟨?_, ctx, settings, rfl⟩
  rw [Figure.ofLines_settings, declared_of_lines stands isFigure, settings,
    ← settingsAfter_upToEnd]
  rfl

/-- Settings declared in front of a figure and in it hold behind both, and neither a comment nor
literal text declares any.
-/
theorem parse_settings_agree_figure
    : ∃ (registry : Registry) (s : Text) (segments : List Segment) (outer inner : Settings),
        s = ['\n'].intercalate
          ["a".toList, "\\psset\x7blinewidth=3\x7d".toList, "\\begin\x7bpspicture\x7d(4,4)".toList,
            "\\psset\x7bunit=2cm\x7d\\psset\x7bunit=9cm\x7d".toList,
            "%\\psset\x7bunit=5cm\x7d".toList, "\\end\x7bpspicture\x7d".toList,
            "\\begin\x7bprint\x7d\\psset\x7bunit=7cm\x7d".toList,
            "\\end\x7bprint\x7db".toList]
        ∧ parse registry s = .ok segments
        ∧ outer = ({} : Settings).declare "linewidth=3".toList
        ∧ inner = outer.declare "unit=2cm".toList
        ∧ segments.map (fun segment =>
            (segment.settings, segment.figure.map (·.context.settings)))
          = [(outer, none), (inner, some inner), (inner, none), (inner, none)] := by
  let registry : Registry := { rules := { ignored := [.comment] } }
  let s : Text := ['\n'].intercalate
    ["a".toList, "\\psset\x7blinewidth=3\x7d".toList, "\\begin\x7bpspicture\x7d(4,4)".toList,
      "\\psset\x7bunit=2cm\x7d\\psset\x7bunit=9cm\x7d".toList,
      "%\\psset\x7bunit=5cm\x7d".toList, "\\end\x7bpspicture\x7d".toList,
      "\\begin\x7bprint\x7d\\psset\x7bunit=7cm\x7d".toList,
      "\\end\x7bprint\x7db".toList]
  obtain ⟨segments, parsed⟩ :=
    exists_segments (by decide +kernel : (parse registry s).toOption.isSome)
  have both : segments.map (fun segment =>
        (segment.settings, segment.figure.map (·.context.settings)))
      = (contentStretches registry s).map fun stretch =>
          let settings := settingsAfter registry.rules stretch.upToEnd
          (settings, if stretch.kind = .figure then some settings else none) := by
    refine map_eq_of_forall₂ (parse_settings_agree parsed) fun stretch segment h => ?_
    obtain ⟨-, -, kind, same, drawn, agree⟩ := h
    rw [← kind, ← same]
    cases shown : segment.figure with
    | none => simp [drawn, shown]
    | some figure => simp [drawn, shown, (agree figure shown).1]
  exact ⟨registry, s, segments, _, _, rfl, parsed, rfl, rfl, both.trans (by decide +kernel)⟩

end LatexFigures.Document
