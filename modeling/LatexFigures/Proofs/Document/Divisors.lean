import LatexFigures.Proofs.Document.Progress
import LatexFigures.Proofs.Drawing.Divisors

/-! No division by zero, from reading a document on: all settings and sliders that reading gives are
regular, and stay so whatever is then done to them.
-/

namespace LatexFigures

open Number

/-- The settings of the segment are regular, and so is its figure. -/
structure Segment.Regular (segment : Segment) : Prop where
  settings : segment.settings.Regular
  figure : ∀ figure ∈ segment.figure, figure.Regular

namespace Document

-----------------------------------------------------------------------------------------
-- Reading
-----------------------------------------------------------------------------------------

/-- What was read so far is regular, and the context of an opened figure is. -/
structure Progress.Regular (p : Progress) : Prop where
  settings : p.settings.Regular
  segments : ∀ segment ∈ p.segments, segment.Regular
  context : ∀ ctx ∈ p.pending.context, ctx.Regular

namespace Progress

variable {p next : Progress}

theorem addContent_settings (rules : TextRules) (p : Progress) (fragment : Text) (literal : Bool)
    : (p.addContent rules fragment literal).settings = p.settings
      ∨ ∃ body, (p.addContent rules fragment literal).settings = p.settings.declare body := by
  unfold addContent
  split
  · exact .inl rfl
  · split
    · exact .inl rfl
    · split
      · exact .inl rfl
      · split
        · exact .inl rfl
        · rename_i body _
          dsimp only
          split <;> exact .inr ⟨body, rfl⟩

theorem Regular.addContent (h : p.Regular) (rules : TextRules) (fragment : Text) (literal : Bool)
    : (p.addContent rules fragment literal).Regular := by
  obtain ⟨segments, -, context⟩ := addContent_frame rules p fragment literal
  refine ⟨?_, segments ▸ h.segments, context ▸ h.context⟩
  rcases addContent_settings rules p fragment literal with same | ⟨body, declared⟩
  · rw [same]
    exact h.settings
  · rw [declared]
    exact h.settings.declare body

/-- A segment that is closed interprets its lines in the context in which it opened. -/
theorem Regular.close (h : p.Regular) {pending : Pending}
    (opened : ∀ ctx ∈ pending.context, ctx.Regular)
    : (p.close pending).Regular := by
  unfold Progress.close
  split
  · exact ⟨h.settings, h.segments, opened⟩
  · refine ⟨h.settings, ?_, opened⟩
    intro segment member
    rcases List.mem_append.mp member with earlier | last
    · exact h.segments segment earlier
    · rw [List.mem_singleton.mp last]
      refine ⟨h.settings, ?_⟩
      intro figure drawn
      obtain ⟨ctx, context, rfl⟩ := Option.map_eq_some_iff.mp drawn
      exact Figure.regular_ofLines _ (h.context ctx context)

theorem Regular.enter? (h : p.Regular) {kind : EnvironmentKind} {header : Text}
    (entered : p.enter? kind header = some next)
    : next.Regular := by
  unfold Progress.enter? at entered
  split at entered
  · obtain ⟨canvas, -, rfl⟩ := Option.map_eq_some_iff.mp entered
    apply h.close
    intro ctx opened
    obtain rfl := Option.some.inj opened
    exact Context.regular_initial _ _ h.settings
  · obtain rfl := Option.some.inj entered
    exact h.close fun ctx opened => by cases opened

end Progress

end Document

/-- What reading gave, or what became of it: the settings of the reader, and the segments. -/
structure Session where
  settings : Settings
  segments : List Segment

namespace Session

/-- The state behind reading, which gives no segments if the document is refused. -/
def ofReading (reading : Document.Reading) : Session :=
  { settings := reading.settings
    segments := reading.outcome.toOption.getD [] }

/-- All settings and sliders are regular. -/
structure Regular (session : Session) : Prop where
  settings : session.settings.Regular
  segments : ∀ segment ∈ session.segments, segment.Regular

/-- Reading gives regular settings and figures, by induction on the items. -/
theorem regular_collect (rules : TextRules) {p : Document.Progress} (h : p.Regular)
    (items : List Document.Item)
    : (ofReading (Document.collect rules p items)).Regular := by
  induction items generalizing p with
  | nil => exact ⟨h.settings, (h.close fun ctx opened => by cases opened).segments⟩
  | cons item items ih =>
      cases item with
      | blank => exact ih ⟨h.settings, h.segments, h.context⟩
      | token line piece =>
          cases piece with
          | content text literal => exact ih (h.addContent rules text literal)
          | closing kind text => exact ih (h.close fun ctx opened => by cases opened)
          | opening kind header =>
              unfold Document.collect
              dsimp only
              split
              · rename_i entered
                exact ih (h.enter? entered)
              · exact ⟨h.settings, fun segment member => by cases member⟩

theorem regular_read (registry : Registry) (s : Text)
    : (ofReading (Document.read registry s)).Regular := by
  have start : ({} : Document.Progress).Regular :=
    ⟨Settings.regular_default, by simp, by simp⟩
  exact regular_collect registry.rules start (Document.items registry.delimiters s)

-----------------------------------------------------------------------------------------
-- Actions
-----------------------------------------------------------------------------------------

/-- What can be done behind reading. -/
inductive Action
  /-- Declares settings for the reader. -/
  | declare (body : Text)
  /-- Declares settings for a segment. -/
  | declareSegment (index : Nat) (body : Text)
  /-- Acts on the figure of a segment. -/
  | draw (index : Nat) (action : Figure.Action)

/-- The state behind an action. -/
def act (session : Session) : Action → Session
  | .declare body => { session with settings := session.settings.declare body }
  | .declareSegment index body =>
      let declare (segment : Segment) : Segment :=
        { segment with settings := segment.settings.declare body }
      { session with segments := session.segments.modify index declare }
  | .draw index action =>
      let draw (segment : Segment) : Segment :=
        { segment with figure := segment.figure.map (·.act action) }
      { session with segments := session.segments.modify index draw }

/-- The state behind actions, one after another. -/
def actAll (session : Session) (actions : List Action) : Session := actions.foldl act session

variable {session : Session}

theorem Regular.act (h : session.Regular) (action : Action) : (session.act action).Regular := by
  cases action with
  | declare body => exact ⟨h.settings.declare body, h.segments⟩
  | declareSegment index body =>
      refine ⟨h.settings, forall_mem_modify h.segments ?_ index⟩
      intro segment regular
      exact ⟨regular.settings.declare body, regular.figure⟩
  | draw index action =>
      refine ⟨h.settings, forall_mem_modify h.segments ?_ index⟩
      intro segment regular
      refine ⟨regular.settings, ?_⟩
      intro figure drawn
      obtain ⟨before, shown, rfl⟩ := Option.map_eq_some_iff.mp drawn
      exact (regular.figure before shown).act action

theorem Regular.actAll (h : session.Regular) (actions : List Action)
    : (session.actAll actions).Regular := by
  induction actions generalizing session with
  | nil => exact h
  | cons action actions ih => exact ih (h.act action)

/-- No division by zero. Whatever document is read, and whatever is done then to what was read, all
settings have finite positive scales and a finite width of lines, if any, and all sliders a finite
scalar that is not zero: the settings of the reader, of segments, of contexts, of records, and those
that records declare. So coordinates and the input of sliders are divided by such numbers alone.
Scales are the numbers that were given, which are refused if they are not finite and positive. A
record keeps to this in any other context as well.
-/
theorem regular_behind_actions (registry : Registry) (s : Text) (actions : List Action)
    : let session := (ofReading (Document.read registry s)).actAll actions
      session.Regular
      ∧ (∀ segment ∈ session.segments,
          ∀ figure ∈ segment.figure,
            ∀ x ∈ figure.divisors, IsDivisor x)
      ∧ (∀ segment ∈ session.segments,
          ∀ figure ∈ segment.figure,
            ∀ r ∈ figure.plan.records,
              ∀ ctx : Context,
                ctx.Regular → (r.rebuild ctx).1.Regular ∧ (r.rebuild ctx).2.Regular)
      ∧ ∀ x scale,
          UnitScale.ofFloat x = .ok scale ↔ scale.raw = x ∧ x.isFinite = true ∧ 0 < x := by
  intro session
  have regular : session.Regular := (regular_read registry s).actAll actions
  refine ⟨regular, ?_, ?_, ?_⟩
  · intro segment member figure shown
    exact ((regular.segments segment member).figure figure shown).isDivisor
  · intro segment member figure shown r listed ctx other
    exact (((regular.segments segment member).figure figure shown).records r listed).rebuild other
  · intro x scale
    exact UnitScale.ofFloat_eq_ok_iff

end Session

end LatexFigures
