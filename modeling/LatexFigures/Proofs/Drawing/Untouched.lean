import Mathlib.Data.List.Forall2
import LatexFigures.Proofs.Drawing.Lasting

/-! What events never touch. They neither add, remove nor reorder records, and they change the
geometry of user variables, plots and user lines alone. Of a context they change variables, the
pointer and the values of sliders. Where nothing reacts, nothing changes at all.
-/

namespace LatexFigures

/-- The same record, with another geometry at most if it is a user variable, a plot or a user line.
-/
structure Record.SameButGeometry (r after : Record) : Prop where
  kind : after.kind = r.kind
  source : after.source = r.source
  command : after.command = r.command
  settings : after.settings = r.settings
  geometry : r.kind ∉ [.userVariable, .plot, .userLine] → after.geometry = r.geometry

/-- The same slider, perhaps with another value. -/
def Geometry.Slider.SameButValue (slider after : Geometry.Slider) : Prop :=
  after = { slider with value := after.value }

/-- The same context, perhaps with other values of variables and sliders and another pointer. -/
structure Context.SameButInputs (ctx after : Context) : Prop where
  lowerLeft : after.lowerLeft = ctx.lowerLeft
  upperRight : after.upperRight = ctx.upperRight
  width : after.width = ctx.width
  height : after.height = ctx.height
  size : after.size = ctx.size
  settings : after.settings = ctx.settings
  axes : after.axes = ctx.axes
  /-- As many as before, and in the same order. -/
  sliders : List.Forall₂ Geometry.Slider.SameButValue ctx.sliders after.sliders

/-- What events never touch of a figure. -/
structure Figure.Untouched (figure after : Figure) : Prop where
  kinds : ∀ kind, after.plan.ofKind kind = [] ↔ figure.plan.ofKind kind = []
  /-- Of each kind there are as many records as before, and in the same order. -/
  records
    : ∀ kind,
        List.Forall₂ Record.SameButGeometry (figure.plan.ofKind kind) (after.plan.ofKind kind)
  context : figure.context.SameButInputs after.context
  mode : after.mode = figure.mode

-----------------------------------------------------------------------------------------
-- What lasts is untouched
-----------------------------------------------------------------------------------------

theorem Record.sameButGeometry_of_lasting {r after : Record} (same : r.lasting = after.lasting)
    : r.SameButGeometry after := by
  have recipe : r.recipe = after.recipe := congrArg (·.1) same
  have command : r.command = after.command := congrArg (·.2.1) recipe
  have kind : r.kind = after.kind := congrArg Command.kind command
  refine ⟨kind.symm, (congrArg (·.1) recipe).symm, command.symm,
    (congrArg (·.2.2) recipe).symm, fun other => ?_⟩
  have independent : ¬ r.kind.isDependent = true := by
    simpa [CommandKind.isDependent_iff] using other
  have geometry := congrArg (·.2) same
  simp only [lasting, ← kind, independent] at geometry
  exact (Option.some.inj geometry).symm

theorem Geometry.Slider.sameButValue_of_lasting {slider after : Geometry.Slider}
    (same : slider.lasting = after.lasting)
    : slider.SameButValue after := by
  cases slider
  cases after
  simp_all [lasting, SameButValue]

/-- Lists with the same view agree item by item on it. -/
theorem forall₂_of_map_eq {α β : Type} {view : α → β} {R : α → α → Prop}
    (related : ∀ {a b}, view a = view b → R a b) {as bs : List α}
    (same : as.map view = bs.map view)
    : List.Forall₂ R as bs := by
  have viewed : List.Forall₂ (fun a b => view a = view b) as bs := by
    rw [← List.forall₂_map_right_iff, ← List.forall₂_map_left_iff, List.forall₂_eq_eq_eq]
    exact same
  exact viewed.imp fun _ _ => related

theorem Context.sameButInputs_of_lasting {ctx after : Context} (same : ctx.lasting = after.lasting)
    : ctx.SameButInputs after where
  lowerLeft := (congrArg (·.lowerLeft) same).symm
  upperRight := (congrArg (·.upperRight) same).symm
  width := (congrArg (·.width) same).symm
  height := (congrArg (·.height) same).symm
  size := (congrArg (·.size) same).symm
  settings := (congrArg (·.settings) same).symm
  axes := (congrArg (·.axes) same).symm
  sliders :=
    forall₂_of_map_eq Geometry.Slider.sameButValue_of_lasting (congrArg (·.sliders) same)

namespace Figure

theorem untouched_of_lasting {figure after : Figure} (same : figure.lasting = after.lasting)
    : figure.Untouched after := by
  have records : figure.plan.records.map Record.lasting = after.plan.records.map Record.lasting :=
    congrArg (·.2) same
  have ofKind (kind : CommandKind)
      : List.Forall₂ Record.SameButGeometry (figure.plan.ofKind kind) (after.plan.ofKind kind) :=
    forall₂_of_map_eq Record.sameButGeometry_of_lasting
      (Plan.ofKind_map_congr (fun lasting => lasting.1.2.1.kind) (fun _ => rfl) records kind)
  refine ⟨fun kind => ?_, ofKind, Context.sameButInputs_of_lasting (congrArg (·.1) same), ?_⟩
  · rw [← List.length_eq_zero_iff, ← List.length_eq_zero_iff, (ofKind kind).length_eq]
  · refine mode_congr ?_
    simpa [Function.comp_def, Record.lasting] using congrArg (List.map (·.1)) records.symm

-----------------------------------------------------------------------------------------
-- Events that nothing reacts to
-----------------------------------------------------------------------------------------

/-- No event does anything to a static figure. -/
theorem perform_of_static {figure : Figure} (static : figure.mode = .static) (event : Event)
    : figure.perform event = (figure, []) :=
  perform_of_inert fun reacts => by simp [static] at reacts

theorem performAll_of_static {figure : Figure} (static : figure.mode = .static)
    (events : List Event)
    : figure.performAll events = figure := by
  induction events with
  | nil => rfl
  | cons event events ih =>
      rw [performAll, List.foldl_cons, perform_of_static static, ← performAll, ih]

/-- Input for a slider that the figure does not have does nothing to it. -/
theorem perform_of_no_slider {figure : Figure} {index : Nat}
    (absent : figure.context.sliders.length ≤ index) (raw : Float)
    : figure.perform (.sliderInput index raw) = (figure, []) := by
  refine perform_of_inert fun _ => ?_
  simp [prepare?, List.getElem?_eq_none absent]

/-- No sequence of events touches the kinds of a figure, the number and the order of the records of
each kind, or anything of a record but the geometry of user variables, plots and user lines; nor
the canvas, the settings and the axes, nor more of a slider than its value; and so the figure
reacts behind it or not as before. Events change nothing of a static figure, and input for a
slider that is not there changes nothing of any figure; neither redraws anything.
-/
theorem performAll_untouched (figure : Figure) (events : List Event)
    : let after := figure.performAll events
      figure.Untouched after
      ∧ (figure.mode = .static
          → after = figure ∧ ∀ event, after.perform event = (figure, []))
      ∧ ∀ index raw,
          figure.context.sliders.length ≤ index
          → after.perform (.sliderInput index raw) = (after, []) := by
  intro after
  have untouched : figure.Untouched after :=
    untouched_of_lasting (performAll_lasting figure events).symm
  refine ⟨untouched, fun static => ?_, fun index raw absent => ?_⟩
  · have same : after = figure := performAll_of_static static events
    exact ⟨same, fun event => by rw [same, perform_of_static static]⟩
  · rw [untouched.context.sliders.length_eq] at absent
    exact perform_of_no_slider absent raw

end Figure

end LatexFigures
