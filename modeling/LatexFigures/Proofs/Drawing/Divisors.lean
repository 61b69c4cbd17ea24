import LatexFigures.Proofs.Drawing.Freshness
import LatexFigures.Proofs.Number.UnitScale

/-! What coordinates and slider values are divided by: unit scales, and the scalars of sliders. They
come from free text, and are copied into contexts and records; none of them is ever zero or not
finite, whatever is done to a figure.
-/

namespace LatexFigures

open Number

/-- What a function keeps holds of a list whose elements it changes at one place. -/
theorem forall_mem_modify {α : Type} {P : α → Prop} {f : α → α} {xs : List α}
    (h : ∀ x ∈ xs, P x) (keeps : ∀ x, P x → P (f x)) (index : Nat)
    : ∀ x ∈ xs.modify index f, P x := by
  induction xs generalizing index with
  | nil => simp
  | cons x xs ih =>
      obtain ⟨here, later⟩ := List.forall_mem_cons.mp h
      cases index with
      | zero => exact List.forall_mem_cons.mpr ⟨keeps x here, later⟩
      | succ index => exact List.forall_mem_cons.mpr ⟨here, ih later index⟩

-----------------------------------------------------------------------------------------
-- Values of expressions
-----------------------------------------------------------------------------------------

namespace Expr

theorem isFinite_of_eval {e : Expr} {scope : Scope} {value : Float}
    (evaluated : e.eval scope = .ok value)
    : value.isFinite = true := by
  unfold eval at evaluated
  cases found : e.value scope with
  | error fault =>
      rw [found] at evaluated
      cases evaluated
  | ok x =>
      rw [found] at evaluated
      simp only [bind, Except.bind] at evaluated
      split at evaluated
      · rename_i finite
        obtain rfl := Except.ok.inj evaluated
        exact finite
      · cases evaluated

theorem isFinite_of_evaluate {source : Text} {scope : Scope} {value : Float}
    (evaluated : evaluate source scope = .ok value)
    : value.isFinite = true := by
  unfold evaluate at evaluated
  split at evaluated
  · rename_i literal
    obtain rfl := Except.ok.inj evaluated
    exact (Option.filter_eq_some_iff.mp literal).2
  · cases compiled : compile source with
    | error fault =>
        rw [compiled] at evaluated
        cases evaluated
    | ok e =>
        rw [compiled] at evaluated
        exact isFinite_of_eval evaluated

end Expr

/-- In a context every expression has a finite value, if only the one that stands for none. -/
theorem Context.isFinite_eval (ctx : Context) (source : Text)
    : (ctx.eval source).isFinite = true := by
  unfold eval evalWith Expr.evaluateOr
  split
  · rename_i evaluated
    exact Expr.isFinite_of_evaluate evaluated
  · decide +kernel

-----------------------------------------------------------------------------------------
-- Settings and sliders
-----------------------------------------------------------------------------------------

/-- The scale is finite and positive. -/
def Number.UnitScale.Regular (scale : UnitScale) : Prop :=
  scale.raw.isFinite = true ∧ 0 < scale.raw

/-- All four scales are finite and positive, and so is the width of lines finite, if it is set. -/
structure Settings.Regular (settings : Settings) : Prop where
  unit : settings.unit.Regular
  xunit : settings.xunit.Regular
  yunit : settings.yunit.Regular
  runit : settings.runit.Regular
  linewidth : ∀ width ∈ settings.linewidth, width.isFinite = true

/-- Scales are checked as they are made, so that the width of lines is what is left to check. -/
theorem Settings.regular_of_linewidth {settings : Settings}
    (finite : ∀ width ∈ settings.linewidth, width.isFinite = true)
    : settings.Regular where
  unit := ⟨settings.unit.isFinite, settings.unit.positive⟩
  xunit := ⟨settings.xunit.isFinite, settings.xunit.positive⟩
  yunit := ⟨settings.yunit.isFinite, settings.yunit.positive⟩
  runit := ⟨settings.runit.isFinite, settings.runit.positive⟩
  linewidth := finite

theorem Settings.regular_default : ({} : Settings).Regular :=
  regular_of_linewidth fun width set => by cases set

theorem Settings.assign_linewidth (settings : Settings) (key value : Text)
    : (settings.assign key value).linewidth = settings.linewidth
      ∨ (settings.assign key value).linewidth
        = (Literal.finite? value).or settings.linewidth := by
  unfold assign
  dsimp only
  repeat' split
  all_goals first
    | exact .inl rfl
    | exact .inr rfl
    | cases scale? value <;> exact .inl rfl

theorem Settings.Regular.assign {settings : Settings} (h : settings.Regular) (key value : Text)
    : (settings.assign key value).Regular := by
  apply regular_of_linewidth
  rcases settings.assign_linewidth key value with same | declared
  · rw [same]
    exact h.linewidth
  · intro width set
    rw [declared] at set
    rcases Option.or_eq_some_iff.mp set with read | ⟨-, kept⟩
    · exact (Option.filter_eq_some_iff.mp read).2
    · exact h.linewidth width kept

/-- Declarations keep settings regular, by induction on their entries. -/
theorem Settings.Regular.declare {settings : Settings} (h : settings.Regular) (body : Text)
    : (settings.declare body).Regular := by
  unfold Settings.declare
  generalize entries body = entries
  induction entries generalizing settings with
  | nil => exact h
  | cons entry entries ih => exact ih (h.assign entry.1 entry.2)

/-- The raw input of the slider can be divided by its scalar. -/
def Geometry.Slider.Regular (slider : Geometry.Slider) : Prop := IsDivisor slider.scalar

theorem Command.Slider.regular_geometry (c : Command.Slider) (ctx : Context)
    : (c.geometry ctx).Regular := by
  have one : IsDivisor 1 := ⟨by decide +kernel, by decide +kernel⟩
  unfold Geometry.Slider.Regular geometry scalarIn
  dsimp only
  split
  · split
    · exact one
    · rename_i nonzero
      exact ⟨ctx.isFinite_eval _, Bool.eq_false_iff.mpr nonzero⟩
  · exact one

-----------------------------------------------------------------------------------------
-- Contexts and records
-----------------------------------------------------------------------------------------

/-- What a drawing holds of settings and sliders is regular. -/
def Geometry.Regular : Geometry → Prop
  | .slider value => value.Regular
  | .units value => value.Regular
  | _ => True

/-- The settings in force and all sliders are regular. -/
structure Context.Regular (ctx : Context) : Prop where
  settings : ctx.settings.Regular
  sliders : ∀ slider ∈ ctx.sliders, slider.Regular

/-- The settings with which a record was built, and its drawing, are regular. -/
structure Record.Regular (r : Record) : Prop where
  settings : r.settings.Regular
  geometry : r.geometry.Regular

/-- Some records and the context behind them are regular. -/
structure RegularBehind (records : List Record) (ctx : Context) : Prop where
  records : ∀ r ∈ records, r.Regular
  context : ctx.Regular

theorem Context.regular_initial (lowerLeft upperRight : Point Float) {settings : Settings}
    (h : settings.Regular)
    : (initial lowerLeft upperRight settings).Regular :=
  ⟨h, by simp [initial]⟩

variable {ctx : Context}

theorem Command.regular_geometry (command : Command) (h : ctx.Regular)
    : (command.geometry ctx).Regular := by
  cases command with
  | slider c => exact c.regular_geometry ctx
  | settings c => exact h.settings.declare c.body
  | _ => trivial

theorem Context.Regular.absorb (h : ctx.Regular) {g : Geometry} (drawn : g.Regular)
    : (ctx.absorb g).Regular := by
  cases g with
  | slider slider =>
      refine ⟨h.settings, ?_⟩
      intro other member
      rcases List.mem_append.mp member with earlier | last
      · exact h.sliders other earlier
      · rw [List.mem_singleton.mp last]
        exact drawn
  | units settings => exact ⟨drawn, h.sliders⟩
  | _ => exact ⟨h.settings, h.sliders⟩

theorem Record.regular_ofCommand (source : Text) (command : Command) (h : ctx.Regular)
    : (ofCommand source command ctx).1.Regular ∧ (ofCommand source command ctx).2.Regular := by
  have drawn := command.regular_geometry h
  exact ⟨⟨h.settings, drawn⟩, h.absorb drawn⟩

/-- A record is built again under its own settings, and gives back those of the context. -/
theorem Record.Regular.rebuild {r : Record} (own : r.Regular) (h : ctx.Regular)
    : (r.rebuild ctx).1.Regular ∧ (r.rebuild ctx).2.Regular := by
  have before : ({ ctx with settings := r.settings } : Context).Regular :=
    ⟨own.settings, h.sliders⟩
  have drawn := r.command.regular_geometry before
  exact ⟨⟨own.settings, drawn⟩, ⟨h.settings, (before.absorb drawn).sliders⟩⟩

-----------------------------------------------------------------------------------------
-- Interpreting lines
-----------------------------------------------------------------------------------------

namespace Plan

theorem regular_interpretKinds (line : Text) (kinds : List CommandKind) (h : ctx.Regular)
    : RegularBehind (interpretKinds line kinds ctx).1 (interpretKinds line kinds ctx).2 := by
  induction kinds generalizing ctx with
  | nil => exact ⟨by simp [interpretKinds], h⟩
  | cons kind kinds ih =>
      unfold interpretKinds
      split
      · rename_i found _
        obtain ⟨first, behind⟩ := Record.regular_ofCommand found.source found.command h
        have rest := ih behind
        exact ⟨List.forall_mem_cons.mpr ⟨first, rest.records⟩, rest.context⟩
      · exact ih h

/-- By induction on the lines, each interpreted in the context that the ones before it leave. -/
theorem regular_interpretLines (lines : List Text) (h : ctx.Regular)
    : RegularBehind (interpretLines lines ctx).1 (interpretLines lines ctx).2 := by
  induction lines generalizing ctx with
  | nil => exact ⟨by simp [interpretLines], h⟩
  | cons line lines ih =>
      have first := regular_interpretKinds line CommandKind.all h
      have rest := ih first.context
      refine ⟨?_, rest.context⟩
      intro r member
      rcases List.mem_append.mp member with here | later
      · exact first.records r here
      · exact rest.records r later

end Plan

-----------------------------------------------------------------------------------------
-- Figures
-----------------------------------------------------------------------------------------

/-- All settings and sliders of the figure are regular. -/
def Figure.Regular (figure : Figure) : Prop := RegularBehind figure.plan.records figure.context

namespace Figure

theorem regular_ofLines (lines : List Text) (h : ctx.Regular) : (ofLines lines ctx).Regular :=
  Plan.regular_interpretLines lines h

/-- By induction on the records, each built in the context that the ones before it leave. -/
theorem regular_rebuildKind (kind : CommandKind) {records : List Record}
    (h : RegularBehind records ctx)
    : RegularBehind (rebuildKind kind records ctx).1 (rebuildKind kind records ctx).2.2 := by
  induction records generalizing ctx with
  | nil => exact h
  | cons r records ih =>
      obtain ⟨first, others⟩ := List.forall_mem_cons.mp h.records
      unfold rebuildKind
      split
      · obtain ⟨rebuilt, behind⟩ := first.rebuild h.context
        have rest := ih ⟨others, behind⟩
        exact ⟨List.forall_mem_cons.mpr ⟨rebuilt, rest.records⟩, rest.context⟩
      · have rest := ih ⟨others, h.context⟩
        exact ⟨List.forall_mem_cons.mpr ⟨first, rest.records⟩, rest.context⟩

theorem regular_rebuildKinds (kinds : List CommandKind) {records : List Record}
    (h : RegularBehind records ctx)
    : RegularBehind (rebuildKinds kinds records ctx).1 (rebuildKinds kinds records ctx).2.2 := by
  induction kinds generalizing records ctx with
  | nil => exact h
  | cons kind kinds ih => exact ih (regular_rebuildKind kind h)

variable {figure : Figure}

theorem Regular.recompute (h : figure.Regular) : figure.recompute.1.Regular :=
  regular_rebuildKinds recomputeOrder h

/-- An event changes of a slider its value alone. -/
theorem regular_prepare? {event : Event} {prepared : Context} (h : ctx.Regular)
    (found : prepare? ctx event = some prepared)
    : prepared.Regular := by
  cases event with
  | setVariable name value =>
      obtain rfl := Option.some.inj found
      exact ⟨h.settings, h.sliders⟩
  | sliderInput index raw =>
      obtain ⟨slider, here, rfl⟩ := Option.map_eq_some_iff.mp found
      have scalar := h.sliders slider (List.mem_of_getElem? here)
      refine ⟨h.settings, ?_⟩
      intro other member
      rcases List.mem_or_eq_of_mem_set member with unmoved | rfl
      · exact h.sliders other unmoved
      · exact scalar
  | pointerMove position =>
      obtain rfl := Option.some.inj found
      exact ⟨h.settings, h.sliders⟩

theorem Regular.perform (h : figure.Regular) (event : Event) : (figure.perform event).1.Regular := by
  unfold Figure.perform
  split
  · exact h
  · split
    · rename_i found
      exact Regular.recompute ⟨h.records, regular_prepare? h.context found⟩
    · exact h

theorem Regular.rebuildAt (h : figure.Regular) (kind : CommandKind) (index : Nat)
    : (figure.rebuildAt kind index).1.Regular := by
  unfold Figure.rebuildAt
  split
  · rename_i before r behind found
    have whole := rebuildAt_go_append found
    have own : r.Regular := h.records r (by simp [← whole])
    obtain ⟨rebuilt, context⟩ := own.rebuild h.context
    refine ⟨?_, context⟩
    intro other member
    rcases List.mem_append.mp member with earlier | later
    · exact h.records other (by simp [← whole, earlier])
    · rcases List.mem_cons.mp later with rfl | behind
      · exact rebuilt
      · exact h.records other (by simp [← whole, behind])
  · exact h

-----------------------------------------------------------------------------------------
-- Actions on figures
-----------------------------------------------------------------------------------------

/-- What can be done to a figure. -/
inductive Action
  | event (event : Event)
  | recompute
  | rebuild (kind : CommandKind) (index : Nat)
  /-- Interprets further lines in the context of the figure, whose records they replace. -/
  | interpret (lines : List Text)
  /-- Declares settings in the context. -/
  | declare (body : Text)
  /-- Declares settings with which a record is built again. -/
  | declareRecord (index : Nat) (body : Text)
  /-- Declares settings that a record has as its drawing. -/
  | declareDrawing (index : Nat) (body : Text)
  | clearPointer

/-- The figure behind an action. -/
def act (figure : Figure) : Action → Figure
  | .event event => (figure.perform event).1
  | .recompute => figure.recompute.1
  | .rebuild kind index => (figure.rebuildAt kind index).1
  | .interpret lines => .ofLines lines figure.context
  | .declare body =>
      let context := { figure.context with settings := figure.context.settings.declare body }
      { figure with context }
  | .declareRecord index body =>
      let declare (r : Record) : Record := { r with settings := r.settings.declare body }
      { figure with plan := ⟨figure.plan.records.modify index declare⟩ }
  | .declareDrawing index body =>
      let declare (r : Record) : Record :=
        match r.geometry with
        | .units settings => { r with geometry := .units (settings.declare body) }
        | _ => r
      { figure with plan := ⟨figure.plan.records.modify index declare⟩ }
  | .clearPointer => { figure with context := { figure.context with pointer := none } }

/-- Every action keeps settings and sliders regular. -/
theorem Regular.act (h : figure.Regular) (action : Action) : (figure.act action).Regular := by
  cases action with
  | event event => exact h.perform event
  | recompute => exact h.recompute
  | rebuild kind index => exact h.rebuildAt kind index
  | interpret lines => exact regular_ofLines lines h.context
  | declare body => exact ⟨h.records, h.context.settings.declare body, h.context.sliders⟩
  | declareRecord index body =>
      refine ⟨forall_mem_modify h.records ?_ index, h.context⟩
      intro r own
      exact ⟨own.settings.declare body, own.geometry⟩
  | declareDrawing index body =>
      refine ⟨forall_mem_modify h.records ?_ index, h.context⟩
      intro r own
      split
      · rename_i settings drawn
        have regular : settings.Regular := by
          have geometry := own.geometry
          rwa [drawn] at geometry
        exact ⟨own.settings, regular.declare body⟩
      · exact own
  | clearPointer => exact ⟨h.records, h.context.settings, h.context.sliders⟩

/-- What the figure divides by: the units of the map between coordinates, as they are in its context
and as its records set them while they are built again, and the scalars of its sliders.
-/
def divisors (figure : Figure) : List Float :=
  let units (settings : Settings) : List Float :=
    let frame := ({ figure.context with settings } : Context).frame
    [frame.xunit, frame.yunit]
  units figure.context.settings
  ++ figure.plan.records.flatMap (fun r => units r.settings)
  ++ figure.context.sliders.map (·.scalar)

theorem Regular.isDivisor (h : figure.Regular) : ∀ x ∈ figure.divisors, IsDivisor x := by
  have units (settings : Settings) : ∀ x ∈ [settings.xunit.raw, settings.yunit.raw], IsDivisor x :=
    List.forall_mem_cons.mpr
      ⟨settings.xunit.isDivisor, List.forall_mem_singleton.mpr settings.yunit.isDivisor⟩
  intro x member
  rcases List.mem_append.mp member with unit | scalar
  · rcases List.mem_append.mp unit with inForce | own
    · exact units _ x inForce
    · obtain ⟨r, -, inside⟩ := List.mem_flatMap.mp own
      exact units _ x inside
  · obtain ⟨slider, inside, rfl⟩ := List.mem_map.mp scalar
    exact h.context.sliders slider inside

/-- Neither a unit nor a scalar of zero is taken over. -/
example
    : let lines : List Text :=
        ["\\psset\x7bunit=0\x7d".toList,
          "\\slider[scalar=0]\x7b0\x7d\x7b1\x7d\x7ba\x7d\x7b\x7d\x7b0\x7d".toList]
      (ofLines lines (.initial ⟨0, 0⟩ ⟨1, 1⟩ {})).divisors = [50, 50, 50, 50, 50, 50, 1] := by
  decide +kernel

end Figure

end LatexFigures
