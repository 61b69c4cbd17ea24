import LatexFigures.Drawing.Plan

/-! What building a record again depends on, and what it changes. The record brings its settings
along, so that it sees of a context two edges of the canvas, the variables and the pointer alone. It
leaves the settings of the context as they were, and changes what its command declares.
-/

namespace LatexFigures

/-- The contexts agree in all that commands look at besides the settings. -/
structure Context.LooksLike (ctx other : Context) : Prop where
  left : ctx.lowerLeft.x = other.lowerLeft.x
  top : ctx.upperRight.y = other.upperRight.y
  bindings : ctx.bindings = other.bindings
  pointer : ctx.pointer = other.pointer

/-- The name of the variable that a command sets. -/
def Command.ownName? : Command → Option String
  | .userVariable c => some c.name
  | .slider c => some c.variableName
  | _ => none

namespace Geometry

/-- The variable that is set, with its value. -/
def bound? : Geometry → Option (String × Float)
  | .binding b => some (b.name, b.value)
  | .slider s => some (s.variableName, s.value)
  | _ => none

/-- The slider that is added. -/
def slider? : Geometry → Option Slider
  | .slider s => some s
  | _ => none

/-- The axes that replace those drawn before. -/
def axes? : Geometry → Option AxesFrame
  | .axes shape => some ⟨shape.dx, shape.dy, shape.origin⟩
  | _ => none

end Geometry

/-- What is left of a context (ctx) in which a record was built again, and now shows (shown). -/
structure Record.Leaves (r : Record) (shown : Geometry) (ctx after : Context) : Prop where
  /-- Nothing but these three parts may change, and so the settings are as before. -/
  others
    : after
      = { ctx with bindings := after.bindings, sliders := after.sliders, axes := after.axes }
  bindings
    : after.bindings
      = shown.bound?.elim ctx.bindings fun (name, value) => ctx.bindings.insert name value
  /-- User variables and sliders set the variable of their own name, and nothing else sets one. -/
  ownName : shown.bound?.map Prod.fst = r.command.ownName?
  sliders : after.sliders = ctx.sliders ++ shown.slider?.toList
  slider : shown.slider?.isSome ↔ r.kind = .slider
  axes : after.axes = shown.axes?.or ctx.axes
  ownAxes : shown.axes?.isSome ↔ r.kind = .axes

/-- A command draws the same in contexts that look alike under the same settings. -/
theorem Command.geometry_congr {ctx other : Context} (alike : ctx.LooksLike other)
    (settings : ctx.settings = other.settings) (command : Command)
    : command.geometry ctx = command.geometry other := by
  obtain ⟨left, top, bindings, pointer⟩ := alike
  rcases ctx with ⟨⟨_, _⟩, ⟨_, _⟩⟩
  rcases other with ⟨⟨_, _⟩, ⟨_, _⟩⟩
  subst left top bindings pointer settings
  cases command <;> rfl

/-- What a context takes over of a drawing besides the settings. -/
theorem Context.absorb_with_settings (ctx : Context) (g : Geometry) (settings : Settings)
    : { ctx.absorb g with settings }
      = { ctx with
          settings
          bindings := g.bound?.elim ctx.bindings fun (name, value) => ctx.bindings.insert name value
          sliders := ctx.sliders ++ g.slider?.toList
          axes := g.axes?.or ctx.axes } := by
  cases g with
  | axes | binding | slider => simp [absorb, bind, Geometry.bound?, Geometry.slider?, Geometry.axes?]
  | _ => simp [absorb, Geometry.bound?, Geometry.slider?, Geometry.axes?]

namespace Record

variable (r : Record)

theorem rebuild_snd (ctx : Context)
    : let shown := (r.rebuild ctx).1.geometry
      (r.rebuild ctx).2
        = { ctx with
            bindings :=
              shown.bound?.elim ctx.bindings fun (name, value) => ctx.bindings.insert name value
            sliders := ctx.sliders ++ shown.slider?.toList
            axes := shown.axes?.or ctx.axes } :=
  Context.absorb_with_settings { ctx with settings := r.settings } _ ctx.settings

/-- A context takes over what the record declares, and no settings. -/
theorem leaves_rebuild (ctx : Context)
    : r.Leaves (r.rebuild ctx).1.geometry ctx (r.rebuild ctx).2 := by
  constructor
  · rw [rebuild_snd]
  · rw [rebuild_snd]
  · rw [rebuild]
    cases r.command <;> rfl
  · rw [rebuild_snd]
  · rw [rebuild, kind]
    cases r.command <;> simp [Command.build, Command.geometry, Command.kind, Geometry.slider?]
  · rw [rebuild_snd]
  · rw [rebuild, kind]
    cases r.command <;> simp [Command.build, Command.geometry, Command.kind, Geometry.axes?]

/-- A record that is built again in either of two contexts that look alike is the same in both,
whatever their settings are. Each of them keeps its own settings, and changes in what the record
declares alone.
-/
theorem rebuild_of_looksLike {ctx other : Context} (alike : ctx.LooksLike other)
    : (r.rebuild ctx).1 = (r.rebuild other).1
      ∧ r.Leaves (r.rebuild ctx).1.geometry ctx (r.rebuild ctx).2
      ∧ r.Leaves (r.rebuild other).1.geometry other (r.rebuild other).2 := by
  refine ⟨?_, r.leaves_rebuild ctx, r.leaves_rebuild other⟩
  have snapshot : Context.LooksLike { ctx with settings := r.settings }
      { other with settings := r.settings } :=
    ⟨alike.left, alike.top, alike.bindings, alike.pointer⟩
  have same := Command.geometry_congr snapshot rfl r.command
  simp only [rebuild, Command.build, same]

/-- A variable that follows the pointer shows the same in figures of other units, size, sliders and
axes.
-/
theorem rebuild_of_looksLike_elsewhere
    : let command : Command :=
        .userVariable ⟨none, "a", ⟨"k".toList, "1".toList⟩, "x+k*y".toList⟩
      let wide := ({} : Settings).declare "unit=2cm".toList
      ∃ (r : Record) (ctx other : Context),
        r.command = command
        ∧ r.settings = wide
        ∧ ctx.LooksLike other
        ∧ ctx.settings ≠ other.settings
        ∧ ctx.size ≠ other.size
        ∧ ctx.sliders ≠ other.sliders
        ∧ ctx.axes ≠ other.axes
        ∧ (r.rebuild ctx).1 = (r.rebuild other).1
        ∧ r.Leaves (r.rebuild ctx).1.geometry ctx (r.rebuild ctx).2
        ∧ r.Leaves (r.rebuild other).1.geometry other (r.rebuild other).2 := by
  intro command wide
  let inputs (ctx : Context) : Context :=
    { ctx.bind "k" 2 with pointer := some ⟨100, 50⟩ }
  let ctx := inputs (.initial ⟨0, 0⟩ ⟨4, 4⟩ {})
  let other : Context :=
    { inputs (.initial ⟨0, -2⟩ ⟨9, 4⟩ (({} : Settings).declare "xunit=3cm".toList)) with
      sliders := [⟨0, 9, "k", "k".toList, 2, 1⟩]
      axes := some ⟨50, 50, ⟨0, 0⟩⟩ }
  have alike : ctx.LooksLike other := ⟨rfl, rfl, rfl, rfl⟩
  let r := (ofCommand [] command { ctx with settings := wide }).1
  exact ⟨r, ctx, other, rfl, rfl, alike, by decide +kernel, by decide +kernel, by decide +kernel,
    by decide +kernel, r.rebuild_of_looksLike alike⟩

end Record

end LatexFigures
