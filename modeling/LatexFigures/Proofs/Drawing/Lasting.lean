import LatexFigures.Proofs.Drawing.Recompute

/-! What outlasts events. Of a record they change the geometry at most, and that only if the record
depends on variables or on the pointer; of a context the variables, the pointer and the values of
sliders.
-/

namespace LatexFigures

/-- What of a record outlasts events: its recipe, and the geometry of all but dependent ones. -/
def Record.lasting (r : Record) : (Text × Command × Settings) × Option Geometry :=
  (r.recipe, if r.kind.isDependent then none else some r.geometry)

/-- What of a slider outlasts events: all but its value. -/
def Geometry.Slider.lasting (slider : Geometry.Slider) : Geometry.Slider :=
  { slider with value := 0 }

/-- What of a context outlasts events: all but variables, the pointer and the values of sliders. -/
def Context.lasting (ctx : Context) : Context :=
  { ctx with
    bindings := ∅
    pointer := none
    sliders := ctx.sliders.map Geometry.Slider.lasting }

/-- What of a figure outlasts events. -/
def Figure.lasting (figure : Figure)
    : Context × List ((Text × Command × Settings) × Option Geometry) :=
  (figure.context.lasting, figure.plan.records.map Record.lasting)

/-- The event finds what it addresses: the input of a slider needs one with its index. -/
def Event.Valid (ctx : Context) : Event → Prop
  | .sliderInput index _ => index < ctx.sliders.length
  | _ => True

instance (ctx : Context) (event : Event) : Decidable (event.Valid ctx) :=
  match event with
  | .sliderInput index _ => inferInstanceAs (Decidable (index < ctx.sliders.length))
  | .setVariable .. | .pointerMove _ => inferInstanceAs (Decidable True)

-----------------------------------------------------------------------------------------
-- Records of one kind
-----------------------------------------------------------------------------------------

/-- Plans whose records look the same in a view that shows their kinds have, of each kind, records
that look the same in it.
-/
theorem Plan.ofKind_map_congr {β : Type} {view : Record → β} (kindOf : β → CommandKind)
    (shown : ∀ r, kindOf (view r) = r.kind) {plan other : Plan}
    (same : plan.records.map view = other.records.map view) (kind : CommandKind)
    : (plan.ofKind kind).map view = (other.ofKind kind).map view := by
  have all (plan : Plan)
      : (plan.ofKind kind).map view
        = (plan.records.map view).filter (kindOf · = kind) := by
    simp [ofKind, List.filter_map, Function.comp_def, shown]
  rw [all, all, same]

-----------------------------------------------------------------------------------------
-- Building dependent records again
-----------------------------------------------------------------------------------------

theorem CommandKind.isDependent_iff {kind : CommandKind}
    : kind.isDependent = true ↔ kind = .userVariable ∨ kind = .plot ∨ kind = .userLine := by
  cases kind <;> decide

theorem Record.rebuild_lasting {r : Record} (dependent : r.kind.isDependent = true)
    (ctx : Context)
    : (r.rebuild ctx).1.lasting = r.lasting := by
  simp [lasting, dependent]

theorem Context.bindAll_lasting (ctx : Context) (bindings : List (String × Float))
    : (ctx.bindAll bindings).lasting = ctx.lasting := by
  rw [bindAll_eq]
  rfl

/-- A dependent record that is built again declares values of variables at most. -/
theorem Record.rebuild_snd_lasting {r : Record} (dependent : r.kind.isDependent = true)
    (ctx : Context)
    : (r.rebuild ctx).2.lasting = ctx.lasting := by
  rcases CommandKind.isDependent_iff.mp dependent with binds | follows
  · rw [r.rebuild_snd_of_userVariable ctx binds, Context.bindAll_lasting]
  · rw [r.rebuild_snd_of_kind ctx follows]

/-- Events neither add nor remove what they address. -/
theorem Event.valid_congr {ctx other : Context} (same : ctx.lasting = other.lasting)
    (event : Event)
    : event.Valid ctx ↔ event.Valid other := by
  have sliders := congrArg (·.sliders.length) same
  simp only [Context.lasting, List.length_map] at sliders
  cases event with
  | setVariable | pointerMove => exact Iff.rfl
  | sliderInput index raw => simp only [Valid, sliders]

namespace Figure

/-- By induction on the records, each built in the context that the ones before it leave. -/
theorem rebuildKind_lasting {kind : CommandKind} (dependent : kind.isDependent = true)
    (records : List Record) (ctx : Context)
    : (rebuildKind kind records ctx).1.map Record.lasting = records.map Record.lasting
      ∧ (rebuildKind kind records ctx).2.2.lasting = ctx.lasting := by
  induction records generalizing ctx with
  | nil => exact ⟨rfl, rfl⟩
  | cons r records ih =>
      unfold rebuildKind
      split
      · rename_i same
        obtain ⟨others, behind⟩ := ih (r.rebuild ctx).2
        have own : r.kind.isDependent = true := same ▸ dependent
        exact ⟨by rw [List.map_cons, List.map_cons, others, r.rebuild_lasting own],
          behind.trans (r.rebuild_snd_lasting own ctx)⟩
      · obtain ⟨others, behind⟩ := ih ctx
        exact ⟨by rw [List.map_cons, List.map_cons, others], behind⟩

theorem rebuildKinds_lasting {kinds : List CommandKind}
    (dependent : ∀ kind ∈ kinds, kind.isDependent = true) (records : List Record)
    (ctx : Context)
    : (rebuildKinds kinds records ctx).1.map Record.lasting = records.map Record.lasting
      ∧ (rebuildKinds kinds records ctx).2.2.lasting = ctx.lasting := by
  induction kinds generalizing records ctx with
  | nil => exact ⟨rfl, rfl⟩
  | cons kind kinds ih =>
      obtain ⟨first, between⟩ :=
        rebuildKind_lasting (dependent kind List.mem_cons_self) records ctx
      obtain ⟨rest, behind⟩ :=
        ih (fun other member => dependent other (List.mem_cons_of_mem _ member)) _ _
      exact ⟨rest.trans first, behind.trans between⟩

theorem recompute_lasting (figure : Figure) : figure.recompute.1.lasting = figure.lasting := by
  have dependent : ∀ kind ∈ recomputeOrder, kind.isDependent = true := by decide
  obtain ⟨records, context⟩ :=
    rebuildKinds_lasting dependent figure.plan.records figure.context
  exact Prod.ext context records

-----------------------------------------------------------------------------------------
-- Events
-----------------------------------------------------------------------------------------

/-- What an event changes directly does not last. -/
theorem prepare?_lasting {ctx prepared : Context} {event : Event}
    (found : prepare? ctx event = some prepared)
    : prepared.lasting = ctx.lasting := by
  cases event with
  | setVariable name value =>
      obtain rfl := Option.some.inj found
      rfl
  | sliderInput index raw =>
      obtain ⟨slider, here, rfl⟩ := Option.map_eq_some_iff.mp found
      obtain ⟨inside, rfl⟩ := List.getElem?_eq_some_iff.mp here
      -- without its value, the slider that was moved is the one that was there
      have moved (value : Float)
          : (ctx.sliders.set index { ctx.sliders[index] with value }).map Geometry.Slider.lasting
            = ctx.sliders.map Geometry.Slider.lasting := by
        have same : Geometry.Slider.lasting { ctx.sliders[index] with value }
            = ctx.sliders[index].lasting := rfl
        rw [List.map_set, same, ← List.getElem_map Geometry.Slider.lasting,
          List.set_getElem_self]
        simpa using inside
      simp only [Context.lasting, Context.bind, moved]
  | pointerMove position =>
      obtain rfl := Option.some.inj found
      rfl

theorem prepare?_isSome_iff {ctx : Context} {event : Event}
    : (prepare? ctx event).isSome ↔ event.Valid ctx := by
  cases event with
  | setVariable | pointerMove => simp [prepare?, Event.Valid]
  | sliderInput index raw => simp [prepare?, Event.Valid]

theorem perform_lasting (figure : Figure) (event : Event)
    : (figure.perform event).1.lasting = figure.lasting := by
  unfold perform
  split
  · rfl
  · split
    · rename_i ctx found
      rw [recompute_lasting]
      exact Prod.ext (prepare?_lasting found) rfl
    · rfl

/-- What lasts, lasts through any sequence of events. -/
theorem performAll_lasting (figure : Figure) (events : List Event)
    : (figure.performAll events).lasting = figure.lasting := by
  induction events generalizing figure with
  | nil => rfl
  | cons event events ih =>
      rw [performAll, List.foldl_cons, ← performAll, ih, perform_lasting]

/-- After any history, a reactive figure recomputes its records at an event that finds what it
addresses.
-/
theorem perform_eq_recompute {figure : Figure} (history : List Event) {event : Event}
    (reacts : figure.mode = .reactive) (valid : event.Valid figure.context)
    : let before := figure.performAll history
      ∃ start, before.perform event = recompute { before with context := start } := by
  intro before
  have stillReacts : before.mode = .reactive :=
    (mode_congr (performAll_map_recipe figure history)).trans reacts
  have lasting : before.lasting = figure.lasting := performAll_lasting figure history
  have finds : event.Valid before.context :=
    (event.valid_congr (congrArg (·.1) lasting)).mpr valid
  obtain ⟨start, prepared⟩ := Option.isSome_iff_exists.mp (prepare?_isSome_iff.mpr finds)
  exact ⟨start, perform_of_prepared stillReacts prepared⟩

end Figure

end LatexFigures
