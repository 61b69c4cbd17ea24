import LatexFigures.Proofs.Document.Progress
import LatexFigures.Proofs.Drawing.Idempotence
import LatexFigures.Proofs.Drawing.Lasting

/-! Figures whose user variables read each other in the order of their declaration do not depend on
the path of events: two sequences that leave the same pointer, sliders and variables, those of user
variables apart, leave the same figure.
-/

namespace LatexFigures

/-- The contexts agree on the pointer, on the values of the sliders and on all variables but these.
-/
structure Context.SameInputs (computed : List String) (ctx other : Context) : Prop where
  pointer : ctx.pointer = other.pointer
  sliders : ctx.sliders.map (·.value) = other.sliders.map (·.value)
  values : ∀ name ∉ computed, ctx.bindings[name]? = other.bindings[name]?

/-- The names that the user variables of a figure bind. -/
def Figure.computedNames (figure : Figure) : List String :=
  (figure.plan.records.filterMap Record.userVariable?).map (·.name)

theorem Geometry.Slider.eq_of_lasting {slider other : Geometry.Slider}
    (same : slider.lasting = other.lasting) (value : slider.value = other.value)
    : slider = other := by
  cases slider
  cases other
  simp_all [lasting]

theorem Geometry.Slider.map_eq_of_lasting {sliders others : List Geometry.Slider}
    (same : sliders.map lasting = others.map lasting)
    (values : sliders.map (·.value) = others.map (·.value))
    : sliders = others := by
  induction sliders generalizing others with
  | nil => simpa using same.symm
  | cons slider sliders ih =>
      cases others with
      | nil => simp at same
      | cons other others =>
          simp only [List.map_cons, List.cons.injEq] at same values
          rw [eq_of_lasting same.1 values.1, ih same.2 values.2]

/-- Contexts of one origin that have the same inputs differ in computed variables at most. -/
theorem Context.SameInputs.eq_of_lasting {computed : List String} {ctx other : Context}
    (inputs : ctx.SameInputs computed other) (same : ctx.lasting = other.lasting)
    : { ctx with bindings := ∅ } = { other with bindings := ∅ } := by
  have sliders : ctx.sliders = other.sliders :=
    Geometry.Slider.map_eq_of_lasting (congrArg (·.sliders) same) inputs.sliders
  have pointer := inputs.pointer
  cases ctx
  cases other
  simp_all [lasting]

-----------------------------------------------------------------------------------------
-- Recomputing forgets dependent geometry
-----------------------------------------------------------------------------------------

namespace Record

theorem rebuild_congr {r other : Record} (same : r.recipe = other.recipe) (ctx : Context)
    : r.rebuild ctx = other.rebuild ctx := by
  cases r
  cases other
  obtain ⟨rfl, rfl, rfl⟩ : _ ∧ _ ∧ _ := by simpa [recipe] using same
  rfl

theorem kind_congr {r other : Record} (same : r.recipe = other.recipe) : r.kind = other.kind :=
  congrArg (·.2.1.kind) same

end Record

namespace Figure

/-- Records that differ in dependent geometry at most do not differ once they follow a context. -/
theorem refresh_congr {r other : Record} (same : r.lasting = other.lasting)
    (notVariable : r.kind ≠ .userVariable) (ctx : Context)
    : refresh ctx r = refresh ctx other := by
  have recipe : r.recipe = other.recipe := congrArg (·.1) same
  have kind := Record.kind_congr recipe
  by_cases follows : r.kind = .plot ∨ r.kind = .userLine
  · rw [refresh_of_follows ctx follows, refresh_of_follows ctx (kind ▸ follows),
      Record.rebuild_congr recipe]
  · rw [refresh_of_other ctx follows, refresh_of_other ctx (kind ▸ follows)]
    have lasts : ¬ r.kind.isDependent = true := by
      simp [CommandKind.isDependent_iff, notVariable, follows]
    have geometry := congrArg (·.2) same
    simp only [Record.lasting, ← kind, lasts] at geometry
    cases r
    cases other
    simp_all [Record.recipe]

/-- A pass over user variables sees the recipes alone, so that records that differ in dependent
geometry at most come out of it with the same context, and the same once they follow a context. By
induction on the records.
-/
theorem variablePass_of_lasting {records others : List Record}
    (same : records.map Record.lasting = others.map Record.lasting) (ctx : Context)
    : (variablePass records ctx).2 = (variablePass others ctx).2
      ∧ ∀ follow, (variablePass records ctx).1.map (refresh follow)
          = (variablePass others ctx).1.map (refresh follow) := by
  induction records generalizing others ctx with
  | nil =>
      obtain rfl : others = [] := by simpa using same.symm
      exact ⟨rfl, fun _ => rfl⟩
  | cons r records ih =>
      cases others with
      | nil => simp at same
      | cons other others =>
          obtain ⟨first, rest⟩ := List.cons.inj same
          have recipe : r.recipe = other.recipe := congrArg (·.1) first
          have kinds := Record.kind_congr recipe
          by_cases kind : r.kind = .userVariable
          · obtain ⟨behind, others⟩ := ih rest (r.rebuild ctx).2
            rw [variablePass_cons_of_userVariable _ ctx kind,
              variablePass_cons_of_userVariable _ ctx (kinds ▸ kind),
              ← Record.rebuild_congr recipe ctx]
            exact ⟨behind, fun follow => by rw [List.map_cons, List.map_cons, others]⟩
          · obtain ⟨behind, others⟩ := ih rest ctx
            rw [variablePass_cons_of_other _ ctx kind,
              variablePass_cons_of_other _ ctx (kinds ▸ kind)]
            exact ⟨behind, fun follow => by
              rw [List.map_cons, List.map_cons, others, refresh_congr first kind]⟩

/-- Recomputing a figure forgets the geometry that dependent records had. -/
theorem recompute_of_lasting {records others : List Record}
    (same : records.map Record.lasting = others.map Record.lasting) (ctx : Context)
    : recompute ⟨ctx, ⟨records⟩⟩ = recompute ⟨ctx, ⟨others⟩⟩ := by
  obtain ⟨behind, follow⟩ := variablePass_of_lasting same ctx
  rw [recompute_eq, recompute_eq]
  simp only [behind, follow]

-----------------------------------------------------------------------------------------
-- Sequences of events
-----------------------------------------------------------------------------------------

variable {figure : Figure} {events others : List Event}

/-- Behind events that find what they address, a reactive figure is one recomputation away from
its own first records.
-/
theorem performAll_eq_recompute (reacts : figure.mode = .reactive) (nonempty : events ≠ [])
    (valid : ∀ event ∈ events, event.Valid figure.context)
    : ∃ start, figure.performAll events = (recompute ⟨start, figure.plan⟩).1 := by
  let before := figure.performAll events.dropLast
  let last := events.getLast nonempty
  have lasting : before.lasting = figure.lasting := performAll_lasting figure events.dropLast
  obtain ⟨start, performed⟩ :=
    perform_eq_recompute events.dropLast reacts (valid last (List.getLast_mem nonempty))
  refine ⟨start, ?_⟩
  calc figure.performAll events
    _ = figure.performAll (events.dropLast ++ [last]) := by
      rw [List.dropLast_concat_getLast nonempty]
    _ = (before.perform last).1 := by
      simp [performAll, before]
    _ = (recompute ⟨start, before.plan⟩).1 := by
      rw [performed]
    _ = (recompute ⟨start, figure.plan⟩).1 := by
      rw [recompute_of_lasting (congrArg (·.2) lasting)]

/-- Recomputing well-ordered user variables from contexts that come to the same inputs comes to
the same figure.
-/
theorem recompute_congr_of_wellOrdered (ordered : figure.WellOrdered) {start other : Context}
    (inputs
      : Context.SameInputs figure.computedNames (recompute ⟨start, figure.plan⟩).1.context
          (recompute ⟨other, figure.plan⟩).1.context)
    (lasting : start.lasting = other.lasting)
    : recompute ⟨start, figure.plan⟩ = recompute ⟨other, figure.plan⟩ := by
  have behind (ctx : Context)
      : (recompute ⟨ctx, figure.plan⟩).1.context
        = (variablePass figure.plan.records ctx).2 := by
    rw [recompute_eq]
  rw [behind, behind] at inputs
  -- the pass binds what user variables compute, and leaves all else of a context
  have frame (ctx : Context)
      : { (variablePass figure.plan.records ctx).2 with bindings := ∅ }
        = { ctx with bindings := ∅ } := by
    rw [variablePass_snd, Context.bindAll_eq]
  have values (ctx : Context) {name : String} (other : name ∉ figure.computedNames)
      : (variablePass figure.plan.records ctx).2.bindings[name]? = ctx.bindings[name]? := by
    rw [variablePass_snd, Context.bindAll_getElem?_of_not_mem]
    rwa [bound_variablePass]
  have same : { start with bindings := ∅ } = { other with bindings := ∅ } := by
    have lasts (ctx : Context)
        : (variablePass figure.plan.records ctx).2.lasting = ctx.lasting := by
      rw [variablePass_snd, Context.bindAll_lasting]
    have reached := inputs.eq_of_lasting (by rw [lasts, lasts, lasting])
    rwa [frame, frame] at reached
  have agree : start.AgreeOn
      (fun name => name ∉ figure.computedNames
        ∨ name ∈ ([] : List Command.UserVariable).map (·.name)) other := by
    refine ⟨congrArg (·.lowerLeft) same, congrArg (·.upperRight) same,
      congrArg (·.pointer) same, fun name known => ?_⟩
    have known : name ∉ figure.computedNames := by simpa using known
    rw [← values start known, ← values other known, inputs.values name known]
  obtain ⟨records, contexts⟩ := variablePass_congr ordered [] rfl agree
  have context : (variablePass figure.plan.records start).2
      = (variablePass figure.plan.records other).2 := by
    refine Context.eq_of_getElem? ?_ fun name => contexts.values name trivial
    rw [frame, frame, same]
  rw [recompute_eq, recompute_eq]
  simp only [records, context]

/-- A reactive figure with well-ordered user variables forgets the path of events: the pointer, the
values of the sliders and the variables that it does not compute determine all of it.
-/
theorem performAll_path_independent (ordered : figure.WellOrdered)
    (reacts : figure.mode = .reactive) (nonempty : events ≠ []) (otherNonempty : others ≠ [])
    (valid : ∀ event ∈ events ++ others, event.Valid figure.context)
    (inputs
      : Context.SameInputs figure.computedNames (figure.performAll events).context
          (figure.performAll others).context)
    : figure.performAll events = figure.performAll others := by
  obtain ⟨start, first⟩ := performAll_eq_recompute reacts nonempty fun event member =>
    valid event (List.mem_append_left _ member)
  obtain ⟨other, second⟩ := performAll_eq_recompute reacts otherNonempty fun event member =>
    valid event (List.mem_append_right _ member)
  have lasting : start.lasting = other.lasting := by
    have origin (ctx : Context) {events : List Event}
        (path : figure.performAll events = (recompute ⟨ctx, figure.plan⟩).1)
        : ctx.lasting = figure.context.lasting := by
      have same := performAll_lasting figure events
      rw [path, recompute_lasting] at same
      exact congrArg (·.1) same
    rw [origin start first, origin other second]
  rw [first, second] at inputs
  rw [first, second, recompute_congr_of_wellOrdered ordered inputs lasting]

/-- A detour over another value of the slider and a value for a computed variable leaves no trace.
-/
theorem performAll_path_independent_of_detour
    : ∃ (s : Text) (segments : List Segment) (figure : Figure) (events others : List Event),
        s = ("\\begin\x7bpspicture\x7d(4,4)\\slider\x7b0\x7d\x7b9\x7d\x7bk\x7d\x7bk\x7d\x7b1\x7d\n"
          ++ "\\uservariable\x7ba\x7d(1,k)\x7bx+k\x7d\n"
          ++ "\\uservariable\x7bb\x7d(a,1)\x7b2*a\x7d\n"
          ++ "\\psplot\x7b0\x7d\x7b0.005\x7d\x7bb\x7d").toList
        ∧ events = [.pointerMove ⟨100, 50⟩, .sliderInput 0 3]
        ∧ others
          = [.setVariable "b" 7, .sliderInput 0 8, .sliderInput 0 3, .pointerMove ⟨100, 50⟩]
        ∧ Document.parse {} s = .ok segments
        ∧ figure ∈ segments.filterMap (·.figure)
        ∧ figure.WellOrdered
        ∧ figure.mode = .reactive
        ∧ (∀ event ∈ events ++ others, event.Valid figure.context)
        ∧ Context.SameInputs figure.computedNames (figure.performAll events).context
            (figure.performAll others).context
        ∧ figure.performAll events = figure.performAll others := by
  let s : Text :=
    ("\\begin\x7bpspicture\x7d(4,4)\\slider\x7b0\x7d\x7b9\x7d\x7bk\x7d\x7bk\x7d\x7b1\x7d\n"
      ++ "\\uservariable\x7ba\x7d(1,k)\x7bx+k\x7d\n"
      ++ "\\uservariable\x7bb\x7d(a,1)\x7b2*a\x7d\n"
      ++ "\\psplot\x7b0\x7d\x7b0.005\x7d\x7bb\x7d").toList
  let events : List Event := [.pointerMove ⟨100, 50⟩, .sliderInput 0 3]
  let others : List Event :=
    [.setVariable "b" 7, .sliderInput 0 8, .sliderInput 0 3, .pointerMove ⟨100, 50⟩]
  let agree (ctx other : Context) : Bool :=
    ctx.pointer = other.pointer
      ∧ ctx.sliders.map (·.value) = other.sliders.map (·.value)
      ∧ ctx.bindings.toList = other.bindings.toList
  obtain ⟨segments, figure, parsed, member, meets⟩ :=
    Document.exists_figure {} s
      (fun figure => figure.WellOrdered ∧ figure.mode = .reactive
        ∧ (∀ event ∈ events ++ others, event.Valid figure.context)
        ∧ agree (figure.performAll events).context (figure.performAll others).context)
      (by decide +kernel)
  obtain ⟨ordered, reacts, valid, same⟩ := of_decide_eq_true meets
  obtain ⟨pointer, sliders, bindings⟩ := of_decide_eq_true same
  have inputs : Context.SameInputs figure.computedNames (figure.performAll events).context
      (figure.performAll others).context :=
    ⟨pointer, sliders, fun name _ => by rw [Std.ExtTreeMap.toList_inj.mp bindings]⟩
  exact ⟨s, segments, figure, events, others, rfl, rfl, rfl, parsed, member, ordered, reacts, valid,
    inputs, performAll_path_independent ordered reacts (by simp [events]) (by simp [others])
      valid inputs⟩

end Figure

end LatexFigures
