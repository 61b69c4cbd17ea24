import LatexFigures.Document.Reading
import LatexFigures.Proofs.Drawing.DeclarationOrder

/-! An event performed a second time changes nothing exactly if the user variables are settled
where the second pass over them begins. In a figure whose user variables read each other in the
order of their declaration they always are.
-/

namespace LatexFigures

namespace Figure

-----------------------------------------------------------------------------------------
-- Events
-----------------------------------------------------------------------------------------

/-- An event that changes a context changes it again, behind any values for variables. Nothing else
comes out differently, and each variable has its value in front of those values or behind them.
-/
theorem exists_prepare?_again {ctx once : Context} {event : Event}
    (prepared : prepare? ctx event = some once) (bindings : List (String × Float))
    : ∃ twice,
        prepare? (once.bindAll bindings) event = some twice
        ∧ { twice with bindings := ∅ } = { once with bindings := ∅ }
        ∧ ∀ name : String,
            twice.bindings[name]? = once.bindings[name]?
            ∨ twice.bindings[name]? = (once.bindAll bindings).bindings[name]? := by
  cases event with
  | setVariable name value =>
      obtain rfl := Option.some.inj prepared
      refine ⟨_, rfl, ?_, fun other => ?_⟩
      · rw [Context.bindAll_eq]
        rfl
      · rw [Context.bind_getElem?, Context.bind_getElem?]
        by_cases same : name = other
        · simp [same]
        · simp [same]
  | sliderInput index raw =>
      obtain ⟨slider, found, rfl⟩ := Option.map_eq_some_iff.mp prepared
      -- a slider that was moved is found where it was, and the same input moves it no further
      have moved : (ctx.sliders.set index { slider with value := raw / slider.scalar })[index]?
          = some { slider with value := raw / slider.scalar } := by
        have inside := (List.getElem?_eq_some_iff.mp found).1
        simp [inside]
      simp only [prepare?, Context.bindAll_eq, moved, Option.map_some, Option.some.injEq,
        exists_eq_left', List.set_set]
      refine ⟨rfl, fun other => ?_⟩
      simp only [Context.bind, Std.ExtTreeMap.getElem?_insert]
      split
      · exact .inl rfl
      · exact .inr rfl
  | pointerMove position =>
      obtain rfl := Option.some.inj prepared
      refine ⟨_, rfl, ?_, fun other => .inr rfl⟩
      rw [Context.bindAll_eq]

/-- An event that changes a context changes it again, behind any values for variables, to one
that differs from the first in those values at most, and that they complete to the same context.
-/
theorem prepare?_again {ctx once : Context} {event : Event}
    (prepared : prepare? ctx event = some once) (bindings : List (String × Float))
    : ∃ twice,
        prepare? (once.bindAll bindings) event = some twice
        ∧ { twice with bindings := ∅ } = { once with bindings := ∅ }
        ∧ (∀ name ∉ bindings.map Prod.fst, twice.bindings[name]? = once.bindings[name]?)
        ∧ twice.bindAll bindings = once.bindAll bindings := by
  obtain ⟨twice, again, frame, values⟩ := exists_prepare?_again prepared bindings
  have unbound (name : String) (absent : name ∉ bindings.map Prod.fst)
      : twice.bindings[name]? = once.bindings[name]? := by
    rcases values name with same | same
    · exact same
    · rw [same, Context.bindAll_getElem?_of_not_mem once absent]
  refine ⟨twice, again, frame, unbound, Context.eq_of_getElem? ?_ fun name => ?_⟩
  · rw [Context.bindAll_eq, Context.bindAll_eq]
    exact frame
  · rcases values name with same | same
    · rw [Context.bindAll_getElem?, Context.bindAll_getElem?, same]
    · rw [Context.bindAll_getElem?, same, Context.bindAll_getElem?, ← Option.or_assoc,
        Option.or_self]

-----------------------------------------------------------------------------------------
-- The second pass
-----------------------------------------------------------------------------------------

/-- Recomputing from a context that the values of settled user variables complete to the same
one changes nothing: they show these values again, and all else follows the same context.
-/
theorem recompute_of_settled {records : List Record} {ctx start : Context}
    (follow : records.map (refresh ctx) = records) (settled : Settled records start)
    (completes : start.bindAll (records.filterMap Record.binding?) = ctx)
    : recompute ⟨start, ⟨records⟩⟩ = (⟨ctx, ⟨records⟩⟩, dependents records) := by
  have same := settled_iff.mp settled
  have reached : (variablePass records start).2 = ctx := by
    rw [variablePass_snd, same, completes]
  rw [recompute_eq]
  simp only [same, reached, follow]

/-- The figure behind an event to which it reacts: the context that the event prepares and the
pass completes, and all records following it.
-/
theorem perform_eq {figure : Figure} {event : Event} {ctx : Context}
    (reacts : figure.mode = .reactive) (prepared : prepare? figure.context event = some ctx)
    : ∃ (records : List Record) (behind : Context),
        figure.perform event = (⟨behind, ⟨records⟩⟩, dependents records)
        ∧ behind = ctx.bindAll (records.filterMap Record.binding?)
        ∧ records.map (refresh behind) = records
        ∧ Settled records ctx
        ∧ (records.filterMap Record.binding?).map Prod.fst
          = (figure.plan.records.filterMap Record.userVariable?).map (·.name) := by
  let pass := variablePass figure.plan.records ctx
  have shown : (pass.1.map (refresh pass.2)).filterMap Record.binding?
      = pass.1.filterMap Record.binding? :=
    filterMap_binding?_refresh pass.1 pass.2
  refine ⟨pass.1.map (refresh pass.2), pass.2, ?_, ?_, ?_, ?_, ?_⟩
  · rw [perform_of_prepared reacts prepared, recompute_eq]
  · rw [shown]
    exact variablePass_snd figure.plan.records ctx
  · rw [List.map_map]
    exact List.map_congr_left fun r _ => refresh_refresh pass.2 r
  · exact settled_variablePass figure.plan.records ctx pass.2
  · rw [shown]
    exact bound_variablePass figure.plan.records ctx

/-- An event performed again changes nothing exactly if the user variables are settled where the
second pass begins. All else in a figure has no say in it.
-/
theorem perform_again_iff {figure : Figure} {event : Event}
    : (figure.perform event).1.perform event = figure.perform event
      ↔ (figure.mode = .reactive → ∀ start,
          prepare? (figure.perform event).1.context event = some start
          → Settled (figure.perform event).1.plan.records start) := by
  by_cases inert : figure.mode = .reactive → prepare? figure.context event = none
  · rw [perform_of_inert inert, perform_of_inert inert]
    refine ⟨fun _ reacts start prepared => ?_, fun _ => rfl⟩
    rw [inert reacts] at prepared
    cases prepared
  · obtain ⟨reacts, some⟩ := Classical.not_imp.mp inert
    obtain ⟨ctx, prepared⟩ := Option.ne_none_iff_exists'.mp some
    have kept := mode_congr (perform_map_recipe figure event)
    obtain ⟨records, behind, result, completes, follow, -, -⟩ := perform_eq reacts prepared
    obtain ⟨start, again, -, -, same⟩ :=
      prepare?_again prepared (records.filterMap Record.binding?)
    rw [← completes] at again same
    rw [result] at kept ⊢
    rw [perform_of_prepared (kept.trans reacts) again]
    constructor
    · intro unchanged _ other prepared
      obtain rfl : start = other := Option.some.inj (again.symm.trans prepared)
      rw [recompute_eq] at unchanged
      have records := congrArg (·.1.plan.records) unchanged
      exact settled_of_map_refresh records
    · intro settled
      exact recompute_of_settled follow (settled reacts start again) same

/-- User variables that read each other in the order of their declaration are settled where a
second pass begins: it begins with other values for them at most, which it forgets.
-/
theorem settled_of_wellOrdered {figure : Figure} {event : Event} {start : Context}
    (ordered : figure.WellOrdered) (reacts : figure.mode = .reactive)
    (prepared : prepare? (figure.perform event).1.context event = some start)
    : Settled (figure.perform event).1.plan.records start := by
  have kept := userVariables_congr (perform_map_recipe figure event)
  cases first : prepare? figure.context event with
  | none =>
      rw [perform_of_inert fun _ => first, first] at prepared
      cases prepared
  | some ctx =>
      obtain ⟨records, behind, result, completes, -, settled, names⟩ := perform_eq reacts first
      obtain ⟨other, again, frame, values, -⟩ :=
        prepare?_again first (records.filterMap Record.binding?)
      rw [result] at prepared kept ⊢
      rw [← completes, prepared] at again
      obtain rfl := Option.some.inj again
      have agree : ctx.AgreeOn
          (fun name => name ∉ (figure.plan.records.filterMap Record.userVariable?).map (·.name)
            ∨ name ∈ ([] : List Command.UserVariable).map (·.name)) start := by
        refine ⟨(congrArg (·.lowerLeft) frame).symm, (congrArg (·.upperRight) frame).symm,
          (congrArg (·.pointer) frame).symm, fun name known => (values name ?_).symm⟩
        rw [names]
        simpa using known
      obtain ⟨same, -⟩ := variablePass_congr ordered [] kept.symm agree
      rw [settled_iff] at settled ⊢
      rw [← same, settled]

/-- After any history, an event performed a second time gives the same redraw and leaves the
figure as it is exactly if the user variables are settled where the second pass begins. If they
read each other in the order of their declaration, they are.
-/
theorem perform_twice (figure : Figure) (history : List Event) (event : Event)
    : let before := figure.performAll history
      let once := before.perform event
      (once.1.perform event = once
        ↔ (before.mode = .reactive → ∀ start,
            prepare? once.1.context event = some start → Settled once.1.plan.records start))
      ∧ (figure.WellOrdered → once.1.perform event = once) := by
  intro before once
  refine ⟨perform_again_iff, fun ordered => perform_again_iff.mpr ?_⟩
  have kept : before.WellOrdered := by
    unfold WellOrdered
    rw [userVariables_congr (performAll_map_recipe figure history)]
    exact ordered
  exact fun reacts start prepared => settled_of_wellOrdered kept reacts prepared

/-- A user variable that reads one declared behind it lags: it takes over the new value of the
other one only as the same event comes again.
-/
theorem perform_twice_differs_out_of_order
    : ∃ (s : Text) (segments : List Segment) (figure : Figure) (event : Event),
        s = ("\\begin\x7bpspicture\x7d(4,4)\\uservariable\x7ba\x7d(1,1)\x7bb\x7d\n"
          ++ "\\uservariable\x7bb\x7d(1,1)\x7bx\x7d").toList
        ∧ event = .pointerMove ⟨100, 50⟩
        ∧ Document.parse {} s = .ok segments
        ∧ figure ∈ segments.filterMap (·.figure)
        ∧ ((figure.perform event).1.perform event).2 ≠ (figure.perform event).2 := by
  let s : Text :=
    ("\\begin\x7bpspicture\x7d(4,4)\\uservariable\x7ba\x7d(1,1)\x7bb\x7d\n"
      ++ "\\uservariable\x7bb\x7d(1,1)\x7bx\x7d").toList
  let event : Event := .pointerMove ⟨100, 50⟩
  have run : ((Document.parse {} s).toOption.any fun segments =>
      (segments.filterMap (·.figure)).any fun figure =>
        decide (((figure.perform event).1.perform event).2 ≠ (figure.perform event).2))
      = true := by
    decide +kernel
  obtain ⟨segments, parsed, drawn⟩ := (Option.any_eq_true _ _).mp run
  obtain ⟨figure, member, differs⟩ := List.any_eq_true.mp drawn
  refine ⟨s, segments, figure, event, rfl, rfl, ?_, member, of_decide_eq_true differs⟩
  cases result : Document.parse {} s with
  | ok all =>
      rw [result] at parsed
      exact congrArg Except.ok (Option.some.inj parsed)
  | error e =>
      rw [result] at parsed
      cases parsed

end Figure

end LatexFigures
