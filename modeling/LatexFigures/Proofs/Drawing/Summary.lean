import LatexFigures.Proofs.Drawing.Erasure
import LatexFigures.Proofs.Drawing.SharedLines
import LatexFigures.Proofs.Drawing.UserVariables

/-! A figure's context and its records. Interpretation builds records one after another, each in the
context that those before it leave; so what the last one leaves is told by the records alone:
variables, sliders, axes and settings, and nothing else of the context has changed.
-/

namespace LatexFigures

-----------------------------------------------------------------------------------------
-- Runs of records
-----------------------------------------------------------------------------------------

namespace Plan

/-- The records are built in order, from the first context to the last one, each in the context that
the ones before it leave.
-/
inductive Built : Context → List Record → Context → Prop
  | nil (ctx) : Built ctx [] ctx
  | cons {ctx records after} (source command)
      (rest : Built (Record.ofCommand source command ctx).2 records after)
    : Built ctx ((Record.ofCommand source command ctx).1 :: records) after

theorem Built.append {ctx between after : Context} {records more : List Record}
    (first : Built ctx records between) (second : Built between more after)
    : Built ctx (records ++ more) after := by
  induction first with
  | nil => exact second
  | cons source command rest ih => exact .cons source command (ih second)

theorem built_interpretKinds (line : Text) (kinds : List CommandKind) (ctx : Context)
    : Built ctx (interpretKinds line kinds ctx).1 (interpretKinds line kinds ctx).2 := by
  induction kinds generalizing ctx with
  | nil => exact .nil ctx
  | cons kind kinds ih =>
      unfold interpretKinds
      cases Command.find? kind line with
      | none => exact ih ctx
      | some found => exact .cons found.source found.command (ih _)

theorem built_interpretLines (lines : List Text) (ctx : Context)
    : Built ctx (interpretLines lines ctx).1 (interpretLines lines ctx).2 := by
  induction lines generalizing ctx with
  | nil => exact .nil ctx
  | cons line lines ih => exact (built_interpretKinds line CommandKind.all ctx).append (ih _)

-----------------------------------------------------------------------------------------
-- What records leave
-----------------------------------------------------------------------------------------

/-- What one record leaves: it sets its variable, adds its slider, replaces the axes and makes its
declaration, as far as it has these.
-/
theorem ofCommand_snd (source : Text) (command : Command) (ctx : Context)
    : let drawn := (Record.ofCommand source command ctx).1.geometry
      (Record.ofCommand source command ctx).2
        = { ctx with
            settings := ctx.settings.declareAll [command]
            bindings := drawn.bound?.toList.foldl (fun all b => all.insert b.1 b.2) ctx.bindings
            sliders := ctx.sliders ++ drawn.slider?.toList
            axes := drawn.axes?.or ctx.axes } := by
  intro drawn
  have declared : (Record.ofCommand source command ctx).2
      = { ctx.absorb drawn with settings := ctx.settings.declareAll [command] } := by
    rw [← command.build_settings ctx]
    rfl
  rw [declared, ctx.absorb_with_settings]
  cases drawn.bound? <;> rfl

theorem filterMap_cons_toList {α : Type} (f : Record → Option α) (r : Record)
    (records : List Record)
    : (r :: records).filterMap f = (f r).toList ++ records.filterMap f := by
  rw [List.filterMap_cons]
  cases f r <;> rfl

/-- What a run of records leaves, by induction on the run. -/
theorem Built.after_eq {ctx after : Context} {records : List Record}
    (built : Built ctx records after)
    : after
      = { ctx with
          settings := ctx.settings.declareAll (records.map (·.command))
          bindings :=
            (records.filterMap (·.geometry.bound?)).foldl (fun all b => all.insert b.1 b.2)
              ctx.bindings
          sliders := ctx.sliders ++ records.filterMap (·.geometry.slider?)
          axes := (records.filterMap (·.geometry.axes?)).getLast?.or ctx.axes } := by
  induction built with
  | nil ctx =>
      simp only [List.filterMap_nil, List.append_nil]
      rfl
  | @cons ctx records after source command rest ih =>
      have last {α : Type} (one : Option α) : one.toList.getLast? = one := by
        cases one <;> rfl
      rw [ih, ofCommand_snd, filterMap_cons_toList, filterMap_cons_toList, filterMap_cons_toList,
        List.foldl_append, List.append_assoc, List.getLast?_append, last, Option.or_assoc,
        List.map_cons, ctx.settings.declareAll_cons _ (records.map (·.command))]
      rfl

end Plan

-----------------------------------------------------------------------------------------
-- What records show
-----------------------------------------------------------------------------------------

namespace Record

/-- The record shows what its command draws in some context. -/
def Drawn (r : Record) : Prop := ∃ ctx, r.geometry = r.command.geometry ctx

variable {r : Record}

/-- User variables and sliders bind the variable of their own name, and nothing else binds one. -/
theorem Drawn.ownName (drawn : r.Drawn) : r.geometry.bound?.map Prod.fst = r.command.ownName? := by
  obtain ⟨ctx, shown⟩ := drawn
  rw [shown]
  cases r.command <;> rfl

theorem Drawn.slider? (drawn : r.Drawn)
    : r.geometry.slider?.map .slider = (Option.guard (·.kind = .slider) r).map geometry := by
  obtain ⟨ctx, shown⟩ := drawn
  rw [Option.guard, kind, Option.map_if, shown]
  cases r.command <;> rfl

theorem Drawn.axes (drawn : r.Drawn) (same : r.kind = .axes)
    : ∃ shape, r.geometry = .axes shape := by
  obtain ⟨ctx, shown⟩ := drawn
  rw [kind] at same
  rw [shown]
  cases command : r.command with
  | axes c => exact ⟨_, rfl⟩
  | _ => simp [command, Command.kind] at same

theorem Drawn.axes?_eq_none (drawn : r.Drawn) (other : r.kind ≠ .axes)
    : r.geometry.axes? = none := by
  obtain ⟨ctx, shown⟩ := drawn
  rw [kind] at other
  rw [shown]
  cases command : r.command with
  | axes c => exact absurd (congrArg Command.kind command) other
  | _ => rfl

theorem kind_of_ownName? {name : String} (own : r.command.ownName? = some name)
    : r.kind = .userVariable ∨ r.kind = .slider := by
  rw [kind]
  cases command : r.command with
  | userVariable => exact .inl rfl
  | slider => exact .inr rfl
  | _ => simp [command, Command.ownName?] at own

theorem settingsBody?_eq (r : Record)
    : r.command.settingsBody?
      = if r.kind = .settings then r.command.settingsBody? else none := by
  rw [kind]
  cases r.command <;> rfl

end Record

namespace Plan

theorem Built.drawn {ctx after : Context} {records : List Record} (built : Built ctx records after)
    : ∀ r ∈ records, r.Drawn := by
  induction built with
  | nil => simp
  | @cons ctx records after source command rest ih =>
      exact List.forall_mem_cons.mpr ⟨⟨ctx, rfl⟩, ih⟩

section

variable {records : List Record} (drawn : ∀ r ∈ records, r.Drawn) (name : String)
include drawn

theorem map_slider_filterMap
    : (records.filterMap (·.geometry.slider?)).map .slider
      = (records.filter (·.kind = .slider)).map Record.geometry := by
  rw [← List.filterMap_eq_filter, List.map_filterMap, List.map_filterMap]
  exact List.filterMap_congr fun r inside => (drawn r inside).slider?

/-- The last axes are those of the last record of axes, by induction on the records before it. -/
theorem getLast?_filterMap_axes?
    : match (records.filter (·.kind = .axes)).getLast? with
      | none => (records.filterMap (·.geometry.axes?)).getLast? = none
      | some r =>
          ∃ shape, r.geometry = .axes shape
            ∧ (records.filterMap (·.geometry.axes?)).getLast?
              = some ⟨shape.dx, shape.dy, shape.origin⟩ := by
  induction records using List.reverseRecOn with
  | nil => rfl
  | append_singleton records r ih =>
      have own := drawn r (by simp)
      by_cases same : r.kind = .axes
      · obtain ⟨shape, shown⟩ := own.axes same
        rw [List.filter_append, List.filterMap_append]
        simp [same, shown, Geometry.axes?]
      · have others := ih fun other inside => drawn other (List.mem_append_left _ inside)
        rw [List.filter_append, List.filterMap_append]
        simpa [same, own.axes?_eq_none same] using others

/-- No value is found for the names of no record. -/
theorem lookup_bound?_eq_none_iff
    : (records.filterMap (·.geometry.bound?)).reverse.lookup name = none
      ↔ ∀ r ∈ records, r.command.ownName? ≠ some name := by
  rw [List.lookup_eq_none_iff]
  constructor
  · intro unbound r inside own
    obtain ⟨⟨key, value⟩, bound, same⟩ := Option.map_eq_some_iff.mp
      ((drawn r inside).ownName.trans own)
    have found : (key, value) ∈ records.filterMap (·.geometry.bound?) :=
      List.mem_filterMap.mpr ⟨r, inside, bound⟩
    exact bne_iff_ne.mp (unbound _ (List.mem_reverse.mpr found)) same.symm
  · intro others entry inside
    obtain ⟨r, inside, bound⟩ := List.mem_filterMap.mp (List.mem_reverse.mp inside)
    refine bne_iff_ne.mpr fun same => others r inside ?_
    rw [← (drawn r inside).ownName, bound, Option.map_some, same]

/-- The value that is found is that of the last record that binds the name, by induction on the
records.
-/
theorem lookup_bound?_eq_some_iff (value : Float)
    : (records.filterMap (·.geometry.bound?)).reverse.lookup name = some value
      ↔ ∃ before r behind, records = before ++ r :: behind
        ∧ r.geometry.bound? = some (name, value)
        ∧ ∀ later ∈ behind, later.command.ownName? ≠ some name := by
  induction records with
  | nil => simp
  | cons r records ih =>
      obtain ⟨-, drawn⟩ := List.forall_mem_cons.mp drawn
      have own : r.geometry.bound?.toList.reverse.lookup name = some value
          ↔ r.geometry.bound? = some (name, value) := by
        rcases r.geometry.bound? with - | ⟨key, shown⟩
        · simp
        · by_cases same : name = key
          · simp [same]
          · simp [List.lookup_cons, beq_false_of_ne same, Ne.symm same]
      rw [filterMap_cons_toList, List.reverse_append, List.lookup_append, Option.or_eq_some_iff,
        ih drawn, lookup_bound?_eq_none_iff drawn, own]
      constructor
      · rintro (⟨before, last, behind, rfl, bound, others⟩ | ⟨others, bound⟩)
        · exact ⟨r :: before, last, behind, rfl, bound, others⟩
        · exact ⟨[], r, records, rfl, bound, others⟩
      · rintro ⟨before, last, behind, same, bound, others⟩
        cases before with
        | nil =>
            cases same
            exact .inr ⟨others, bound⟩
        | cons first before =>
            cases same
            exact .inl ⟨before, last, behind, rfl, bound, others⟩

end

/-- Only the records of user variables and of sliders have variables of their own. -/
theorem exists_ownName?_iff (plan : Plan) (name : String)
    : (∃ r ∈ plan.records, r.command.ownName? = some name)
      ↔ ∃ r ∈ plan.ofKind .userVariable ++ plan.ofKind .slider,
          r.command.ownName? = some name := by
  constructor
  · rintro ⟨r, inside, own⟩
    have kind := Record.kind_of_ownName? own
    exact ⟨r, by simp [ofKind, inside, kind], own⟩
  · rintro ⟨r, inside, own⟩
    simp only [ofKind, List.mem_append, List.mem_filter] at inside
    exact ⟨r, inside.elim And.left And.left, own⟩

/-- Only the records of declarations declare settings. -/
theorem declareAll_commands (plan : Plan) (settings : Settings)
    : settings.declareAll (plan.records.map (·.command))
      = ((plan.ofKind .settings).filterMap (·.command.settingsBody?)).foldl
          Settings.declare settings := by
  rw [Settings.declareAll, List.filterMap_map, ofKind, List.filterMap_filter]
  simp only [decide_eq_true_eq, ← Record.settingsBody?_eq]
  rfl

/-- The commands of each line, in the order of kinds. -/
theorem recordsByLine_commands (lines : List Text) (ctx : Context)
    : (recordsByLine lines ctx).map (·.map (·.command))
      = lines.map fun line =>
          CommandKind.all.filterMap fun kind => (Command.find? kind line).map (·.command) := by
  induction lines generalizing ctx with
  | nil => rfl
  | cons line lines ih =>
      have recipes := congrArg (List.map (·.2.1))
        (interpretKinds_recipes line
          (by decide : CommandKind.settings ∉ CommandKind.all.dropLast) ctx)
      rw [List.map_map, List.map_filterMap] at recipes
      simp only [Option.map_map] at recipes
      exact congrArg₂ List.cons recipes (ih _)

/-- The context of a figure that was just interpreted sums up its records, which stand line by line
and in the order of kinds, so that in a line a user variable precedes a slider. Its sliders are
those of the slider records, its axes the last that are drawn, its variables those of user variables
and sliders, each with the value that the last record to bind it shows, and its settings the opening
ones with all declarations. All else is as it was when the figure opened, and there is no pointer.
-/
theorem interpret_sums_up_records (lines : List Text) (lowerLeft upperRight : Point Float)
    (settings : Settings)
    : let opened := Context.initial lowerLeft upperRight settings
      let plan := (interpret lines opened).1
      let after := (interpret lines opened).2
      (∃ byLine : List (List Record),
          plan.records = byLine.flatten
          ∧ byLine.map (·.map (·.command))
            = lines.map fun line =>
                CommandKind.all.filterMap fun kind => (Command.find? kind line).map (·.command))
        ∧ after.sliders.map Geometry.slider = (plan.ofKind .slider).map (·.geometry)
        ∧ (match (plan.ofKind .axes).getLast? with
          | none => after.axes = none
          | some record =>
              ∃ shape, record.geometry = .axes shape
                ∧ after.axes = some ⟨shape.dx, shape.dy, shape.origin⟩)
        ∧ (∀ name,
            name ∈ after.bindings
            ↔ ∃ record ∈ plan.ofKind .userVariable ++ plan.ofKind .slider,
                record.command.ownName? = some name)
        ∧ (∀ name value,
            after.bindings[name]? = some value
            ↔ ∃ before record behind, plan.records = before ++ record :: behind
                ∧ record.geometry.bound? = some (name, value)
                ∧ ∀ later ∈ behind, later.command.ownName? ≠ some name)
        ∧ after.settings
          = ((plan.ofKind .settings).filterMap (·.command.settingsBody?)).foldl
              Settings.declare settings
        ∧ after.pointer = none
        ∧ after
          = { opened with
              settings := after.settings
              bindings := after.bindings
              sliders := after.sliders
              axes := after.axes } := by
  intro opened plan after
  have built : Built opened plan.records after := built_interpretLines lines opened
  have drawn := built.drawn
  have sum := built.after_eq
  have sliders : after.sliders = plan.records.filterMap (·.geometry.slider?) := by
    rw [sum]
    exact List.nil_append _
  have axes : after.axes = (plan.records.filterMap (·.geometry.axes?)).getLast? := by
    rw [sum]
    exact Option.or_none
  have bound (name : String)
      : after.bindings[name]?
        = (plan.records.filterMap (·.geometry.bound?)).reverse.lookup name := by
    have all := opened.bindAll_getElem? (plan.records.filterMap (·.geometry.bound?)) name
    rw [Context.bindAll_eq] at all
    rw [sum]
    exact all.trans Option.or_none
  refine ⟨⟨recordsByLine lines opened, interpretLines_fst lines opened,
    recordsByLine_commands lines opened⟩, ?_, ?_, fun name => ?_, fun name value => ?_, ?_, ?_, ?_⟩
  · rw [sliders]
    exact map_slider_filterMap drawn
  · rw [axes]
    exact getLast?_filterMap_axes? drawn
  · rw [Std.ExtTreeMap.mem_iff_isSome_getElem?, bound, ← Option.ne_none_iff_isSome, Ne,
      lookup_bound?_eq_none_iff drawn, ← exists_ownName?_iff]
    simp
  · rw [bound]
    exact lookup_bound?_eq_some_iff drawn name value
  · rw [sum]
    exact declareAll_commands plan settings
  · rw [sum]
    rfl
  · rw [sum]

end Plan

end LatexFigures
