import LatexFigures.Drawing.Figure

/-! What building records again does, kind by kind. User variables give their variables new
values and change nothing else; plots and user lines change nothing but themselves.
-/

namespace LatexFigures

namespace Record

@[simp]
theorem rebuild_kind (r : Record) (ctx : Context) : (r.rebuild ctx).1.kind = r.kind := rfl

/-- What a record is built from: all of it but its geometry. -/
def recipe (r : Record) : Text × Command × Settings := (r.source, r.command, r.settings)

@[simp]
theorem rebuild_recipe (r : Record) (ctx : Context) : (r.rebuild ctx).1.recipe = r.recipe := rfl

theorem rebuild_rebuild (r : Record) (ctx other : Context)
    : (r.rebuild ctx).1.rebuild other = r.rebuild other := rfl

/-- Nothing is declared by building a plot or a user line again. -/
theorem rebuild_snd_of_kind {r : Record} (ctx : Context)
    (kind : r.kind = .plot ∨ r.kind = .userLine)
    : (r.rebuild ctx).2 = ctx := by
  cases r with
  | mk source command settings geometry =>
      cases command with
      | plot | userLine => rfl
      | _ => simp [Record.kind, Command.kind] at kind

/-- The variable that a record of a user variable binds, with the value that it shows. -/
def binding? (r : Record) : Option (String × Float) :=
  match r.command, r.geometry with
  | .userVariable _, .binding b => some (b.name, b.value)
  | _, _ => none

theorem binding?_of_kind {r : Record} (other : r.kind ≠ .userVariable) : r.binding? = none := by
  cases r with
  | mk source command settings geometry =>
      cases command with
      | userVariable => exact absurd rfl other
      | _ => rfl

end Record

/-- Gives variables values, one after another. -/
def Context.bindAll (ctx : Context) (bindings : List (String × Float)) : Context :=
  bindings.foldl (fun ctx binding => ctx.bind binding.1 binding.2) ctx

theorem Context.bindAll_eq (ctx : Context) (bindings : List (String × Float))
    : ctx.bindAll bindings
      = { ctx with bindings := bindings.foldl (fun all b => all.insert b.1 b.2) ctx.bindings } := by
  induction bindings generalizing ctx with
  | nil => rfl
  | cons binding bindings ih => exact ih (ctx.bind binding.1 binding.2)

/-- A user variable that is built again binds the value that it then shows. -/
theorem Record.rebuild_snd_of_userVariable {r : Record} (ctx : Context)
    (kind : r.kind = .userVariable)
    : (r.rebuild ctx).2 = ctx.bindAll (r.rebuild ctx).1.binding?.toList := by
  cases r with
  | mk source command settings geometry =>
      cases command with
      | userVariable => rfl
      | _ => simp [Record.kind, Command.kind] at kind

namespace Figure

-----------------------------------------------------------------------------------------
-- One kind after another
-----------------------------------------------------------------------------------------

theorem rebuildKind_map_recipe (kind : CommandKind) (records : List Record) (ctx : Context)
    : (rebuildKind kind records ctx).1.map Record.recipe = records.map Record.recipe := by
  induction records generalizing ctx with
  | nil => rfl
  | cons r records ih =>
      unfold rebuildKind
      split <;> simp [ih]

theorem rebuildKind_redrawn (kind : CommandKind) (records : List Record) (ctx : Context)
    : (rebuildKind kind records ctx).2.1
      = (rebuildKind kind records ctx).1.filter (·.kind = kind) := by
  induction records generalizing ctx with
  | nil => rfl
  | cons r records ih =>
      unfold rebuildKind
      split
      · rename_i same
        simp [ih, same]
      · rename_i other
        simp [ih, other]

/-- A record of the kind as it is built again in a context; others stay as they are. -/
def refreshOnly (kind : CommandKind) (ctx : Context) (r : Record) : Record :=
  if r.kind = kind then (r.rebuild ctx).1 else r

@[simp]
theorem refreshOnly_kind (kind : CommandKind) (ctx : Context) (r : Record)
    : (refreshOnly kind ctx r).kind = r.kind := by
  unfold refreshOnly
  split <;> rfl

theorem filter_map_refreshOnly {kind other : CommandKind} (differs : other ≠ kind)
    (ctx : Context) (records : List Record)
    : (records.map (refreshOnly kind ctx)).filter (·.kind = other)
      = records.filter (·.kind = other) := by
  induction records with
  | nil => rfl
  | cons r records ih =>
      by_cases same : r.kind = other
      · have stays : refreshOnly kind ctx r = r := if_neg fun here => differs (same.symm.trans here)
        simp [same, stays, ih]
      · simp [same, ih]

/-- Records that declare nothing are built again each by itself. -/
theorem rebuildKind_eq_map {kind : CommandKind}
    (declaresNothing : ∀ (r : Record) ctx, r.kind = kind → (r.rebuild ctx).2 = ctx)
    (records : List Record) (ctx : Context)
    : rebuildKind kind records ctx
      = (records.map (refreshOnly kind ctx),
          (records.map (refreshOnly kind ctx)).filter (·.kind = kind), ctx) := by
  induction records with
  | nil => rfl
  | cons r records ih =>
      unfold rebuildKind
      split
      · rename_i same
        simp [declaresNothing r ctx same, same, ih, refreshOnly]
      · rename_i other
        simp [other, ih, refreshOnly]

/-- User variables that are built again bind the values that they then show. -/
theorem rebuildKind_bindAll (records : List Record) (ctx : Context)
    : (rebuildKind .userVariable records ctx).2.2
      = ctx.bindAll ((rebuildKind .userVariable records ctx).1.filterMap Record.binding?) := by
  induction records generalizing ctx with
  | nil => rfl
  | cons r records ih =>
      unfold rebuildKind
      split
      · rename_i same
        have bound := Record.rebuild_snd_of_userVariable ctx same
        simp only [ih]
        rw [bound, List.filterMap_cons]
        cases (r.rebuild ctx).1.binding? <;> rfl
      · rename_i other
        simpa [List.filterMap_cons, Record.binding?_of_kind other] using ih ctx

-----------------------------------------------------------------------------------------
-- All dependent records
-----------------------------------------------------------------------------------------

/-- The record as it follows a context: plots and user lines are built again in it. -/
def refresh (ctx : Context) (r : Record) : Record :=
  refreshOnly .userLine ctx (refreshOnly .plot ctx r)

@[simp]
theorem refresh_kind (ctx : Context) (r : Record) : (refresh ctx r).kind = r.kind := by
  simp [refresh]

@[simp]
theorem refresh_recipe (ctx : Context) (r : Record) : (refresh ctx r).recipe = r.recipe := by
  unfold refresh refreshOnly
  split <;> split <;> rfl

theorem refresh_of_follows {r : Record} (ctx : Context)
    (follows : r.kind = .plot ∨ r.kind = .userLine)
    : refresh ctx r = (r.rebuild ctx).1 := by
  rcases follows with plot | line
  · simp [refresh, refreshOnly, plot]
  · simp [refresh, refreshOnly, line]

theorem refresh_of_other {r : Record} (ctx : Context)
    (other : ¬ (r.kind = .plot ∨ r.kind = .userLine))
    : refresh ctx r = r := by
  rw [not_or] at other
  simp [refresh, refreshOnly, other]

theorem refresh_refresh (ctx : Context) (r : Record)
    : refresh ctx (refresh ctx r) = refresh ctx r := by
  by_cases follows : r.kind = .plot ∨ r.kind = .userLine
  · rw [refresh_of_follows ctx (by simpa using follows), refresh_of_follows ctx follows,
      Record.rebuild_rebuild]
  · rw [refresh_of_other ctx follows, refresh_of_other ctx follows]

/-- The records to redraw: all dependent ones, kind by kind. -/
def dependents (records : List Record) : List Record :=
  recomputeOrder.flatMap fun kind => records.filter (·.kind = kind)

/-- The records and the context that building the user variables again leaves. -/
def variablePass (records : List Record) (ctx : Context) : List Record × Context :=
  let pass := rebuildKind .userVariable records ctx
  (pass.1, pass.2.2)

/-- Recomputation builds the user variables again; then all else follows the context that they
leave, and exactly the dependent records are redrawn, as they then are.
-/
theorem recompute_eq (figure : Figure)
    : let pass := variablePass figure.plan.records figure.context
      figure.recompute
        = (⟨pass.2, ⟨pass.1.map (refresh pass.2)⟩⟩,
            dependents (pass.1.map (refresh pass.2))) := by
  intro pass
  have first : rebuildKind .userVariable figure.plan.records figure.context
      = (pass.1, pass.1.filter (·.kind = .userVariable), pass.2) :=
    Prod.ext rfl (Prod.ext (rebuildKind_redrawn _ _ _) rfl)
  have plots := rebuildKind_eq_map fun (r : Record) ctx (kind : r.kind = .plot) =>
    r.rebuild_snd_of_kind ctx (.inl kind)
  have lines := rebuildKind_eq_map fun (r : Record) ctx (kind : r.kind = .userLine) =>
    r.rebuild_snd_of_kind ctx (.inr kind)
  have all : pass.1.map (refresh pass.2)
      = (pass.1.map (refreshOnly .plot pass.2)).map (refreshOnly .userLine pass.2) := by
    rw [List.map_map]
    rfl
  have untouched {kind : CommandKind} (notLine : kind ≠ .userLine)
      : (pass.1.map (refresh pass.2)).filter (·.kind = kind)
        = (pass.1.map (refreshOnly .plot pass.2)).filter (·.kind = kind) := by
    rw [all, filter_map_refreshOnly notLine]
  simp only [recompute, recomputeOrder, rebuildKinds, first, plots, lines, dependents,
    List.flatMap_cons, List.flatMap_nil, List.append_nil, ← all,
    untouched (by decide : CommandKind.plot ≠ .userLine),
    untouched (by decide : CommandKind.userVariable ≠ .userLine),
    filter_map_refreshOnly (by decide : CommandKind.userVariable ≠ .plot)]

-----------------------------------------------------------------------------------------
-- Events
-----------------------------------------------------------------------------------------

/-- A figure that reacts to an event recomputes its records in the context that it prepares. -/
theorem perform_of_prepared {figure : Figure} {event : Event} {ctx : Context}
    (reacts : figure.mode = .reactive) (prepared : prepare? figure.context event = some ctx)
    : figure.perform event = recompute { figure with context := ctx } := by
  simp only [perform, reacts, prepared]

/-- An event to which nothing reacts changes nothing. -/
theorem perform_of_inert {figure : Figure} {event : Event}
    (inert : figure.mode = .reactive → prepare? figure.context event = none)
    : figure.perform event = (figure, []) := by
  unfold perform
  split
  · rfl
  · rename_i reacts
    rw [inert reacts]

theorem recompute_map_recipe (figure : Figure)
    : figure.recompute.1.plan.records.map Record.recipe
      = figure.plan.records.map Record.recipe := by
  rw [recompute_eq, List.map_map]
  simpa [Function.comp_def, variablePass]
    using rebuildKind_map_recipe .userVariable figure.plan.records figure.context

theorem perform_map_recipe (figure : Figure) (event : Event)
    : (figure.perform event).1.plan.records.map Record.recipe
      = figure.plan.records.map Record.recipe := by
  unfold perform
  split
  · rfl
  · split
    · rename_i ctx _
      exact recompute_map_recipe { figure with context := ctx }
    · rfl

theorem performAll_map_recipe (figure : Figure) (events : List Event)
    : (figure.performAll events).plan.records.map Record.recipe
      = figure.plan.records.map Record.recipe := by
  induction events generalizing figure with
  | nil => rfl
  | cons event events ih =>
      rw [performAll, List.foldl_cons, ← performAll, ih, perform_map_recipe]

/-- Whether a figure reacts depends on the recipes of its records alone. -/
theorem mode_congr {figure other : Figure}
    (recipes
      : figure.plan.records.map Record.recipe = other.plan.records.map Record.recipe)
    : figure.mode = other.mode := by
  have any (f : Figure)
      : f.plan.records.any (reactiveKinds.contains ·.kind)
        = (f.plan.records.map Record.recipe).any (reactiveKinds.contains ·.2.1.kind) := by
    rw [List.any_map]
    rfl
  simp only [mode, any, recipes]

end Figure

end LatexFigures
