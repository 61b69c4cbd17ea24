import LatexFigures.Drawing.Plan

/-! Interactive figures. An event changes a variable, a slider or the pointer, and then the
records that depend on them are built again: user variables first, since the others read them.
-/

namespace LatexFigures

/-- Whether a figure reacts to events at all. -/
inductive Mode
  | static | reactive
deriving Repr, DecidableEq

/-- An interpreted figure. -/
structure Figure where
  context : Context
  plan : Plan

/-- What an event does to a figure. -/
inductive Event
  | setVariable (name : String) (value : Float)
  /-- Raw input of the slider (index). -/
  | sliderInput (index : Nat) (raw : Float)
  /-- A position in output units. -/
  | pointerMove (position : Point Float)
deriving Repr, DecidableEq

namespace Figure

/-- Interprets the content lines of a figure in the context in which it opens. -/
def ofLines (lines : List Text) (ctx : Context) : Figure :=
  let (plan, context) := Plan.interpret lines ctx
  { context, plan }

/-- The kinds that make a figure react. -/
def reactiveKinds : List CommandKind := [.slider, .userVariable, .userLine]

/-- A figure reacts if it has a record that an event can reach. -/
def mode (figure : Figure) : Mode :=
  if figure.plan.records.any (reactiveKinds.contains ·.kind) then .reactive else .static

/-- The kinds that are built again, in this order. -/
def recomputeOrder : List CommandKind := [.userVariable, .plot, .userLine]

/-- Builds the records of one kind again, each in the context that the ones before it leave.
Gives all records, those built again, and the context behind them.
-/
def rebuildKind (kind : CommandKind) : List Record → Context
    → List Record × List Record × Context
  | [], ctx => ([], [], ctx)
  | record :: records, ctx =>
      if record.kind = kind then
        let (rebuilt, ctx) := record.rebuild ctx
        let (all, redrawn, ctx) := rebuildKind kind records ctx
        (rebuilt :: all, rebuilt :: redrawn, ctx)
      else
        let (all, redrawn, ctx) := rebuildKind kind records ctx
        (record :: all, redrawn, ctx)

/-- Builds the records of several kinds again, one kind after the other. -/
def rebuildKinds : List CommandKind → List Record → Context
    → List Record × List Record × Context
  | [], records, ctx => (records, [], ctx)
  | kind :: kinds, records, ctx =>
      let (records, first, ctx) := rebuildKind kind records ctx
      let (records, more, ctx) := rebuildKinds kinds records ctx
      (records, first ++ more, ctx)

/-- Builds all dependent records again; gives the figure behind it and the records to redraw. -/
def recompute (figure : Figure) : Figure × List Record :=
  let (records, redrawn, context) :=
    rebuildKinds recomputeOrder figure.plan.records figure.context
  ({ context, plan := ⟨records⟩ }, redrawn)

/-- The context with what an event changes directly; none if the event addresses no slider. -/
def prepare? (ctx : Context) : Event → Option Context
  | .setVariable name value => some (ctx.bind name value)
  | .sliderInput index raw =>
      ctx.sliders[index]?.map fun slider =>
        let moved := { slider with value := raw / slider.scalar }
        { ctx.bind moved.variableName moved.value with sliders := ctx.sliders.set index moved }
  | .pointerMove position => some { ctx with pointer := some position }

/-- Performs an event; gives the figure behind it and the records to redraw. A static figure
stays as it is.
-/
def perform (figure : Figure) (event : Event) : Figure × List Record :=
  match figure.mode with
  | .static => (figure, [])
  | .reactive =>
      match prepare? figure.context event with
      | some context => recompute { figure with context }
      | none => (figure, [])

/-- Performs events one after another. -/
def performAll (figure : Figure) (events : List Event) : Figure :=
  events.foldl (fun figure event => (figure.perform event).1) figure

/-- Builds record (index) of one kind again in place; gives the figure behind it and the record,
if there is one.
-/
def rebuildAt (figure : Figure) (kind : CommandKind) (index : Nat) : Figure × Option Record :=
  match go index figure.plan.records with
  | some (before, record, behind) =>
      let (rebuilt, context) := record.rebuild figure.context
      ({ context, plan := ⟨before ++ rebuilt :: behind⟩ }, some rebuilt)
  | none => (figure, none)
where
  /-- Finds record (index) of the kind between those before and behind it. -/
  go : (index : Nat) → List Record → Option (List Record × Record × List Record)
    | _, [] => none
    | index, record :: records =>
        if record.kind = kind then
          match index with
          | 0 => some ([], record, records)
          | index + 1 =>
              (go index records).map fun (before, found) => (record :: before, found)
        else (go index records).map fun (before, found) => (record :: before, found)

end Figure

end LatexFigures
