import LatexFigures.Drawing.Build
import LatexFigures.Drawing.Recognition

/-! The records of a figure: what was recognised in its lines, under which settings, and the
geometry it has at present.
-/

namespace LatexFigures

/-- A command of a figure with all that is needed to build it again. -/
structure Record where
  /-- The text of the command in its line. -/
  source : Text
  command : Command
  /-- The settings in force when the record was first built. -/
  settings : Settings
  geometry : Geometry
deriving DecidableEq

namespace Record

/-- The kind of the record's command. -/
def kind (record : Record) : CommandKind := record.command.kind

/-- Builds a recognised command, with the context behind it. -/
def ofCommand (source : Text) (command : Command) (ctx : Context) : Record × Context :=
  let (geometry, after) := command.build ctx
  ({ source, command, settings := ctx.settings, geometry }, after)

/-- Builds the record again under its own settings. The context behind it keeps those that were
in force, but takes over whatever else the command declares.
-/
def rebuild (record : Record) (ctx : Context) : Record × Context :=
  let (geometry, after) := record.command.build { ctx with settings := record.settings }
  ({ record with geometry }, { after with settings := ctx.settings })

end Record

/-- The records of a figure, line by line, and in the order of kinds within a line. -/
structure Plan where
  records : List Record := []
deriving DecidableEq

namespace Plan

/-- The records of one kind, in line order. -/
def ofKind (plan : Plan) (kind : CommandKind) : List Record :=
  plan.records.filter (·.kind = kind)

/-- The records of a line for these kinds, with the context behind it. -/
def interpretKinds (line : Text) : List CommandKind → Context → List Record × Context
  | [], ctx => ([], ctx)
  | kind :: kinds, ctx =>
      match Command.find? kind line with
      | some found =>
          let (record, ctx) := Record.ofCommand found.source found.command ctx
          let (records, ctx) := interpretKinds line kinds ctx
          (record :: records, ctx)
      | none => interpretKinds line kinds ctx

/-- The records of some lines, with the context behind them. -/
def interpretLines : List Text → Context → List Record × Context
  | [], ctx => ([], ctx)
  | line :: lines, ctx =>
      let (records, ctx) := interpretKinds line CommandKind.all ctx
      let (more, ctx) := interpretLines lines ctx
      (records ++ more, ctx)

/-- Interprets the content lines of a figure. -/
def interpret (lines : List Text) (ctx : Context) : Plan × Context :=
  let (records, ctx) := interpretLines lines ctx
  (⟨records⟩, ctx)

end Plan

end LatexFigures
