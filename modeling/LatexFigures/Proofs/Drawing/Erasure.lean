import LatexFigures.Proofs.Drawing.Declarations
import LatexFigures.Proofs.Drawing.Rebuilding

/-! Lines that can be left out of a figure. A line without user variables, sliders and declarations
of settings leaves to the lines behind it nothing but its axes, at which no command looks; so
without it all other lines give the same records.
-/

namespace LatexFigures

/-- The kinds that change what the commands behind them look at. -/
def CommandKind.binding : List CommandKind := [.userVariable, .slider, .settings]

/-- The same context, perhaps with other axes. -/
def Context.SameButAxes (ctx other : Context) : Prop := other = { ctx with axes := other.axes }

-----------------------------------------------------------------------------------------
-- Axes are not looked at
-----------------------------------------------------------------------------------------

namespace Context.SameButAxes

variable {ctx other : Context}

theorem settings (same : ctx.SameButAxes other) : ctx.settings = other.settings :=
  (congrArg Context.settings same).symm

theorem looksLike (same : ctx.SameButAxes other) : ctx.LooksLike other where
  left := (congrArg (·.lowerLeft.x) same).symm
  top := (congrArg (·.upperRight.y) same).symm
  bindings := (congrArg (·.bindings) same).symm
  pointer := (congrArg (·.pointer) same).symm

theorem trans {last : Context} (same : ctx.SameButAxes other) (more : other.SameButAxes last)
    : ctx.SameButAxes last :=
  Eq.trans more (congrArg (fun ctx : Context => { ctx with axes := last.axes }) same)

theorem absorb (same : ctx.SameButAxes other) (g : Geometry)
    : (ctx.absorb g).SameButAxes (other.absorb g) := by
  rw [SameButAxes] at same
  generalize other.axes = axes at same
  subst same
  cases g <;> rfl

/-- A command becomes the same record, and changes both contexts alike. -/
theorem ofCommand (same : ctx.SameButAxes other) (source : Text) (command : Command)
    : (Record.ofCommand source command ctx).1 = (Record.ofCommand source command other).1
      ∧ (Record.ofCommand source command ctx).2.SameButAxes
          (Record.ofCommand source command other).2 := by
  have geometry := Command.geometry_congr same.looksLike same.settings command
  simp only [Record.ofCommand, Command.build, geometry, same.settings]
  exact ⟨trivial, same.absorb _⟩

/-- So do all commands of a line, by induction on the kinds that are tried. -/
theorem interpretKinds (same : ctx.SameButAxes other) (line : Text) (kinds : List CommandKind)
    : (Plan.interpretKinds line kinds ctx).1 = (Plan.interpretKinds line kinds other).1
      ∧ (Plan.interpretKinds line kinds ctx).2.SameButAxes
          (Plan.interpretKinds line kinds other).2 := by
  induction kinds generalizing ctx other with
  | nil => exact ⟨rfl, same⟩
  | cons kind kinds ih =>
      unfold Plan.interpretKinds
      cases Command.find? kind line with
      | none => exact ih same
      | some found =>
          obtain ⟨record, behind⟩ := same.ofCommand found.source found.command
          obtain ⟨records, last⟩ := ih behind
          exact ⟨by simp only [record, records], last⟩

end Context.SameButAxes

namespace Plan

/-- The records of some lines, line by line. -/
def recordsByLine : List Text → Context → List (List Record)
  | [], _ => []
  | line :: lines, ctx =>
      let (records, ctx) := interpretKinds line CommandKind.all ctx
      records :: recordsByLine lines ctx

theorem interpretLines_fst (lines : List Text) (ctx : Context)
    : (interpretLines lines ctx).1 = (recordsByLine lines ctx).flatten := by
  induction lines generalizing ctx with
  | nil => rfl
  | cons line lines ih => simp only [interpretLines, recordsByLine, ih, List.flatten_cons]

/-- The records of one line are those that it gives in the context behind the lines before it. -/
theorem recordsByLine_getElem? (lines : List Text) (ctx : Context) (i : Nat)
    : (recordsByLine lines ctx)[i]?
      = lines[i]?.map fun line =>
          (interpretKinds line CommandKind.all (interpretLines (lines.take i) ctx).2).1 := by
  induction lines generalizing ctx i with
  | nil => rfl
  | cons line lines ih =>
      cases i with
      | zero => rfl
      | succ i => exact ih _ i

/-- Figures that open in contexts with other axes give the same records, by induction on the lines.
-/
theorem interpretLines_congr {ctx other : Context} (same : ctx.SameButAxes other)
    (lines : List Text)
    : recordsByLine lines ctx = recordsByLine lines other
      ∧ (interpretLines lines ctx).2.SameButAxes (interpretLines lines other).2 := by
  induction lines generalizing ctx other with
  | nil => exact ⟨rfl, same⟩
  | cons line lines ih =>
      obtain ⟨records, behind⟩ := same.interpretKinds line CommandKind.all
      obtain ⟨more, last⟩ := ih behind
      exact ⟨by simp only [recordsByLine, records, more], last⟩

-----------------------------------------------------------------------------------------
-- Lines that bind nothing
-----------------------------------------------------------------------------------------

/-- No user variable, slider or declaration of settings stands on the line. -/
def BindsNothing (line : Text) : Prop :=
  ∀ kind ∈ CommandKind.binding, Command.find? kind line = none

instance (line : Text) : Decidable (BindsNothing line) :=
  inferInstanceAs (Decidable (∀ kind ∈ CommandKind.binding, Command.find? kind line = none))

/-- A command of another kind leaves the context as it was, but for its axes. -/
theorem sameButAxes_ofCommand {command : Command} (other : command.kind ∉ CommandKind.binding)
    (source : Text) (ctx : Context)
    : ctx.SameButAxes (Record.ofCommand source command ctx).2
      ∧ (command.kind ≠ .axes → (Record.ofCommand source command ctx).2 = ctx) := by
  cases command with
  | userVariable | slider | settings => simp [CommandKind.binding, Command.kind] at other
  | axes => exact ⟨rfl, fun differs => absurd rfl differs⟩
  | _ => exact ⟨rfl, fun _ => rfl⟩

/-- The records of a line that binds nothing are built each as if it stood there alone. The context
behind them is as before, but for the axes that may stand there. By induction on the kinds that are
tried.
-/
theorem interpretKinds_of_bindsNothing {line : Text} (nothing : BindsNothing line)
    (kinds : List CommandKind) (ctx : Context)
    : (interpretKinds line kinds ctx).1
        = kinds.filterMap (fun kind =>
            (Command.find? kind line).map fun found =>
              (Record.ofCommand found.source found.command ctx).1)
      ∧ ctx.SameButAxes (interpretKinds line kinds ctx).2
      ∧ (Command.find? .axes line = none → (interpretKinds line kinds ctx).2 = ctx) := by
  induction kinds with
  | nil => exact ⟨rfl, rfl, fun _ => rfl⟩
  | cons kind kinds ih =>
      unfold interpretKinds
      rw [List.filterMap_cons]
      cases here : Command.find? kind line with
      | none => exact ih
      | some found =>
          have ofKind : found.command.kind = kind := Command.kind_of_find? here
          have other : found.command.kind ∉ CommandKind.binding := fun binds => by
            simp [nothing kind (ofKind ▸ binds)] at here
          obtain ⟨same, stays⟩ := sameButAxes_ofCommand other found.source ctx
          obtain ⟨records, behind⟩ := same.interpretKinds line kinds
          obtain ⟨alone, kept, unchanged⟩ := ih
          refine ⟨?_, ?_, fun none => ?_⟩
          · simp only [← records, alone, Option.map_some]
          · exact kept.trans behind
          · have differs : found.command.kind ≠ .axes := fun axes => by
              rw [← ofKind, axes, none] at here
              cases here
            simp only [stays differs, unchanged none]

-----------------------------------------------------------------------------------------
-- Leaving a line out
-----------------------------------------------------------------------------------------

section

variable {lines : List Text} {i : Nat} (inside : i < lines.length)
  (nothing : BindsNothing lines[i]) (ctx : Context)
include nothing

/-- Without a line that binds nothing the other lines give what they gave with it, by induction on
the lines before it.
-/
theorem recordsByLine_eraseIdx
    : recordsByLine (lines.eraseIdx i) ctx = (recordsByLine lines ctx).eraseIdx i
      ∧ (interpretLines (lines.eraseIdx i) ctx).2.SameButAxes (interpretLines lines ctx).2
      ∧ (Command.find? .axes lines[i] = none
          → (interpretLines (lines.eraseIdx i) ctx).2 = (interpretLines lines ctx).2) := by
  induction lines generalizing i ctx with
  | nil => nomatch inside
  | cons line lines ih =>
      cases i with
      | zero =>
          have nothing : BindsNothing line := nothing
          obtain ⟨-, same, unchanged⟩ := interpretKinds_of_bindsNothing nothing CommandKind.all ctx
          obtain ⟨records, behind⟩ := interpretLines_congr same lines
          refine ⟨records, behind, fun none => ?_⟩
          exact congrArg (fun ctx => (interpretLines lines ctx).2) (unchanged none).symm
      | succ i =>
          obtain ⟨records, behind, unchanged⟩ := ih (Nat.lt_of_succ_lt_succ inside) nothing
            (interpretKinds line CommandKind.all ctx).2
          exact ⟨congrArg ((interpretKinds line CommandKind.all ctx).1 :: ·) records, behind,
            unchanged⟩

/-- A line without user variables, sliders and declarations of settings can be left out: what goes
is its own records, each of which is built as if it stood alone behind the lines before, whether
its arguments have values or not. All other records stay as they are, and so does the context
behind all lines but for its axes, which stay too if the line draws none.
-/
theorem interpret_eraseIdx
    : let whole := interpret lines ctx
      let less := interpret (lines.eraseIdx i) ctx
      let byLine := recordsByLine lines ctx
      let before := (interpret (lines.take i) ctx).2
      whole.1.records = byLine.flatten
      ∧ less.1.records = (byLine.eraseIdx i).flatten
      ∧ byLine[i]?
        = some
            (CommandKind.all.filterMap fun kind =>
              (Command.find? kind lines[i]).map fun found =>
                (Record.ofCommand found.source found.command before).1)
      ∧ less.2.SameButAxes whole.2
      ∧ (Command.find? .axes lines[i] = none → less.2 = whole.2) := by
  intro whole less byLine before
  obtain ⟨records, same, unchanged⟩ := recordsByLine_eraseIdx inside nothing ctx
  have alone := (interpretKinds_of_bindsNothing nothing CommandKind.all before).1
  refine ⟨interpretLines_fst lines ctx, ?_, ?_, same, unchanged⟩
  · exact (interpretLines_fst (lines.eraseIdx i) ctx).trans (congrArg List.flatten records)
  · have own := recordsByLine_getElem? lines ctx i
    rw [List.getElem?_eq_getElem inside, Option.map_some] at own
    exact own.trans (congrArg some alone)

end

/-- A line to a place without values and the axes beside it are left out between a slider and a
plot of its variable; the last axes are then those drawn before.
-/
theorem interpret_eraseIdx_of_failing_line
    : let lines : List Text :=
        ["\\slider\x7b0\x7d\x7b9\x7d\x7bk\x7d\x7bk\x7d\x7b2\x7d\\psaxes(1,1)".toList,
          "\\psline(nope,1/0)\\psaxes[Dx=k](k,2)".toList,
          "\\psset\x7bunit=2cm\x7d\\psplot\x7b0\x7d\x7b0.005\x7d\x7bk*x\x7d".toList]
      let ctx := Context.initial ⟨0, 0⟩ ⟨4, 4⟩ {}
      let byLine := recordsByLine lines ctx
      BindsNothing lines[1]
      ∧ byLine.map (·.map Record.kind)
        = [[.axes, .slider], [.axes, .line], [.plot, .settings]]
      ∧ (interpret lines ctx).1.records = byLine.flatten
      ∧ (interpret (lines.eraseIdx 1) ctx).1.records = (byLine.eraseIdx 1).flatten
      ∧ (interpret (lines.eraseIdx 1) ctx).2.SameButAxes (interpret lines ctx).2
      ∧ (interpret (lines.eraseIdx 1) ctx).2.axes ≠ (interpret lines ctx).2.axes := by
  intro lines ctx byLine
  have nothing : BindsNothing lines[1] := by decide +kernel
  obtain ⟨whole, less, -, same, -⟩ := interpret_eraseIdx (i := 1) (by decide) nothing ctx
  exact ⟨nothing, by decide +kernel, whole, less, same, by decide +kernel⟩

end Plan

end LatexFigures
