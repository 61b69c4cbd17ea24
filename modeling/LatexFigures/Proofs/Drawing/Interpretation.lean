import LatexFigures.Proofs.Drawing.Recognition
import LatexFigures.Proofs.Drawing.Recompute

/-! Commands that are written one on each line are interpreted as records of exactly these
commands, under the settings that the declarations on earlier lines leave.
-/

namespace LatexFigures

namespace Command

/-- The body of a declaration of settings. -/
def settingsBody? : Command → Option Text
  | .settings c => some c.body
  | _ => none

end Command

/-- Settings behind some commands, which make their declarations one after another. -/
def Settings.declareAll (settings : Settings) (commands : List Command) : Settings :=
  (commands.filterMap Command.settingsBody?).foldl declare settings

theorem Settings.declareAll_cons (settings : Settings) (command : Command)
    (commands : List Command)
    : settings.declareAll (command :: commands)
      = (settings.declareAll [command]).declareAll commands := by
  cases command <;> rfl

/-- Only declarations change settings. -/
theorem Command.build_settings (command : Command) (ctx : Context)
    : (command.build ctx).2.settings = ctx.settings.declareAll [command] := by
  cases command <;> rfl

namespace Plan

-----------------------------------------------------------------------------------------
-- Lines with one command
-----------------------------------------------------------------------------------------

/-- A line in which one kind is found gives one record, by induction on the kinds that are tried.
-/
theorem interpretKinds_of_find? {line : Text} {found : Command.Occurrence} {kind : CommandKind}
    (here : Command.find? kind line = some found)
    (others : ∀ other, other ≠ kind → Command.find? other line = none)
    {kinds : List CommandKind} (distinct : kinds.Nodup) (ctx : Context)
    : interpretKinds line kinds ctx
      = if kind ∈ kinds then
          ([(Record.ofCommand found.source found.command ctx).1],
            (Record.ofCommand found.source found.command ctx).2)
        else ([], ctx) := by
  induction kinds generalizing ctx with
  | nil => rfl
  | cons first kinds ih =>
      obtain ⟨once, distinct⟩ := List.nodup_cons.mp distinct
      by_cases same : first = kind
      · subst same
        rw [interpretKinds, here]
        simp only [ih distinct, if_neg once, if_pos List.mem_cons_self]
      · rw [interpretKinds, others first same]
        simp only [ih distinct, List.mem_cons, Ne.symm same, false_or]

theorem interpretKinds_of_none {line : Text} {kinds : List CommandKind}
    (nothing : ∀ kind ∈ kinds, Command.find? kind line = none) (ctx : Context)
    : interpretKinds line kinds ctx = ([], ctx) := by
  induction kinds with
  | nil => rfl
  | cons kind kinds ih =>
      rw [interpretKinds, nothing kind List.mem_cons_self]
      exact ih fun other inside => nothing other (List.mem_cons_of_mem _ inside)

theorem records_interpret_line (line : Text) (ctx : Context)
    : (interpret [line] ctx).1.records = (interpretKinds line CommandKind.all ctx).1 :=
  List.append_nil _

/-- A line with one macro and no other backslash makes the record that the groups behind the macro
give, if they give one.
-/
theorem interpret_named (kind : CommandKind) {s line : Text}
    (starts : line = '\\' :: (kind.name.toList ++ s)) (plain : '\\' ∉ s) (ctx : Context)
    : (interpret [line] ctx).1.records
      = (Command.readGroups kind s).toList.map fun (command, behind) =>
          (Record.ofCommand (Text.upTo line behind) command ctx).1 := by
  have here := @Command.find?_named kind s plain
  have others (other : CommandKind) (differs : other ≠ kind)
      : Command.find? other line = none := by
    rw [starts, Command.find?_named_of_ne differs, Command.find?_of_plain plain]
    rfl
  rw [← starts] at here
  rw [records_interpret_line]
  cases read : Command.readGroups kind s with
  | none =>
      rw [read] at here
      rw [interpretKinds_of_none fun other _ => ?_]
      · rfl
      · by_cases same : other = kind
        · exact same ▸ here
        · exact others other same
  | some found =>
      rw [read] at here
      rw [interpretKinds_of_find? here others (by decide), if_pos (Command.mem_all kind)]
      rfl

theorem interpretKinds_written {command : Command} (writable : command.Writable) (ctx : Context)
    : interpretKinds command.written CommandKind.all ctx
      = ([(Record.ofCommand command.written command ctx).1], (command.build ctx).2) := by
  rw [interpretKinds_of_find? (Command.find?_written writable)
    (fun other differs => Command.find?_written_of_ne writable differs) (by decide) ctx,
    if_pos (Command.mem_all command.kind)]
  rfl

-----------------------------------------------------------------------------------------
-- Lists of commands
-----------------------------------------------------------------------------------------

variable {commands : List Command}

/-- The records of written commands, by induction on them: each is built under the settings behind
those before it.
-/
theorem interpretLines_written (writable : ∀ command ∈ commands, command.Writable) (ctx : Context)
    : (interpretLines (commands.map Command.written) ctx).1.map Record.recipe
      = commands.mapIdx fun index command =>
          (command.written, command, ctx.settings.declareAll (commands.take index)) := by
  induction commands generalizing ctx with
  | nil => rfl
  | cons command commands ih =>
      have first := interpretKinds_written (writable command List.mem_cons_self) ctx
      have later := ih (fun command inside => writable command (List.mem_cons_of_mem _ inside))
        (command.build ctx).2
      rw [Command.build_settings] at later
      have settings (index : Nat)
          : ctx.settings.declareAll ((command :: commands).take (index + 1))
            = (ctx.settings.declareAll [command]).declareAll (commands.take index) := by
        rw [List.take_succ_cons, Settings.declareAll_cons]
      simp only [settings, List.map_cons, interpretLines, first, List.mapIdx_cons,
        List.singleton_append, later]
      rfl

/-- Commands of any kinds, written one on each line, are recognised: the records of each kind are
exactly the commands of that kind, in their order, with their whole lines as sources and with the
settings behind the declarations on earlier lines.
-/
theorem interpret_written (writable : ∀ command ∈ commands, command.Writable) (ctx : Context)
    (kind : CommandKind)
    : ((interpret (commands.map Command.written) ctx).1.ofKind kind).map Record.recipe
      = (commands.mapIdx fun index command =>
          (command.written, command, ctx.settings.declareAll (commands.take index))).filter
          fun recipe => recipe.2.1.kind = kind := by
  rw [← interpretLines_written writable ctx, List.filter_map]
  rfl

/-- An arc keeps its radius where no decoration and no center stand before it, and both arcs have
the settings declared in front of them.
-/
theorem interpret_written_arcs
    : let lines : List Text :=
        ["\\psset\x7bunit=2cm\x7d".toList,
          "\\psarc[linecolor=red]\x7b1\x7d\x7b0\x7d\x7b90\x7d".toList,
          "\\pspolygon(0,0)(1,(2,3)".toList,
          "\\psset\x7blinewidth=3\x7d".toList,
          "\\userline(0,0)(1,1)\x7bx\x7d\x7by\x7d".toList,
          "\\rput[tl]\x7b45\x7d(1,1)\x7ba\x7bb\x7d\x7bc\x7d\x7d".toList,
          "\\psarc\x7b->\x7d(1,1)\x7b2\x7d\x7b0\x7d\x7b180\x7d".toList]
      let wide := ({} : Settings).declare "unit=2cm".toList
      ∃ commands : List Command,
        (∀ command ∈ commands, command.Writable)
        ∧ commands.map Command.written = lines
        ∧ ((interpret lines (.initial ⟨0, 0⟩ ⟨4, 4⟩ {})).1.ofKind .arc).map Record.recipe
          = [("\\psarc[linecolor=red]\x7b1\x7d\x7b0\x7d\x7b90\x7d".toList,
                .arc ⟨some "[linecolor=red]".toList, none, none, "1".toList, "0".toList,
                  "90".toList⟩,
                wide),
              ("\\psarc\x7b->\x7d(1,1)\x7b2\x7d\x7b0\x7d\x7b180\x7d".toList,
                .arc ⟨none, some "\x7b->\x7d".toList, some ⟨"1".toList, "1".toList⟩, "2".toList,
                  "0".toList, "180".toList⟩,
                wide.declare "linewidth=3".toList)] := by
  let commands : List Command :=
    [.settings ⟨"unit=2cm".toList⟩,
      .arc ⟨some "[linecolor=red]".toList, none, none, "1".toList, "0".toList, "90".toList⟩,
      .polygon ⟨none, [⟨"0".toList, "0".toList⟩, ⟨"1,(2".toList, "3".toList⟩]⟩,
      .settings ⟨"linewidth=3".toList⟩,
      .userLine ⟨none, none, ⟨"0".toList, "0".toList⟩, ⟨"1".toList, "1".toList⟩,
        some "x".toList, some "y".toList, none, none⟩,
      .label ⟨some "tl".toList, some "45".toList, ⟨"1".toList, "1".toList⟩,
        "a\x7bb\x7d\x7bc\x7d".toList⟩,
      .arc ⟨none, some "\x7b->\x7d".toList, some ⟨"1".toList, "1".toList⟩, "2".toList,
        "0".toList, "180".toList⟩]
  intro lines wide
  have writable : ∀ command ∈ commands, command.Writable := by decide +kernel
  have same : commands.map Command.written = lines := by decide +kernel
  have recognised := interpret_written writable (.initial ⟨0, 0⟩ ⟨4, 4⟩ {}) .arc
  rw [same] at recognised
  exact ⟨commands, writable, same, recognised.trans (by decide +kernel)⟩

end Plan

end LatexFigures
