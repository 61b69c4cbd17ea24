import Mathlib.Data.List.Nodup
import LatexFigures.Proofs.Drawing.Declarations

/-! Lines on which several commands stand. A line is searched once for each kind, so that it gives
one record for each kind that stands on it, whatever their order: only the leftmost command of a
kind is drawn.
-/

namespace LatexFigures

-----------------------------------------------------------------------------------------
-- Records of one line
-----------------------------------------------------------------------------------------

/-- The recipe of its record under these settings. -/
def Command.Occurrence.recipe (found : Occurrence) (settings : LatexFigures.Settings)
    : Text × Command × LatexFigures.Settings :=
  (found.source, found.command, settings)

namespace Plan

open Command (find?)

/-- All records of a line have the settings in force before it, since declarations are looked for
last. By induction on the kinds that are tried.
-/
theorem interpretKinds_recipes (line : Text) {kinds : List CommandKind}
    (last : .settings ∉ kinds.dropLast) (ctx : Context)
    : (interpretKinds line kinds ctx).1.map Record.recipe
      = kinds.filterMap fun kind => (find? kind line).map (·.recipe ctx.settings) := by
  induction kinds generalizing ctx with
  | nil => rfl
  | cons kind kinds ih =>
      cases kinds with
      | nil =>
          rw [interpretKinds, List.filterMap_cons]
          cases find? kind line <;> rfl
      | cons next kinds =>
          rw [List.dropLast_cons_cons, List.mem_cons, not_or] at last
          rw [interpretKinds, List.filterMap_cons]
          cases here : find? kind line with
          | none => exact ih last.2 ctx
          | some found =>
              have other : found.command.settingsBody? = none := by
                have body := Command.settingsBody?_of_find? kind line
                rwa [here, Option.bind_some, if_neg (Ne.symm last.1)] at body
              have kept : (found.command.build ctx).2.settings = ctx.settings := by
                simp [Command.build_settings, Settings.declareAll, other]
              have later := ih last.2 (found.command.build ctx).2
              rw [kept] at later
              exact congrArg (found.recipe ctx.settings :: ·) later

/-- A line gives one record of a kind, which draws the leftmost command of the kind, or none. -/
theorem ofKind_interpret_line (line : Text) (ctx : Context) (kind : CommandKind)
    : ((interpret [line] ctx).1.ofKind kind).map Record.recipe
      = ((find? kind line).map (·.recipe ctx.settings)).toList := by
  have ofKind : ((interpret [line] ctx).1.ofKind kind).map Record.recipe
      = ((interpretKinds line CommandKind.all ctx).1.map Record.recipe).filter
          fun recipe => recipe.2.1.kind = kind := by
    rw [ofKind, records_interpret_line, List.filter_map]
    rfl
  have only (other : CommandKind)
      : ((find? other line).map (·.recipe ctx.settings)).filter
          (fun recipe => recipe.2.1.kind = kind)
        = if other = kind then (find? kind line).map (·.recipe ctx.settings) else none := by
    by_cases same : other = kind
    · subst same
      rw [if_pos rfl]
      cases here : find? other line with
      | none => rfl
      | some found =>
          simp [Option.filter, Command.Occurrence.recipe, Command.kind_of_find? here]
    · rw [if_neg same]
      cases here : find? other line with
      | none => rfl
      | some found =>
          simp [Option.filter, Command.Occurrence.recipe, Command.kind_of_find? here, same]
  have once (x : Text × Command × Settings)
      : (CommandKind.all.filterMap fun other => if other = kind then some x else none) = [x] := by
    cases kind <;> rfl
  rw [ofKind, interpretKinds_recipes line (by decide), List.filter_filterMap]
  simp only [only]
  cases find? kind line with
  | none => simp
  | some found => exact once _

end Plan

-----------------------------------------------------------------------------------------
-- Commands side by side
-----------------------------------------------------------------------------------------

namespace Command

/-- Commands on one line, each with what stands behind it. -/
def joined (parts : List (Command × Text)) : Text :=
  parts.flatMap fun (command, behind) => command.written ++ behind

/-- The command leaves the rest of its line to others, with nothing but blanks in front of them.
-/
structure SharesLine (part : Command × Text) : Prop where
  writable : part.1.Writable
  stops : ¬ part.1.TakesLine
  blank : part.2.isAllBlank

instance (part : Command × Text) : Decidable (SharesLine part) :=
  decidable_of_iff (part.1.Writable ∧ ¬ part.1.TakesLine ∧ part.2.isAllBlank)
    ⟨fun h => ⟨h.1, h.2.1, h.2.2⟩, fun h => ⟨h.writable, h.stops, h.blank⟩⟩

theorem not_mem_of_isAllBlank {mark : Char} {s : Text} (blank : s.isAllBlank)
    (other : Text.isBlank mark = false)
    : mark ∉ s := fun inside => by
  simpa [other] using List.all_eq_true.mp blank mark inside

variable {parts : List (Command × Text)}

/-- The groups of a command end where blanks or another command follow. -/
theorem endsGroups_joined {behind : Text} (blank : behind.isAllBlank)
    (parts : List (Command × Text))
    : Argument.EndsGroups (behind ++ joined parts) := by
  cases behind with
  | nil =>
      cases parts with
      | nil => exact Argument.endsGroups_nil
      | cons part parts => exact ⟨nofun, nofun⟩
  | cons c behind =>
      have apart {mark : Char} (other : Text.isBlank mark = false)
          : (c :: behind ++ joined parts).head? ≠ some mark := fun same => by
        obtain rfl : c = mark := Option.some.inj same
        exact not_mem_of_isAllBlank blank other List.mem_cons_self
      exact ⟨apart (by decide), apart (by decide)⟩

/-- The leftmost command of a kind is the first one that is written, by induction on those that
share the line.
-/
theorem find?_joined (shared : ∀ part ∈ parts, SharesLine part) (kind : CommandKind)
    (settings : LatexFigures.Settings)
    : (find? kind (joined parts)).map (·.recipe settings)
      = ((parts.map Prod.fst).find? (·.kind = kind)).map fun command =>
          (command.written, command, settings) := by
  induction parts with
  | nil => rfl
  | cons part parts ih =>
      obtain ⟨command, behind⟩ := part
      obtain ⟨writable, stops, blank⟩ := shared _ List.mem_cons_self
      have later := ih fun part inside => shared part (List.mem_cons_of_mem _ inside)
      have text : joined ((command, behind) :: parts)
          = command.written ++ (behind ++ joined parts) := by
        simp [joined]
      rw [text, List.map_cons, List.find?_cons]
      by_cases same : command.kind = kind
      · have read := readGroups_append writable.arguments stops (endsGroups_joined blank parts)
        rw [← same, find?_of_readGroups read]
        simp [Occurrence.recipe]
      · have plain : '\\' ∉ behind := not_mem_of_isAllBlank blank (by decide)
        rw [find?_append_of_ne writable (Ne.symm same), find?_append_plain plain]
        simpa [same, Function.comp_def, Occurrence.recipe] using later

end Command

/-- Of the elements with one key the first one is all exactly if no key occurs twice. -/
theorem find?_eq_filter_iff_nodup {α κ : Type} [DecidableEq κ] (key : α → κ) (l : List α)
    : (∀ k, (l.find? (key · = k)).toList = l.filter (key · = k)) ↔ (l.map key).Nodup := by
  have one (k : κ)
      : (l.find? (key · = k)).toList = l.filter (key · = k) ↔ (l.map key).count k ≤ 1 := by
    have count : (l.map key).count k = (l.filter (key · = k)).length := by
      rw [List.count_eq_countP, List.countP_map, List.countP_eq_length_filter]
      rfl
    rw [count, ← List.head?_filter]
    rcases l.filter (key · = k) with _ | ⟨a, _ | ⟨b, rest⟩⟩ <;> simp
  rw [forall_congr' one, List.nodup_iff_count_le_one]

namespace Plan

variable {lead : Text} {parts : List (Command × Text)}

/-- Commands that share a line, each in its documented form and with any blanks around them, give
one record of each kind that stands there: the first of its kind that is written, with its own text
as source. So none of them is lost exactly if no two are of one kind.
-/
theorem interpret_shared_line (blank : lead.isAllBlank)
    (shared : ∀ part ∈ parts, Command.SharesLine part) (ctx : Context)
    : let commands := parts.map Prod.fst
      let plan := (interpret [lead ++ Command.joined parts] ctx).1
      (∀ kind,
        (plan.ofKind kind).map Record.recipe
          = (commands.find? (·.kind = kind)).toList.map fun command =>
              (command.written, command, ctx.settings))
      ∧ ((∀ kind, (plan.ofKind kind).map (·.command) = commands.filter (·.kind = kind))
          ↔ (commands.map Command.kind).Nodup) := by
  intro commands plan
  have recipes (kind : CommandKind)
      : (plan.ofKind kind).map Record.recipe
        = (commands.find? (·.kind = kind)).toList.map fun command =>
            (command.written, command, ctx.settings) := by
    have plain : '\\' ∉ lead := Command.not_mem_of_isAllBlank blank (by decide)
    have found := Command.find?_joined shared kind ctx.settings
    rw [ofKind_interpret_line, Command.find?_append_plain plain, Option.map_map]
    exact (congrArg Option.toList found).trans (Option.toList_map ..)
  have drawn (kind : CommandKind)
      : (plan.ofKind kind).map (·.command) = (commands.find? (·.kind = kind)).toList := by
    have these := congrArg (List.map fun recipe => recipe.2.1) (recipes kind)
    rw [List.map_map, List.map_map] at these
    exact these.trans (List.map_id _)
  refine ⟨recipes, ?_⟩
  simp only [drawn]
  exact find?_eq_filter_iff_nodup Command.kind commands

/-- Three commands of different kinds, with a tabulator and with nothing between them, are all
there, the declaration too.
-/
theorem interpret_shared_line_of_three_kinds
    : let line :=
        " \\psset\x7bunit=2cm\x7d\\pscircle(0,0)\x7b1\x7d\t\\psline[linecolor=red](1,1)".toList
      let written :=
        ["\\psset\x7bunit=2cm\x7d".toList, "\\pscircle(0,0)\x7b1\x7d".toList,
          "\\psline[linecolor=red](1,1)".toList]
      ∃ commands : List Command,
        commands.map Command.written = written
        ∧ ∀ kind,
            ((interpret [line] (.initial ⟨0, 0⟩ ⟨4, 4⟩ {})).1.ofKind kind).map (·.command)
              = commands.filter (·.kind = kind) := by
  let parts : List (Command × Text) :=
    [(.settings ⟨"unit=2cm".toList⟩, []),
      (.circle ⟨none, ⟨"0".toList, "0".toList⟩, "1".toList⟩, ['\t']),
      (.line ⟨some "[linecolor=red]".toList, none, ⟨"1".toList, "1".toList⟩, none⟩, [])]
  intro line written
  have shared : ∀ part ∈ parts, Command.SharesLine part := by decide +kernel
  have text : [' '] ++ Command.joined parts = line := by decide +kernel
  have blank : Text.isAllBlank [' '] := by decide
  have complete := (interpret_shared_line blank shared (.initial ⟨0, 0⟩ ⟨4, 4⟩ {})).2.mpr
    (by decide)
  rw [text] at complete
  exact ⟨parts.map Prod.fst, by decide +kernel, complete⟩

/-- Of two lines side by side the second one is not drawn. -/
theorem interpret_shared_line_loses_second
    : let parts : List (Command × Text) :=
        [(.line ⟨none, none, ⟨"1".toList, "1".toList⟩, none⟩, [' ']),
          (.line ⟨none, none, ⟨"2".toList, "2".toList⟩, none⟩, [])]
      let line := "\\psline(1,1) \\psline(2,2)".toList
      (∀ part ∈ parts, Command.SharesLine part)
      ∧ Command.joined parts = line
      ∧ (interpret [line] (.initial ⟨0, 0⟩ ⟨4, 4⟩ {})).1.records.map (·.command)
        = [.line ⟨none, none, ⟨"1".toList, "1".toList⟩, none⟩] := by
  exact ⟨by decide +kernel, by decide +kernel, by decide +kernel⟩

end Plan

end LatexFigures
