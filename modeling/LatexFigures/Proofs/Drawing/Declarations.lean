import LatexFigures.Proofs.Drawing.Interpretation

/-! Which declarations an interpreted figure makes. A line makes the first one that it contains,
whatever other commands stand on it, and nothing else changes the settings.
-/

namespace LatexFigures

/-- The inside of a group is what stands behind its opening mark, up to the closing one. -/
theorem Argument.inner_eq (opening closing : Char) (s : Text)
    : inner opening closing s = (Text.after? [opening] s).bind (Text.splitFirst? closing) := by
  cases s with
  | nil => rfl
  | cons c s =>
      by_cases same : c = opening
      · simp [inner, Text.after?, List.isPrefixOf?, same]
      · simp [inner, Text.after?, List.isPrefixOf?, same, Ne.symm same]

namespace Command

variable {kind : CommandKind} {s rest : Text} {command : Command}

theorem kind_of_readArc {options arrows : Option Text}
    (found : readArc options arrows s = some (command, rest))
    : command.kind = .arc := by
  simp only [readArc, Option.bind_eq_bind, Option.bind_eq_some_iff, Option.pure_def,
    Option.some.injEq, Prod.mk.injEq] at found
  obtain ⟨_, -, _, -, _, -, rfl, -⟩ := found
  rfl

/-- Groups are read as a command of the kind whose macro stands before them. -/
theorem kind_of_readGroups (found : readGroups kind s = some (command, rest))
    : command.kind = kind := by
  cases kind with
  | arc =>
      rcases Option.or_eq_some_iff.mp found with arrows | ⟨-, plain⟩
      · exact kind_of_readArc arrows
      · exact kind_of_readArc plain
  | polygon =>
      obtain ⟨rfl, -⟩ := Prod.mk.inj (Option.some.inj found)
      rfl
  | _ =>
      simp only [readGroups, Option.bind_eq_bind, Option.bind_eq_some_iff, Option.pure_def,
        Option.some.injEq, Prod.mk.injEq] at found
      grind [Command.kind]

theorem kind_of_find? {occurrence : Occurrence} (found : find? kind s = some occurrence)
    : occurrence.command.kind = kind := by
  induction s generalizing occurrence with
  | nil => cases found
  | cons c s ih =>
      rw [find?] at found
      split at found
      · rename_i command behind read
        obtain ⟨groups, -, here⟩ := Option.bind_eq_some_iff.mp read
        obtain rfl := Option.some.inj found
        exact kind_of_readGroups here
      · obtain ⟨later, here, rfl⟩ := Option.map_eq_some_iff.mp found
        have ofKind : later.command.kind = kind := ih here
        exact ofKind

/-- A declaration is read off the head of a text as a command. -/
theorem read?_settings (s : Text)
    : read? .settings s
      = (Text.after? "\\psset\x7b".toList s).bind fun behind =>
          (Text.splitFirst? '\x7d' behind).map fun (body, rest) => (.settings ⟨body⟩, rest) := by
  have start : "\\psset\x7b".toList = '\\' :: CommandKind.settings.name.toList ++ ['\x7b'] := rfl
  have groups (behind : Text)
      : readGroups .settings behind
        = ((Text.after? ['\x7b'] behind).bind (Text.splitFirst? '\x7d')).map
            fun (body, rest) => (.settings ⟨body⟩, rest) := by
    rw [← Argument.inner_eq, readGroups, Argument.braced]
    cases Argument.inner '\x7b' '\x7d' behind <;> rfl
  rw [read?, start, Text.after?_append]
  simp only [groups, Option.bind_eq_bind, Option.bind_assoc, Option.map_bind]
  rfl

/-- The declaration found as a command is the one that is found by its text. -/
theorem find?_settings (line : Text)
    : (find? .settings line).bind (·.command.settingsBody?) = Settings.bodyIn? line := by
  induction line with
  | nil => rfl
  | cons c rest ih =>
      rw [find?, Settings.bodyIn?, read?_settings]
      cases start : Text.after? "\\psset\x7b".toList (c :: rest) with
      | none => simpa [Option.bind_map, Function.comp_def] using ih
      | some behind =>
          cases cut : Text.splitFirst? '\x7d' behind with
          | none => simpa [Option.bind_map, Function.comp_def, cut] using ih
          | some parts => simp [cut, settingsBody?]

/-- Only the search for declarations finds one. -/
theorem settingsBody?_of_find? (kind : CommandKind) (line : Text)
    : (find? kind line).bind (·.command.settingsBody?)
      = if kind = .settings then Settings.bodyIn? line else none := by
  split
  · rename_i same
    rw [same, find?_settings]
  · rename_i other
    cases found : find? kind line with
    | none => rfl
    | some occurrence =>
        have ofKind := kind_of_find? found
        cases command : occurrence.command with
        | settings => exact absurd (ofKind.symm.trans (by rw [command]; rfl)) other
        | _ => simp [command, settingsBody?]

end Command

namespace Plan

theorem interpretKinds_settings (line : Text) (kinds : List CommandKind) (ctx : Context)
    : (interpretKinds line kinds ctx).2.settings
      = (kinds.filterMap fun kind =>
          (Command.find? kind line).bind (·.command.settingsBody?)).foldl
            Settings.declare ctx.settings := by
  induction kinds generalizing ctx with
  | nil => rfl
  | cons kind kinds ih =>
      rw [interpretKinds, List.filterMap_cons]
      cases Command.find? kind line with
      | none => exact ih ctx
      | some found =>
          have later := ih (found.command.build ctx).2
          rw [Command.build_settings, Settings.declareAll] at later
          refine later.trans ?_
          cases body : found.command.settingsBody? <;> simp [body]

/-- The first declaration of each line is made, by induction on the lines. -/
theorem interpretLines_settings (lines : List Text) (ctx : Context)
    : (interpretLines lines ctx).2.settings
      = (lines.filterMap Settings.bodyIn?).foldl Settings.declare ctx.settings := by
  induction lines generalizing ctx with
  | nil => rfl
  | cons line lines ih =>
      have once (ctx : Context)
          : (interpretKinds line CommandKind.all ctx).2.settings
            = (Settings.bodyIn? line).elim ctx.settings ctx.settings.declare := by
        rw [interpretKinds_settings]
        simp only [Command.settingsBody?_of_find?]
        cases Settings.bodyIn? line <;> rfl
      simp only [interpretLines, ih, once, List.filterMap_cons]
      cases Settings.bodyIn? line <;> rfl

end Plan

/-- The settings of an interpreted figure are those in which it opened, with the first declaration
on each of its lines.
-/
theorem Figure.ofLines_settings (lines : List Text) (ctx : Context)
    : (Figure.ofLines lines ctx).context.settings
      = (lines.filterMap Settings.bodyIn?).foldl Settings.declare ctx.settings :=
  Plan.interpretLines_settings lines ctx

end LatexFigures
