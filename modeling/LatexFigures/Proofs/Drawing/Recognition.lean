import LatexFigures.Proofs.Drawing.Written

/-! A command is recognised where it is written: its groups are read as its arguments, to the end,
and no other kind finds anything in them.
-/

namespace LatexFigures.Command

open Argument

-----------------------------------------------------------------------------------------
-- Groups of each kind
-----------------------------------------------------------------------------------------

-- the equations of both are made once, before the lemmas of the kinds ask for them all at a time
attribute [local simp] groups readGroups

variable {rest : Text}

theorem readGroups_frame {c : Frame} (fits : ArgumentsFit (.frame c)) (rest : Text)
    : readGroups .frame ((groups (.frame c)).flatten ++ rest) = some (.frame c, rest) := by
  obtain ⟨options, first, second⟩ := fits
  simp only [groups, List.flatten_cons, List.flatten_nil, List.append_assoc, List.nil_append,
    readGroups, Argument.options]
  rw [optional_block options]
  · simp only [pair_written first, pair_written second, Option.bind_eq_bind, Option.bind_some]
    rfl
  · exact fun _ => apart_of_group (by decide) _ _

theorem readGroups_circle {c : Circle} (fits : ArgumentsFit (.circle c)) (rest : Text)
    : readGroups .circle ((groups (.circle c)).flatten ++ rest) = some (.circle c, rest) := by
  obtain ⟨options, center, radius⟩ := fits
  simp only [groups, List.flatten_cons, List.flatten_nil, List.append_assoc, List.nil_append,
    readGroups, Argument.options]
  rw [optional_block options]
  · simp only [pair_written center, braced_inBraces radius, Option.bind_eq_bind, Option.bind_some]
    rfl
  · exact fun _ => apart_of_group (by decide) _ _

theorem readGroups_plot {c : Plot} (fits : ArgumentsFit (.plot c)) (rest : Text)
    : readGroups .plot ((groups (.plot c)).flatten ++ rest) = some (.plot c, rest) := by
  obtain ⟨options, first, last, function⟩ := fits
  simp only [groups, List.flatten_cons, List.flatten_nil, List.append_assoc, List.nil_append,
    readGroups, Argument.options]
  rw [optional_block options]
  · simp only [braced_inBraces first, braced_inBraces last, braced_inBraces function,
      Option.bind_eq_bind, Option.bind_some]
    rfl
  · exact fun _ => apart_of_group (by decide) _ _

theorem readGroups_userVariable {c : UserVariable} (fits : ArgumentsFit (.userVariable c))
    (rest : Text)
    : readGroups .userVariable ((groups (.userVariable c)).flatten ++ rest)
      = some (.userVariable c, rest) := by
  obtain ⟨options, name, trimmed, anchor, expression⟩ := fits
  simp only [groups, List.flatten_cons, List.flatten_nil, List.append_assoc, List.nil_append,
    readGroups, Argument.options]
  rw [optional_block options]
  · simp only [braced_inBraces name, trimmed, String.ofList_toList, pair_written anchor,
      braced_inBraces expression, Option.bind_eq_bind, Option.bind_some]
    rfl
  · exact fun _ => apart_of_group (by decide) _ _

theorem readGroups_slider {c : Slider} (fits : ArgumentsFit (.slider c)) (rest : Text)
    : readGroups .slider ((groups (.slider c)).flatten ++ rest) = some (.slider c, rest) := by
  obtain ⟨options, min, max, name, trimmed, label, value⟩ := fits
  simp only [groups, List.flatten_cons, List.flatten_nil, List.append_assoc, List.nil_append,
    readGroups, Argument.options]
  rw [optional_block options]
  · simp only [braced_inBraces min, braced_inBraces max, braced_inBraces name, trimmed,
      String.ofList_toList, braced_inBraces label, braced_inBraces value, Option.bind_eq_bind,
      Option.bind_some]
    rfl
  · exact fun _ => apart_of_group (by decide) _ _

theorem readGroups_settings {c : Settings} (fits : ArgumentsFit (.settings c)) (rest : Text)
    : readGroups .settings ((groups (.settings c)).flatten ++ rest) = some (.settings c, rest) := by
  simp only [groups, List.flatten_cons, List.flatten_nil, List.append_assoc, List.nil_append,
    readGroups]
  rw [braced_inBraces fits]
  rfl

theorem readGroups_polygon {c : Polygon} (fits : ArgumentsFit (.polygon c))
    (unbroken : '\n' ∉ (groups (.polygon c)).flatten)
    : readGroups .polygon (groups (.polygon c)).flatten = some (.polygon c, []) := by
  obtain ⟨options, points⟩ := fits
  simp only [groups, List.flatten_cons] at unbroken
  obtain ⟨line, rest⟩ :=
    takeWhile_of_unbroken fun inside => unbroken (List.mem_append_right _ inside)
  simp only [groups, List.flatten_cons, readGroups, Argument.options]
  rw [optional_block options]
  · simp only [line, rest, pairs_written points]
  · intro _
    cases c.points with
    | nil => nofun
    | cons point points => exact apart_of_group (by decide) _ _

theorem readGroups_axes {c : Axes} (fits : ArgumentsFit (.axes c)) (ends : EndsGroups rest)
    : readGroups .axes ((groups (.axes c)).flatten ++ rest) = some (.axes c, rest) := by
  obtain ⟨options, arrows, pairs, nonempty, most⟩ := fits
  obtain ⟨first, more, same⟩ := List.exists_cons_of_ne_nil nonempty
  rw [same] at pairs most
  have later := readPairs_written (fun p inside => pairs p (List.mem_cons_of_mem _ inside))
    (Nat.le_of_succ_le_succ most) ends
  simp only [groups, same, List.map_cons, List.flatten_cons, List.append_assoc, readGroups,
    Argument.options, decoration]
  rw [optional_block options, optional_block arrows]
  · simp only [pair_written (pairs first List.mem_cons_self), later, ← same, Option.bind_eq_bind,
      Option.bind_some]
    rfl
  · exact fun _ => apart_of_group (by decide) _ _
  · exact fun _ => apart_of_block arrows (by decide) (apart_of_group (by decide) _ _)

theorem readGroups_line {c : Line} (fits : ArgumentsFit (.line c)) (ends : EndsGroups rest)
    : readGroups .line ((groups (.line c)).flatten ++ rest) = some (.line c, rest) := by
  obtain ⟨options, arrows, first, second⟩ := fits
  have last : pairOptional (c.second.elim [] Pair.written ++ rest) = (c.second, rest) :=
    pairOptional_written second fun _ => ends.1
  simp only [groups, List.flatten_cons, List.flatten_nil, List.append_assoc, List.nil_append,
    readGroups, Argument.options, decoration]
  rw [optional_block options, optional_block arrows]
  · simp only [pair_written first, last, Option.bind_eq_bind, Option.bind_some]
    rfl
  · exact fun _ => apart_of_group (by decide) _ _
  · exact fun _ => apart_of_block arrows (by decide) (apart_of_group (by decide) _ _)

theorem readGroups_userLine {c : UserLine} (fits : ArgumentsFit (.userLine c))
    (ends : EndsGroups rest)
    : readGroups .userLine ((groups (.userLine c)).flatten ++ rest)
      = some (.userLine c, rest) := by
  obtain ⟨options, arrows, first, second, expressions, x1⟩ := fits
  -- the order of the expressions that are left, behind each of them
  have y1 := (List.isChain_cons_cons.mp x1).2
  have x2 := (List.isChain_cons_cons.mp y1).2
  have y2 := (List.isChain_cons_cons.mp x2).2
  have readX1 := MissingLast.bracedOptional x1 (expressions c.x1 (by simp [UserLine.expressions]))
    ends
  have readY1 := MissingLast.bracedOptional y1 (expressions c.y1 (by simp [UserLine.expressions]))
    ends
  have readX2 := MissingLast.bracedOptional x2 (expressions c.x2 (by simp [UserLine.expressions]))
    ends
  have readY2 := MissingLast.bracedOptional y2 (expressions c.y2 (by simp [UserLine.expressions]))
    ends
  simp only [groups, UserLine.expressions, List.flatten_append, List.flatten_cons,
    List.flatten_nil, List.append_nil, List.append_assoc, readGroups, Argument.options, decoration]
  rw [optional_block options, optional_block arrows]
  · simp only [pair_written first, pair_written second, readX1, readY1, readX2, readY2,
      Option.bind_eq_bind, Option.bind_some]
    rfl
  · exact fun _ => apart_of_group (by decide) _ _
  · exact fun _ => apart_of_block arrows (by decide) (apart_of_group (by decide) _ _)

-----------------------------------------------------------------------------------------
-- Reference points
-----------------------------------------------------------------------------------------

/-- The brackets around a reference point are dropped again, and nothing else is. -/
theorem refpoint_group {s : Text} (free : ']' ∉ s) (start : s.head? ≠ some '[')
    : Text.dropEndWhile (· = ']') ((group '[' ']' s).dropWhile (· = '[')) = s := by
  have opened : (group '[' ']' s).dropWhile (· = '[') = s ++ [']'] := by
    cases s with
    | nil => rfl
    | cons c s =>
        have other : c ≠ '[' := fun same => start (congrArg some same)
        simp [group, other]
  have closed : s.reverse.dropWhile (· = ']') = s.reverse := by
    cases back : s.reverse with
    | nil => rfl
    | cons c rest =>
        have inside : c ∈ s := List.mem_reverse.mp (back ▸ List.mem_cons_self)
        have other : c ≠ ']' := fun same => free (same ▸ inside)
        simp [other]
  simp [opened, Text.dropEndWhile, closed]

theorem readGroups_label {c : Label} (fits : ArgumentsFit (.label c))
    (unbroken : '\n' ∉ (groups (.label c)).flatten)
    : readGroups .label (groups (.label c)).flatten = some (.label c, []) := by
  obtain ⟨refpoint, rotation, place⟩ := fits
  have block : IsBlock '[' ']' (c.refpoint.map (group '[' ']')) := by
    intro text inside
    obtain ⟨s, given, rfl⟩ := Option.map_eq_some_iff.mp inside
    exact ⟨s, rfl, (refpoint s given).1⟩
  have written : c.refpoint.elim [] (group '[' ']')
      = (c.refpoint.map (group '[' ']')).getD [] := by
    cases c.refpoint <;> rfl
  have trimmed : (c.refpoint.map (group '[' ']')).map (fun block =>
      Text.dropEndWhile (· = ']') (block.dropWhile (· = '['))) = c.refpoint := by
    cases given : c.refpoint with
    | none => rfl
    | some s => exact congrArg some (refpoint_group (refpoint s given).1 (refpoint s given).2)
  have text : '\n' ∉ inBraces c.text := by
    simp only [groups, List.flatten_cons, List.mem_append, not_or] at unbroken
    exact unbroken.2.2.2.1
  simp only [groups, List.flatten_cons, List.flatten_nil, readGroups, Argument.options, written]
  rw [optional_block block, bracedOptional_written rotation]
  · simp only [pair_written place, List.append_nil, bracedToLast_inBraces text, trimmed,
      Option.bind_eq_bind, Option.bind_some]
    rfl
  · exact fun _ => apart_of_group (by decide) _ _
  · exact fun _ => apart_of_optional (fun _ _ => apart_of_group (by decide) _ _)
      (apart_of_group (by decide) _ _)

-----------------------------------------------------------------------------------------
-- Arcs
-----------------------------------------------------------------------------------------

theorem readArc_written {options arrows : Option Text} {center : Option Pair}
    {radius angleA angleB : Text} (centerFits : ∀ p ∈ center, p.Writable)
    (radiusFits : '\x7d' ∉ radius) (angleAFits : '\x7d' ∉ angleA) (angleBFits : '\x7d' ∉ angleB)
    (rest : Text)
    : readArc options arrows
        (center.elim [] Pair.written
          ++ (inBraces radius ++ (inBraces angleA ++ (inBraces angleB ++ rest))))
      = some (.arc { options, arrows, center, radius, angleA, angleB }, rest) := by
  unfold readArc
  rw [pairOptional_written centerFits]
  · simp only [braced_inBraces radiusFits, braced_inBraces angleAFits, braced_inBraces angleBFits,
      Option.bind_eq_bind, Option.bind_some]
    rfl
  · exact fun _ => apart_of_group (by decide) _ _

/-- An arc with its radius taken for a decoration lacks an angle. -/
theorem readArc_of_short {options arrows : Option Text} {angleA angleB : Text}
    (angleAFits : '\x7d' ∉ angleA) (angleBFits : '\x7d' ∉ angleB) (ends : EndsGroups rest)
    : readArc options arrows (inBraces angleA ++ (inBraces angleB ++ rest)) = none := by
  have noCenter (rest : Text)
      : pairOptional (inBraces angleA ++ rest) = (none, inBraces angleA ++ rest) :=
    pairOptional_written (p := none) nofun fun _ => apart_of_group (by decide) _ _
  have noAngle : braced rest = none := inner_of_head ends.2
  unfold readArc
  simp only [noCenter, braced_inBraces angleAFits, braced_inBraces angleBFits, noAngle,
    Option.bind_eq_bind, Option.bind_some, Option.bind_none]

theorem readGroups_arc {c : Arc} (fits : ArgumentsFit (.arc c)) (ends : EndsGroups rest)
    : readGroups .arc ((groups (.arc c)).flatten ++ rest) = some (.arc c, rest) := by
  obtain ⟨options, arrows, center, radius, angleA, angleB⟩ := fits
  obtain ⟨block, decorated, place, r, a, b⟩ := c
  simp only [groups, List.flatten_cons, List.flatten_nil, List.append_assoc, List.nil_append,
    readGroups, Argument.options, decoration] at *
  rw [optional_block options]
  · dsimp only
    cases decorated with
    | some text =>
        rw [optional_block arrows nofun, readArc_written center radius angleA angleB rest]
        rfl
    | none =>
        cases place with
        | some p =>
            rw [optional_block arrows]
            · dsimp only [Option.getD_none, List.nil_append]
              rw [readArc_written center radius angleA angleB rest]
              rfl
            · exact fun _ => apart_of_group (by decide) _ _
        | none =>
            -- the radius is taken for a decoration first, and the second try reads it as radius
            have taken (rest : Text)
                : Argument.optional '\x7b' '\x7d' (inBraces r ++ rest)
                  = (some (inBraces r), rest) :=
              optional_group radius rest
            have again : readArc block none
                (inBraces r ++ (inBraces a ++ (inBraces b ++ rest)))
                = some (.arc ⟨block, none, none, r, a, b⟩, rest) :=
              readArc_written center radius angleA angleB rest
            simp only [Option.getD_none, Option.elim_none, List.nil_append, taken,
              readArc_of_short angleA angleB ends, Option.none_or, again]
  · exact fun _ => apart_of_block arrows (by decide)
      (apart_of_optional (fun _ _ => apart_of_group (by decide) _ _)
        (apart_of_group (by decide) _ _))

/-- Polygons and labels take the rest of the line. -/
def TakesLine (command : Command) : Prop :=
  command.kind = .polygon ∨ command.kind = .label

instance (command : Command) : Decidable command.TakesLine := inferInstanceAs (Decidable (_ ∨ _))

/-- The groups of a command are read as its arguments, up to what follows it. -/
theorem readGroups_append {command : Command} (fits : command.ArgumentsFit)
    (stops : ¬ command.TakesLine) (ends : EndsGroups rest)
    : readGroups command.kind (command.groups.flatten ++ rest) = some (command, rest) := by
  cases command with
  | frame => exact readGroups_frame fits rest
  | circle => exact readGroups_circle fits rest
  | arc => exact readGroups_arc fits ends
  | polygon => exact absurd (.inl rfl) stops
  | axes => exact readGroups_axes fits ends
  | line => exact readGroups_line fits ends
  | userLine => exact readGroups_userLine fits ends
  | plot => exact readGroups_plot fits rest
  | userVariable => exact readGroups_userVariable fits rest
  | label => exact absurd (.inr rfl) stops
  | slider => exact readGroups_slider fits rest
  | settings => exact readGroups_settings fits rest

/-- The groups of a command are read as its arguments, and nothing of them is left. -/
theorem readGroups_written {command : Command} (writable : command.Writable)
    : readGroups command.kind command.groups.flatten = some (command, []) := by
  obtain ⟨⟨-, unbroken⟩, fits⟩ := writable
  by_cases takes : command.TakesLine
  · cases command with
    | polygon => exact readGroups_polygon fits unbroken
    | label => exact readGroups_label fits unbroken
    | _ => simp [TakesLine, kind] at takes
  · have read := readGroups_append fits takes endsGroups_nil
    rwa [List.append_nil] at read

-----------------------------------------------------------------------------------------
-- Finding a command
-----------------------------------------------------------------------------------------

theorem read?_eq_none {kind : CommandKind} {s : Text}
    (other : ¬ '\\' :: kind.name.toList <+: s)
    : read? kind s = none := by
  rw [read?, Text.after?_eq_none_iff.mpr other]
  rfl

/-- Nothing is found before the end of a text without backslash. -/
theorem find?_append_plain {kind : CommandKind} {front : Text} (plain : '\\' ∉ front) (s : Text)
    : find? kind (front ++ s)
      = (find? kind s).map fun found => { found with before := front ++ found.before } := by
  induction front with
  | nil => simp
  | cons c front ih =>
      simp only [List.mem_cons, not_or] at plain
      have nothing : read? kind (c :: (front ++ s)) = none :=
        read?_eq_none fun start => plain.1 (List.cons_prefix_cons.mp start).1
      rw [List.cons_append, find?, nothing, ih plain.2]
      simp [Function.comp_def]

/-- No command stands in a text without backslash. -/
theorem find?_of_plain {kind : CommandKind} {s : Text} (plain : '\\' ∉ s)
    : find? kind s = none := by
  have nothing := @find?_append_plain kind s plain []
  rwa [List.append_nil] at nothing

theorem mem_all (kind : CommandKind) : kind ∈ CommandKind.all := by
  cases kind <;> decide

/-- No name begins with another one. -/
theorem eq_of_name_starts {kind other : CommandKind}
    (start : kind.name.toList <+: other.name.toList)
    : kind = other := by
  have names : ∀ kind ∈ CommandKind.all, ∀ other ∈ CommandKind.all,
      kind.name.toList <+: other.name.toList → kind = other := by
    decide +kernel
  exact names kind (mem_all kind) other (mem_all other) start

theorem backslash_not_mem_name (kind : CommandKind) : '\\' ∉ kind.name.toList := by
  cases kind <;> decide

/-- Behind its macro a command is read by its groups. -/
theorem read?_named (kind : CommandKind) (s : Text)
    : read? kind ('\\' :: (kind.name.toList ++ s)) = readGroups kind s := by
  have start : Text.after? ('\\' :: kind.name.toList) ('\\' :: (kind.name.toList ++ s)) = some s :=
    Text.after?_eq_some_iff.mpr rfl
  rw [read?, start]
  rfl

/-- Only its own macro is found at the head of a command. -/
theorem find?_named_of_ne {kind other : CommandKind} (differs : other ≠ kind) (s : Text)
    : find? other ('\\' :: (kind.name.toList ++ s))
      = (find? other s).map fun found =>
          { found with before := '\\' :: (kind.name.toList ++ found.before) } := by
  have nothing : read? other ('\\' :: (kind.name.toList ++ s)) = none :=
    read?_eq_none fun start => by
      have named := (List.cons_prefix_cons.mp start).2
      rcases List.prefix_or_prefix_of_prefix named (List.prefix_append _ _) with first | second
      · exact differs (eq_of_name_starts first)
      · exact differs (eq_of_name_starts second).symm
  rw [find?, nothing, find?_append_plain (backslash_not_mem_name kind)]
  simp [Function.comp_def]

/-- In front of a text without backslash a macro is all that can be found. -/
theorem find?_named {kind : CommandKind} {s : Text} (plain : '\\' ∉ s)
    : find? kind ('\\' :: (kind.name.toList ++ s))
      = (readGroups kind s).map fun (command, behind) =>
          ⟨[], Text.upTo ('\\' :: (kind.name.toList ++ s)) behind, command⟩ := by
  have later : find? kind (kind.name.toList ++ s) = none := by
    refine find?_of_plain ?_
    rw [List.mem_append, not_or]
    exact ⟨backslash_not_mem_name kind, plain⟩
  rw [find?, read?_named, later]
  cases readGroups kind s <;> rfl

section Written

variable {command : Command}

theorem written_append (command : Command) (rest : Text)
    : command.written ++ rest
      = '\\' :: (command.kind.name.toList ++ (command.groups.flatten ++ rest)) := by
  rw [written, List.cons_append, List.append_assoc]

/-- A command whose groups are read as its arguments is found at the head of a text. -/
theorem find?_of_readGroups {rest : Text}
    (read : readGroups command.kind (command.groups.flatten ++ rest) = some (command, rest))
    : find? command.kind (command.written ++ rest) = some ⟨[], command.written, command⟩ := by
  have source : Text.upTo (command.written ++ rest) rest = command.written := by
    simp [Text.upTo]
  rw [written_append] at source ⊢
  rw [find?, read?_named, read]
  simp only [source]

/-- Another kind is found neither at the head of a command nor in its groups. -/
theorem find?_append_of_ne (writable : command.Writable) {kind : CommandKind}
    (other : kind ≠ command.kind) (rest : Text)
    : find? kind (command.written ++ rest)
      = (find? kind rest).map fun found =>
          { found with before := command.written ++ found.before } := by
  rw [written_append, find?_named_of_ne other, find?_append_plain writable.plain.1]
  simp [written, Function.comp_def]

theorem find?_written (writable : command.Writable)
    : find? command.kind command.written = some ⟨[], command.written, command⟩ := by
  have read := readGroups_written writable
  rw [← List.append_nil command.groups.flatten] at read
  simpa using find?_of_readGroups read

theorem find?_written_of_ne (writable : command.Writable) {kind : CommandKind}
    (other : kind ≠ command.kind)
    : find? kind command.written = none := by
  have skipped := find?_append_of_ne writable other []
  rwa [List.append_nil] at skipped

end Written

end LatexFigures.Command
