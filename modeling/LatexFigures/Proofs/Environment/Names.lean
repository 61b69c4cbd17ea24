import LatexFigures.Proofs.Pattern.Marks
import LatexFigures.Rules.Basic

/-! Which names can be registered. Besides what may not stand in a name only its length counts,
because the pattern of the opening mark weighs the more the longer the name is.
-/

namespace LatexFigures

/-- The most characters that the name of an environment may have. -/
def longestEnvironmentName : Nat := 327650

/-- The most characters that the name of a block header may have, whose marks have no groups behind
them.
-/
def longestHeaderName : Nat := 327668

-----------------------------------------------------------------------------------------
-- Patterns of marks
-----------------------------------------------------------------------------------------

namespace Pattern

theorem escape_append (s t : Text) : escape (s ++ t) = escape s ++ escape t := List.flatMap_append

theorem escape_of_plain {s : Text} (plain : s.all (!isSpecial ·) = true) : escape s = s := by
  induction s with
  | nil => rfl
  | cons c s ih =>
      simp only [List.all_cons, Bool.and_eq_true, Bool.not_eq_true'] at plain
      rw [escape, List.flatMap_cons, ← escape, ih plain.2, if_neg (by simp [plain.1])]
      rfl

/-- The pattern of a mark is the mark, escaped. -/
theorem markPattern_eq {command : String} (plain : command.toList.all (!isSpecial ·) = true)
    (name : String)
    : markPattern command name
      = escape (['\\'] ++ command.toList ++ ['\x7b'] ++ name.toList ++ ['\x7d']) := by
  simp only [escape_append, escape_of_plain plain]
  rfl

/-- A mark with pieces behind it is refused for its weight only. -/
theorem isSome_read?_mark_append {command : String}
    (plain : command.toList.all (!isSpecial ·) = true) (name : String) {tail : Text}
    {more : List Piece} (simple : ∀ p ∈ more, p.IsSimple)
    (read
      : ∀ fuel pieces,
          (Reader.alternatives (fuel + tail.length + 1) 0 [] pieces).run ⟨tail, {}, 1, []⟩
          = some (.alternatives [] (more.reverse ++ pieces), ⟨[], {}, 1, []⟩))
    : (read? (markPattern command name ++ tail)).isSome = true
      ↔ 32 * (command.length + name.length + 3) + Piece.totalWeight more + 112
        ≤ weightLimit := by
  let mark : Text := ['\\'] ++ command.toList ++ ['\x7b'] ++ name.toList ++ ['\x7d']
  have size : mark.length = command.length + name.length + 3 := by
    simp only [mark, List.length_append, List.length_singleton, String.length_toList]
    omega
  rw [markPattern_eq plain, read?_escape_append mark read, Piece.isSome_pattern?_concat,
    Piece.totalWeight_append, Piece.totalWeight_letters, size]
  · simp only [List.mem_append, List.mem_map]
    rintro p (⟨c, -, rfl⟩ | behind)
    · exact Piece.isSimple_letter c
    · exact simple p behind
  · rw [List.length_append, List.length_map, size]
    omega

/-- The mark by itself. -/
theorem isSome_read?_mark {command : String} (plain : command.toList.all (!isSpecial ·) = true)
    (name : String)
    : (read? (markPattern command name)).isSome = true
      ↔ 32 * (command.length + name.length + 3) + 112 ≤ weightLimit := by
  have alone : (read? (markPattern command name ++ [])).isSome = true
      ↔ 32 * (command.length + name.length + 3) + Piece.totalWeight [] + 112 ≤ weightLimit :=
    isSome_read?_mark_append plain name (List.forall_mem_nil _) fun _ _ => Reader.alternatives_end
  rwa [List.append_nil] at alone

/-- The opening mark with the groups behind it. -/
theorem isSome_read?_opening (name : String)
    : (read? (markPattern "begin" name ++ Delimiter.argumentsPattern)).isSome = true
      ↔ name.length ≤ longestEnvironmentName := by
  have simple : ∀ p ∈ [Reader.bracketsPiece, Reader.parenthesesPiece], p.IsSimple := by
    decide +kernel
  have weights : Piece.totalWeight [Reader.bracketsPiece, Reader.parenthesesPiece] = 592 := by
    decide +kernel
  have size : Delimiter.argumentsPattern.length = 35 := by decide +kernel
  have command : "begin".length = 5 := rfl
  rw [isSome_read?_mark_append (by decide) name simple, weights, command, weightLimit,
    longestEnvironmentName]
  · omega
  · intro fuel pieces
    rw [size]
    exact Reader.alternatives_arguments

/-- The closing mark is no heavier than the opening one. -/
theorem isSome_read?_closing {name : String} (short : name.length ≤ longestHeaderName)
    : (read? (markPattern "end" name)).isSome = true := by
  rw [isSome_read?_mark (by decide)]
  have command : "end".length = 3 := rfl
  rw [command, weightLimit]
  rw [longestHeaderName] at short
  omega

/-- The opening mark without groups. -/
theorem isSome_read?_header (name : String)
    : (read? (markPattern "begin" name)).isSome = true ↔ name.length ≤ longestHeaderName := by
  rw [isSome_read?_mark (by decide)]
  have command : "begin".length = 5 := rfl
  rw [command, weightLimit, longestHeaderName]
  omega

/-- A pattern that is only checked lets what follows go on, or ends it. -/
theorem compile_then {α : Type} (rule : String) (s : Text) (next : Except RegistryError α)
    : (do let _ ← compile rule s; next)
      = if (read? s).isSome = true then next else .error (.invalidPattern rule) := by
  rw [compile]
  cases read? s <;> rfl

/-- The same within a registration. -/
theorem run_compile_then {σ : Type} (rule : String) (s : Text) (next : Registration σ Unit)
    (state : σ)
    : Registration.run (do let _ ← compile rule s; next) state
      = if (read? s).isSome = true then next.run state
        else (.error (.invalidPattern rule), state) := by
  rw [Registration.run_check, compile]
  cases read? s <;> rfl

end Pattern

-----------------------------------------------------------------------------------------
-- Names
-----------------------------------------------------------------------------------------

/-- A kind is called as it was named, built in or not. -/
theorem EnvironmentKind.named_tag (name : String) (literal : Bool)
    : (named name literal).tag = name := by
  unfold named
  split <;> rfl

/-- A kind has delimiters if its name can be one and is not too long. -/
theorem Delimiter.ofKind_eq (kind : EnvironmentKind)
    : ofKind kind
      = if named : isEnvironmentName kind.tag = true then
          if kind.tag.length ≤ longestEnvironmentName then .ok ⟨kind, named⟩
          else .error (.invalidPattern kind.tag)
        else .error (.invalidName kind.tag) := by
  rw [ofKind]
  split
  · rw [Pattern.compile_then, Pattern.compile_then]
    simp only [Pattern.isSome_read?_opening]
    split
    · rename_i short
      rw [if_pos (Pattern.isSome_read?_closing (Nat.le_trans short (by decide)))]
      rfl
    · rfl
  · rfl

theorem Delimiter.kind_eq_of_ofKind {kind : EnvironmentKind} {d : Delimiter}
    (made : ofKind kind = .ok d)
    : d.kind = kind := by
  rw [ofKind_eq] at made
  split_ifs at made
  cases made
  rfl

/-- So an environment is registered, or the table is left as it was. -/
theorem DelimiterTable.run_register (name : String) (literal : Bool) (table : DelimiterTable)
    : (register name literal).run table
      = if named : isEnvironmentName (EnvironmentKind.named name literal).tag = true then
          if name.length ≤ longestEnvironmentName then
            (.ok (), table.insert ⟨.named name literal, named⟩)
          else (.error (.invalidPattern name), table)
        else (.error (.invalidName name), table) := by
  have tag := EnvironmentKind.named_tag name literal
  rw [register, Registration.run_check, Delimiter.ofKind_eq]
  generalize EnvironmentKind.named name literal = kind at tag ⊢
  subst tag
  split_ifs <;> rfl

/-- A header rule is registered likewise. -/
theorem TextRules.run_addHeaders (name : String) (beginText endText : Text) (rules : TextRules)
    : (addHeaders name beginText endText).run rules
      = if isHeaderName name = true then
          if name.length ≤ longestHeaderName then
            (.ok (), rules.withHeader ⟨name, beginText, endText⟩)
          else (.error (.invalidPattern name), rules)
        else (.error (.invalidName name), rules) := by
  rw [addHeaders]
  split
  · rw [Pattern.run_compile_then, Pattern.run_compile_then]
    simp only [Pattern.isSome_read?_header]
    split
    · rename_i short
      rw [if_pos (Pattern.isSome_read?_closing short)]
      rfl
    · rfl
  · rfl

end LatexFigures
