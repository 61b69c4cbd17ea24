import Mathlib.Data.List.TakeWhile
import LatexFigures.Environment.Delimiter
import LatexFigures.Proofs.Text.Cutting

/-! A delimiter cut off a text is a part of it: its mark comes first, the groups behind the mark
follow, and nothing is lost. Whether there is a delimiter depends on the mark alone.
-/

namespace LatexFigures

theorem beginMark_ne_nil (name : String) : beginMark name ≠ [] :=
  List.append_ne_nil_of_right_ne_nil _ (List.cons_ne_nil _ _)

theorem endMark_ne_nil (name : String) : endMark name ≠ [] :=
  List.append_ne_nil_of_right_ne_nil _ (List.cons_ne_nil _ _)

namespace Delimiter

-----------------------------------------------------------------------------------------
-- Groups behind an opening mark
-----------------------------------------------------------------------------------------

/-- A group with the spaces before it is a part of the text, by the cut at its closing
character.
-/
theorem splitGroup?_append {opening closing : Char} {s group rest : Text}
    (found : splitGroup? opening closing s = some (group, rest))
    : group ++ rest = s := by
  have spaces := List.takeWhile_append_dropWhile (p := Text.isSpace) (l := s)
  unfold splitGroup? at found
  split at found
  · simp at found
  · rename_i c inside start
    split at found
    · obtain ⟨⟨inner, behind⟩, cut, same⟩ := Option.map_eq_some_iff.mp found
      obtain ⟨rfl, rfl⟩ := Prod.mk.inj same
      obtain ⟨whole, -⟩ := Text.splitFirst?_eq_some_iff.mp cut
      rw [start, ← whole] at spaces
      simpa [List.append_assoc] using spaces
    · simp at found

/-- The groups in parentheses are a part of the text, by induction on their number. -/
theorem splitGroups_append (most : Nat) (s : Text)
    : (splitGroups most s).1 ++ (splitGroups most s).2 = s := by
  induction most generalizing s with
  | zero => simp [splitGroups]
  | succ most ih =>
      unfold splitGroups
      split
      · rename_i group rest found
        simp only [List.append_assoc, ih, splitGroup?_append found]
      · simp

theorem splitArguments_append (s : Text)
    : (splitArguments s).1 ++ (splitArguments s).2 = s := by
  unfold splitArguments
  cases found : splitGroup? '[' ']' s with
  | none => simp only [Option.getD_none, List.nil_append, splitGroups_append]
  | some cut =>
      obtain ⟨options, rest⟩ := cut
      simp only [Option.getD_some, List.append_assoc, splitGroups_append,
        splitGroup?_append found]

/-- The groups alone tell the cut. -/
theorem splitArguments_eq {arguments rest : Text}
    (groups : (splitArguments (arguments ++ rest)).1 = arguments)
    : splitArguments (arguments ++ rest) = (arguments, rest) := by
  have whole := splitArguments_append (arguments ++ rest)
  rw [groups, List.append_cancel_left_eq] at whole
  exact Prod.ext groups whole

/-- A group that is written is cut off, with the spaces before it. -/
theorem splitGroup?_written (opening : Char) {closing : Char} {spaces inner : Text}
    (blank : ∀ c ∈ spaces, Text.isSpace c = true) (visible : Text.isSpace opening = false)
    (free : closing ∉ inner) (rest : Text)
    : splitGroup? opening closing (spaces ++ opening :: inner ++ closing :: rest)
      = some (spaces ++ opening :: inner ++ [closing], rest) := by
  have stops : ∀ c ∈ (opening :: (inner ++ closing :: rest)).head?, Text.isSpace c = false := by
    simpa using visible
  have start := Text.dropWhile_append blank stops
  have front := Text.takeWhile_append blank stops
  have cut : Text.splitFirst? closing (inner ++ closing :: rest) = some (inner, rest) :=
    Text.splitFirst?_eq_some_iff.mpr ⟨rfl, free⟩
  rw [List.append_assoc, List.cons_append]
  simp [splitGroup?, start, front, cut]

theorem splitGroup?_of_head {opening closing : Char} {s : Text}
    (other : ∀ c ∈ (s.dropWhile Text.isSpace).head?, c ≠ opening)
    : splitGroup? opening closing s = none := by
  unfold splitGroup?
  split
  · rfl
  · rename_i c rest start
    rw [if_neg (other c (by simp [start]))]

/-- There are no groups where neither kind of them begins. -/
theorem splitArguments_of_head {s : Text}
    (plain : ∀ c ∈ (s.dropWhile Text.isSpace).head?, c ≠ '[' ∧ c ≠ '(')
    : splitArguments s = ([], s) := by
  have options : splitGroup? '[' ']' s = none :=
    splitGroup?_of_head fun c head => (plain c head).1
  have group : splitGroup? '(' ')' s = none :=
    splitGroup?_of_head fun c head => (plain c head).2
  have groups (most : Nat) : splitGroups most s = ([], s) := by
    cases most with
    | zero => rfl
    | succ most => rw [splitGroups, group]
  unfold splitArguments
  rw [options]
  simp only [Option.getD_none, groups, List.append_nil]

theorem length_of_splitGroup? {opening closing : Char} {s group rest : Text}
    (found : splitGroup? opening closing s = some (group, rest))
    : rest.length < s.length := by
  have whole := congrArg List.length (splitGroup?_append found)
  have nonempty : 0 < group.length := by
    unfold splitGroup? at found
    split at found
    · simp at found
    · split at found
      · obtain ⟨cut, -, same⟩ := Option.map_eq_some_iff.mp found
        rw [← (Prod.mk.inj same).1]
        exact List.length_pos_iff.mpr (List.append_ne_nil_of_right_ne_nil _ (List.cons_ne_nil _ _))
      · simp at found
  rw [List.length_append] at whole
  omega

/-- Bounds that are not below the length of the text all give the same groups. -/
theorem splitGroups_congr {most other : Nat} {s : Text} (enough : s.length ≤ most)
    (enoughOther : s.length ≤ other)
    : splitGroups most s = splitGroups other s := by
  induction most generalizing other s with
  | zero =>
      obtain rfl := List.length_eq_zero_iff.mp (Nat.le_zero.mp enough)
      cases other <;> rfl
  | succ most ih =>
      cases other with
      | zero =>
          obtain rfl := List.length_eq_zero_iff.mp (Nat.le_zero.mp enoughOther)
          rfl
      | succ other =>
          unfold splitGroups
          cases found : splitGroup? '(' ')' s with
          | none => rfl
          | some cut =>
              have shorter := length_of_splitGroup? found
              have later : splitGroups most cut.2 = splitGroups other cut.2 :=
                ih (by omega) (by omega)
              simp only [later]

section Behind

variable {back : Text}

/-- A text that cannot close a group, and begins none, changes no group in front of it. -/
theorem splitGroup?_append_back {opening closing : Char} (s : Text) (free : closing ∉ back)
    (starts : ∀ c ∈ back.head?, Text.isSpace c = false ∧ c ≠ opening)
    : splitGroup? opening closing (s ++ back)
      = (splitGroup? opening closing s).map fun (group, rest) => (group, rest ++ back) := by
  cases start : s.dropWhile Text.isSpace with
  | nil =>
      have spaces : ∀ c ∈ s, Text.isSpace c = true := List.dropWhile_eq_nil_iff.mp start
      have behind : (s ++ back).dropWhile Text.isSpace = back :=
        Text.dropWhile_append spaces fun c head => (starts c head).1
      cases back with
      | nil => simp [splitGroup?, start]
      | cons c back => simp [splitGroup?, start, behind, (starts c rfl).2]
  | cons c inside =>
      have behind : (s ++ back).dropWhile Text.isSpace = c :: (inside ++ back) := by
        simp [List.dropWhile_append, start]
      have spaces : (s ++ back).takeWhile Text.isSpace = s.takeWhile Text.isSpace := by
        rw [List.takeWhile_append, if_neg]
        intro all
        have whole := congrArg List.length
          (List.takeWhile_append_dropWhile (p := Text.isSpace) (l := s))
        simp [start, all] at whole
      by_cases opens : c = opening
      · simp [splitGroup?, start, behind, spaces, opens, Text.splitFirst?_append inside free,
          Function.comp_def]
      · simp [splitGroup?, start, behind, opens]

theorem splitGroups_append_back (most : Nat) (s : Text) (free : ')' ∉ back)
    (starts : ∀ c ∈ back.head?, Text.isSpace c = false ∧ c ≠ '(')
    : splitGroups most (s ++ back) = ((splitGroups most s).1, (splitGroups most s).2 ++ back) := by
  induction most generalizing s with
  | zero => rfl
  | succ most ih =>
      simp only [splitGroups, splitGroup?_append_back s free starts]
      cases splitGroup? '(' ')' s with
      | none => rfl
      | some cut => simp [ih]

theorem splitArguments_append_back (s : Text) (noBracket : ']' ∉ back) (noParenthesis : ')' ∉ back)
    (starts : ∀ c ∈ back.head?, Text.isSpace c = false ∧ c ≠ '[' ∧ c ≠ '(')
    : splitArguments (s ++ back) = ((splitArguments s).1, (splitArguments s).2 ++ back) := by
  have options := splitGroup?_append_back s noBracket fun c head =>
    ⟨(starts c head).1, (starts c head).2.1⟩
  have groups (rest : Text)
      : splitGroups (rest ++ back).length (rest ++ back)
        = ((splitGroups rest.length rest).1, (splitGroups rest.length rest).2 ++ back) := by
    have bounds : splitGroups (rest ++ back).length rest = splitGroups rest.length rest :=
      splitGroups_congr (by simp) (Nat.le_refl _)
    rw [splitGroups_append_back _ rest noParenthesis fun c head =>
      ⟨(starts c head).1, (starts c head).2.2⟩, bounds]
  unfold splitArguments
  rw [options]
  cases splitGroup? '[' ']' s with
  | none => simp only [Option.map_none, Option.getD_none, groups]
  | some cut => simp only [Option.map_some, Option.getD_some, groups]

end Behind

-----------------------------------------------------------------------------------------
-- Marks with what belongs to them
-----------------------------------------------------------------------------------------

variable (d : Delimiter)

/-- An opening delimiter is a part of the text and begins with its mark. -/
theorem splitBegin?_eq_some {s text rest : Text}
    (found : d.splitBegin? s = some (text, rest))
    : text ++ rest = s ∧ beginMark d.kind.tag <+: text := by
  obtain ⟨behind, start, same⟩ := Option.map_eq_some_iff.mp found
  have whole := splitArguments_append behind
  rcases cut : splitArguments behind with ⟨arguments, remaining⟩
  simp only [cut, Prod.mk.injEq] at same whole
  obtain ⟨rfl, rfl⟩ := same
  refine ⟨?_, List.prefix_append _ _⟩
  rw [List.append_assoc, whole, Text.after?_eq_some_iff.mp start]

/-- There is an opening delimiter exactly where its mark stands. -/
theorem splitBegin?_eq_none_iff {s : Text}
    : d.splitBegin? s = none ↔ ¬ beginMark d.kind.tag <+: s := by
  simp [splitBegin?, Text.after?_eq_none_iff]

theorem splitEnd?_eq_some {s text rest : Text}
    (found : d.splitEnd? s = some (text, rest))
    : text ++ rest = s ∧ text = endMark d.kind.tag := by
  obtain ⟨behind, start, same⟩ := Option.map_eq_some_iff.mp found
  obtain ⟨rfl, rfl⟩ := Prod.mk.inj same
  exact ⟨Text.after?_eq_some_iff.mp start, rfl⟩

theorem splitEnd?_eq_none_iff {s : Text}
    : d.splitEnd? s = none ↔ ¬ endMark d.kind.tag <+: s := by
  simp [splitEnd?, Text.after?_eq_none_iff]

end Delimiter

end LatexFigures
