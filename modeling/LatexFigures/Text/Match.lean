import LatexFigures.Text.Basic

/-! Matches in a text, and the replacement of all that a search finds. -/

namespace LatexFigures.Text

/-- What a group of a match took: how many characters stand before it, and its text. -/
structure Group where
  start : Nat
  text : Text
deriving Repr, DecidableEq

/-- The group with (passed) more characters before it. -/
def Group.moved (passed : Nat) (g : Group) : Group := { g with start := passed + g.start }

theorem Group.moved_moved (passed more : Nat) (g : Group)
    : (g.moved passed).moved more = g.moved (more + passed) := by
  simp only [moved, Nat.add_assoc]

/-- A match in a text: how many characters stand before it, how many it covers, and its groups,
the whole match first. Groups that took no part are none.
-/
structure Match where
  start : Nat
  length : Nat
  groups : List (Option Group)
deriving Repr, DecidableEq

namespace Match

/-- The texts of all groups. -/
def texts (m : Match) : List (Option Text) := m.groups.map (·.map Group.text)

/-- The text of a group that took part. -/
def group? (m : Match) (index : Nat) : Option Text := m.texts[index]?.join

/-- No character lies in the match. -/
def isEmpty (m : Match) : Bool := m.length == 0

/-- The match with (passed) more characters before it. -/
def moved (passed : Nat) (m : Match) : Match :=
  { m with start := passed + m.start, groups := m.groups.map (·.map (Group.moved passed)) }

@[simp] theorem texts_moved (passed : Nat) (m : Match) : (m.moved passed).texts = m.texts := by
  simp only [texts, moved, List.map_map, Function.comp_def, Option.map_map]
  rfl

@[simp] theorem moved_moved (passed more : Nat) (m : Match)
    : (m.moved passed).moved more = m.moved (more + passed) := by
  simp only [moved, List.map_map, Function.comp_def, Option.map_map, Group.moved_moved,
    Nat.add_assoc]

end Match

/-- Finds the leftmost match in a text, which a character may precede. -/
abbrev Search := Option Char → Text → Option Match

/-- Replaces the matches from left to right; they do not overlap. The search goes on behind the
last character of a match, or behind the character after it if the match is empty. Directly
behind another match, which (adjacent) tells of the first place, an empty match does not count.
Matches are placed in a text of which (passed) characters stand before this part.
-/
def replaceFrom (search : Search) (f : Match → Text) (passed : Nat) (before : Option Char)
    (adjacent : Bool) (s : Text) : Text :=
  match search before s with
  | none => s
  | some m =>
      let inserted :=
        if adjacent && m.start == 0 && m.isEmpty then [] else f (m.moved passed)
      let covered := m.start + (m.length - 1)
      match _h : s.drop covered with
      | [] => s.take m.start ++ inserted
      | last :: rest =>
          s.take m.start ++ inserted ++ (if m.isEmpty then [last] else [])
            ++ replaceFrom search f (passed + covered + 1) (some last) (!m.isEmpty) rest
termination_by s.length
decreasing_by
  have := congrArg List.length _h
  simp only [List.length_drop, List.length_cons] at this
  omega

/-- Replaces all matches. -/
def replaceAll (search : Search) (f : Match → Text) (s : Text) : Text :=
  replaceFrom search f 0 none false s

end LatexFigures.Text
