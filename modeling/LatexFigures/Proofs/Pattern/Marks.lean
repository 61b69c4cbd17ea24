import LatexFigures.Environment.Delimiter
import Mathlib.Data.List.Basic

/-! Reading the patterns of marks. Whatever name a mark is for, its pattern is read character by
character, so that nothing but its weight can make it refused.
-/

namespace LatexFigures.Pattern

namespace Reader

variable {fuel depth next : Nat} {names : List String} {branches pieces : List Piece} {rest : Text}

-----------------------------------------------------------------------------------------
-- Elements
-----------------------------------------------------------------------------------------

/-- A character that has a meaning stands for itself behind a backslash. -/
theorem run_escape {c : Char} (special : isSpecial c = true) (rest : Text)
    : escape.run ⟨'\\' :: c :: rest, {}, next, names⟩
      = some (.letter c, ⟨rest, {}, next, names⟩) := by
  have each
      : "\\.+*?()|[]\x7b\x7d^$#&-~".toList.all
          (fun c => !"xuUb".toList.contains c && (classOfLetter? c).isNone && (control? c).isNone
            && (assertion? c).isNone && c.toNat < 128 && !c.isAlphanum)
        = true := by
    decide +kernel
  have plain := List.all_eq_true.mp each c (by simpa [isSpecial] using special)
  simp only [Bool.and_eq_true, Bool.not_eq_true', Option.isNone_iff_eq_none, decide_eq_true_eq]
    at plain
  obtain ⟨⟨⟨⟨⟨digits, cls⟩, control⟩, assertion⟩, ascii⟩, mark⟩ := plain
  simp at digits
  simp [escape, peek, advance, letter, digits, cls, control, assertion, ascii, mark]

/-- Everything but a closing parenthesis. -/
theorem run_bracketClass_parenthesis (rest : Text)
    : bracketClass.run ⟨'[' :: (['^', ')', ']'] ++ rest), {}, next, names⟩
      = some ((CharClass.single ')').complement, ⟨rest, {}, next, names⟩) :=
  rfl

/-- Everything but a closing bracket. -/
theorem run_bracketClass_bracket (rest : Text)
    : bracketClass.run ⟨'[' :: (['^', '\\', ']', ']'] ++ rest), {}, next, names⟩
      = some ((CharClass.single ']').complement, ⟨rest, {}, next, names⟩) :=
  rfl

-----------------------------------------------------------------------------------------
-- Steps
-----------------------------------------------------------------------------------------

theorem alternatives_end
    : (alternatives (fuel + 1) 0 branches pieces).run ⟨[], {}, next, names⟩
      = some (.alternatives branches pieces, ⟨[], {}, next, names⟩) :=
  rfl

/-- A closing parenthesis ends what stands in the parentheses. -/
theorem alternatives_close
    : (alternatives (fuel + 1) 1 branches pieces).run ⟨')' :: rest, {}, next, names⟩
      = some (.alternatives branches pieces, ⟨')' :: rest, {}, next, names⟩) :=
  rfl

section Shallow

variable (shallow : depth ≤ nestingLimit)
include shallow

/-- A character without any meaning stands for itself. -/
theorem alternatives_plain {c : Char} (plain : isSpecial c = false)
    : (alternatives (fuel + 1) depth branches pieces).run ⟨c :: rest, {}, next, names⟩
      = (alternatives fuel depth branches (.letter c :: pieces)).run ⟨rest, {}, next, names⟩ := by
  simp [isSpecial] at plain
  rw [alternatives]
  simp [Nat.not_lt.mpr shallow, plain, passIgnored, peek, advance, primitive, letter,
    Element.piece]

theorem alternatives_escaped {c : Char} (special : isSpecial c = true)
    : (alternatives (fuel + 1) depth branches pieces).run ⟨'\\' :: c :: rest, {}, next, names⟩
      = (alternatives fuel depth branches (.letter c :: pieces)).run ⟨rest, {}, next, names⟩ := by
  rw [alternatives]
  simp [Nat.not_lt.mpr shallow, passIgnored, peek, primitive, run_escape special, Element.piece]

/-- A text that was escaped is read as it is, by induction on the text. -/
theorem alternatives_escape (s : Text)
    : (alternatives (fuel + s.length) depth branches pieces).run
          ⟨Pattern.escape s ++ rest, {}, next, names⟩
      = (alternatives fuel depth branches ((s.map Piece.letter).reverse ++ pieces)).run
          ⟨rest, {}, next, names⟩ := by
  induction s generalizing pieces with
  | nil => rfl
  | cons c s ih =>
      rw [List.map_cons, List.reverse_cons, List.append_assoc, List.singleton_append, ← ih,
        List.length_cons, ← Nat.add_assoc, Pattern.escape, List.flatMap_cons]
      cases special : isSpecial c with
      | false => exact alternatives_plain shallow special
      | true => exact alternatives_escaped shallow special

theorem alternatives_space
    : (alternatives (fuel + 1) depth branches pieces).run ⟨'\\' :: 's' :: rest, {}, next, names⟩
      = (alternatives fuel depth branches (.set .space :: pieces)).run ⟨rest, {}, next, names⟩ := by
  have space : escape.run ⟨'\\' :: 's' :: rest, {}, next, names⟩
      = some (.set .space, ⟨rest, {}, next, names⟩) :=
    rfl
  rw [alternatives]
  simp [Nat.not_lt.mpr shallow, passIgnored, peek, primitive, space, Element.piece]

theorem alternatives_class {cls : CharClass} {s : Text}
    (read : bracketClass.run ⟨'[' :: s, {}, next, names⟩ = some (cls, ⟨rest, {}, next, names⟩))
    : (alternatives (fuel + 1) depth branches pieces).run ⟨'[' :: s, {}, next, names⟩
      = (alternatives fuel depth branches (.set cls :: pieces)).run ⟨rest, {}, next, names⟩ := by
  rw [alternatives]
  simp [Nat.not_lt.mpr shallow, passIgnored, peek, read]

/-- A mark of repetition takes up the piece before it, as often as possible. -/
theorem alternatives_repeated {mark : Char} {most : Option Nat} (piece : Piece)
    (repeats : (mark, most) ∈ [('*', none), ('?', some 1)]) (greedy : rest.head? ≠ some '?')
    : (alternatives (fuel + 1) depth branches (piece :: pieces)).run
          ⟨mark :: rest, {}, next, names⟩
      = (alternatives fuel depth branches (piece.repeated 0 most true :: pieces)).run
          ⟨rest, {}, next, names⟩ := by
  have noMark : Text.after? ['?'] rest = none := by
    cases rest with
    | nil => rfl
    | cons c rest =>
        have other : '?' ≠ c := fun same => greedy (by rw [same, List.head?_cons])
        simp [Text.after?, List.isPrefixOf?, other]
  rw [alternatives]
  simp only [List.mem_cons, Prod.mk.injEq, List.not_mem_nil, or_false] at repeats
  rcases repeats with ⟨rfl, rfl⟩ | ⟨rfl, rfl⟩
  all_goals
    simp [Nat.not_lt.mpr shallow, passIgnored, peek, repetition, advance, greediness, accept,
      noMark]

/-- Parentheses that remember nothing. -/
theorem alternatives_group {body : Piece} {s : Text}
    (read
      : (alternatives fuel (depth + 1) [] []).run ⟨s, {}, next, names⟩
        = some (body, ⟨')' :: rest, {}, next, names⟩))
    : (alternatives (fuel + 1) depth branches pieces).run
          ⟨'(' :: '?' :: ':' :: s, {}, next, names⟩
      = (alternatives fuel depth branches (body :: pieces)).run ⟨rest, {}, next, names⟩ := by
  have opens : opening.run ⟨'?' :: ':' :: s, {}, next, names⟩
      = some (.plain, ⟨s, {}, next, names⟩) := by
    simp [opening, accept, Text.after?, List.isPrefixOf?, flagLetters]
  rw [alternatives]
  simp [Nat.not_lt.mpr shallow, passIgnored, peek, advancePast, advance, opens, read, expect]

end Shallow

-----------------------------------------------------------------------------------------
-- Groups behind an opening mark
-----------------------------------------------------------------------------------------

/-- White space, a character, anything up to another one, and that one. -/
def argumentPiece (opening closing : Char) : Piece :=
  .concat
    [ (Piece.set .space).repeated 0 none true, .letter opening,
      (Piece.set (CharClass.single closing).complement).repeated 0 none true, .letter closing ]

/-- By one step for each element. -/
theorem alternatives_argument {opening closing : Char} (inner : Text)
    (opens : isSpecial opening = true) (closes : isSpecial closing = true)
    (read
      : ∀ rest,
          bracketClass.run ⟨'[' :: (inner ++ rest), {}, next, names⟩
          = some ((CharClass.single closing).complement, ⟨rest, {}, next, names⟩))
    : (alternatives (fuel + 7) 1 [] []).run
          ⟨'\\' :: 's' :: '*' :: '\\' :: opening :: '['
              :: (inner ++ '*' :: '\\' :: closing :: ')' :: rest),
            {}, next, names⟩
      = some (argumentPiece opening closing, ⟨')' :: rest, {}, next, names⟩) := by
  have shallow : 1 ≤ nestingLimit := by decide
  rw [alternatives_space shallow, alternatives_repeated shallow _ (.head _) (by simp),
    alternatives_escaped shallow opens, alternatives_class shallow (read _),
    alternatives_repeated shallow _ (.head _) (by simp), alternatives_escaped shallow closes,
    alternatives_close]
  rfl

/-- Groups in parentheses. -/
def parenthesesPiece : Piece := (argumentPiece '(' ')').repeated 0 none true

/-- A group in brackets, or none. -/
def bracketsPiece : Piece := (argumentPiece '[' ']').repeated 0 (some 1) true

theorem alternatives_arguments
    : (alternatives (fuel + 10) 0 [] pieces).run ⟨Delimiter.argumentsPattern, {}, next, names⟩
      = some (.alternatives [] (parenthesesPiece :: bracketsPiece :: pieces),
          ⟨[], {}, next, names⟩) := by
  have shallow : 0 ≤ nestingLimit := Nat.zero_le _
  have written : Delimiter.argumentsPattern
      = '(' :: '?' :: ':' :: '\\' :: 's' :: '*' :: '\\' :: '[' :: '['
        :: (['^', '\\', ']', ']'] ++ '*' :: '\\' :: ']' :: ')' :: '?'
        :: '(' :: '?' :: ':' :: '\\' :: 's' :: '*' :: '\\' :: '(' :: '['
        :: (['^', ')', ']'] ++ '*' :: '\\' :: ')' :: ')' :: ['*'])) := by
    decide +kernel
  rw [written,
    alternatives_group shallow (alternatives_argument _ rfl rfl run_bracketClass_bracket),
    alternatives_repeated shallow _ (.tail _ (.head _)) (by simp),
    alternatives_group shallow (alternatives_argument _ rfl rfl run_bracketClass_parenthesis),
    alternatives_repeated shallow _ (.head _) (by simp), alternatives_end, parenthesesPiece,
    bracketsPiece]

end Reader

-----------------------------------------------------------------------------------------
-- Whole patterns
-----------------------------------------------------------------------------------------

theorem length_le_length_escape (s : Text) : s.length ≤ (escape s).length := by
  induction s with
  | nil => exact Nat.zero_le _
  | cons c s ih =>
      rw [escape, List.flatMap_cons, ← escape, List.length_append, List.length_cons]
      cases isSpecial c <;> simp <;> omega

/-- An escaped text in front of something that is read behind any pieces. -/
theorem read?_escape_append (s : Text) {tail : Text} {more : List Piece}
    (read
      : ∀ fuel pieces,
          (Reader.alternatives (fuel + tail.length + 1) 0 [] pieces).run ⟨tail, {}, 1, []⟩
          = some (.alternatives [] (more.reverse ++ pieces), ⟨[], {}, 1, []⟩))
    : read? (escape s ++ tail) = (Piece.concat (s.map Piece.letter ++ more)).pattern? := by
  obtain ⟨fuel, size⟩ := Nat.exists_eq_add_of_le (length_le_length_escape s)
  have enough : (escape s ++ tail).length + 1 = fuel + tail.length + 1 + s.length := by
    rw [List.length_append, size]
    omega
  rw [read?, enough, Reader.alternatives_escape (Nat.zero_le _), List.append_nil, read]
  simp [Piece.alternatives, Piece.choice]

-----------------------------------------------------------------------------------------
-- Weights
-----------------------------------------------------------------------------------------

theorem groupBound_sequence {parts : List Pattern} (each : ∀ p ∈ parts, p.groupBound = 1)
    : (sequence parts).groupBound = 1 := by
  induction parts with
  | nil => rfl
  | cons p parts ih =>
      obtain ⟨first, later⟩ := List.forall_mem_cons.mp each
      have rest := ih later
      rw [sequence] at rest ⊢
      rw [List.foldr_cons, groupBound, first, rest, Nat.max_self]

theorem groupNames_sequence {parts : List Pattern} (each : ∀ p ∈ parts, p.groupNames = [])
    : (sequence parts).groupNames = [] := by
  induction parts with
  | nil => rfl
  | cons p parts ih =>
      obtain ⟨first, later⟩ := List.forall_mem_cons.mp each
      have rest := ih later
      rw [sequence] at rest ⊢
      rw [List.foldr_cons, groupNames, first, rest, List.nil_append]

namespace Piece

/-- The piece nests little and remembers nothing. -/
structure IsSimple (piece : Piece) : Prop where
  nesting : piece.nesting < nestingLimit
  noGroup : piece.pattern.groupBound = 1
  noName : piece.pattern.groupNames = []

instance (piece : Piece) : Decidable piece.IsSimple :=
  decidable_of_iff
    (piece.nesting < nestingLimit ∧ piece.pattern.groupBound = 1 ∧ piece.pattern.groupNames = [])
    ⟨fun ⟨nesting, noGroup, noName⟩ => ⟨nesting, noGroup, noName⟩,
      fun simple => ⟨simple.nesting, simple.noGroup, simple.noName⟩⟩

theorem totalWeight_append (pieces more : List Piece)
    : totalWeight (pieces ++ more) = totalWeight pieces + totalWeight more := by
  simp only [totalWeight, ← List.sum_eq_foldl_nat, List.map_append, List.sum_append]

theorem totalWeight_letters (s : Text) : totalWeight (s.map letter) = 32 * s.length := by
  induction s with
  | nil => rfl
  | cons c s ih =>
      rw [List.map_cons, ← List.singleton_append, totalWeight_append, ih, List.length_cons]
      have single : totalWeight [letter c] = 32 := rfl
      omega

theorem isSimple_letter (c : Char) : (letter c).IsSimple :=
  ⟨(by decide : 0 < nestingLimit), rfl, rfl⟩

/-- Pieces that remember nothing are refused for their weights only. What it takes to remember the
whole match always weighs the same.
-/
theorem isSome_pattern?_concat {pieces : List Piece} (simple : ∀ p ∈ pieces, p.IsSimple)
    (several : 1 < pieces.length)
    : (concat pieces).pattern?.isSome = true
      ↔ totalWeight pieces + 112 ≤ weightLimit := by
  have whole : concat pieces
      = ⟨sequence (pieces.map Piece.pattern), nestingAbove pieces, totalWeight pieces⟩ := by
    match pieces, several with
    | _ :: _ :: _, _ => rfl
  have nests : ¬ nestingLimit < nestingAbove pieces := by
    have most : (pieces.map Piece.nesting).foldl max 0 ≤ nestingLimit - 1 := by
      refine List.foldlRecOn (motive := (· ≤ nestingLimit - 1)) _ max (Nat.zero_le _) ?_
      intro most deep nesting member
      obtain ⟨piece, inside, rfl⟩ := List.mem_map.mp member
      exact Nat.max_le.mpr ⟨deep, Nat.le_sub_one_of_lt (simple piece inside).nesting⟩
    have positive : 0 < nestingLimit := by decide
    rw [nestingAbove]
    omega
  have noGroup : (sequence (pieces.map Piece.pattern)).groupBound = 1 :=
    groupBound_sequence (by simpa using fun p inside => (simple p inside).noGroup)
  have noName : (sequence (pieces.map Piece.pattern)).groupNames = [] :=
    groupNames_sequence (by simpa using fun p inside => (simple p inside).noName)
  have weighs : (concat pieces).patternWeight = totalWeight pieces + 112 := by
    rw [whole, patternWeight, group, noGroup, noName]
    rfl
  rw [pattern?, weighs, whole]
  simp [nests]

end Piece

end LatexFigures.Pattern
