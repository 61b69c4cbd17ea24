import Mathlib.Data.List.TakeWhile
import LatexFigures.Drawing.Recognition
import LatexFigures.Proofs.Text.Cutting

/-! Commands in the form in which they are documented, and what their arguments may hold so that
this form tells them. Every argument is read off the head of a text that begins with it.
-/

namespace LatexFigures

-----------------------------------------------------------------------------------------
-- The documented form
-----------------------------------------------------------------------------------------

namespace Argument

/-- A text between delimiters. -/
def group (opening closing : Char) (s : Text) : Text := opening :: (s ++ [closing])

/-- An argument in braces. -/
def inBraces : Text → Text := group '\x7b' '\x7d'

/-- Options and decorations keep their delimiters. -/
def IsBlock (opening closing : Char) (block : Option Text) : Prop :=
  ∀ text ∈ block, ∃ inner, text = group opening closing inner ∧ closing ∉ inner

/-- Of some arguments only the last ones may be missing. -/
def MissingLast (arguments : List (Option Text)) : Prop :=
  arguments.IsChain fun earlier later => later.isSome → earlier.isSome

instance (arguments : List (Option Text)) : Decidable (MissingLast arguments) :=
  inferInstanceAs (Decidable (List.IsChain _ _))

theorem isBlock_iff {opening closing : Char} {block : Option Text}
    : IsBlock opening closing block
      ↔ ∀ text ∈ block, text = group opening closing text.tail.dropLast
          ∧ closing ∉ text.tail.dropLast := by
  refine forall_congr' fun text => forall_congr' fun _ => ?_
  constructor
  · rintro ⟨inner, rfl, free⟩
    have same : (group opening closing inner).tail.dropLast = inner := by simp [group]
    rw [same]
    exact ⟨rfl, free⟩
  · exact fun h => ⟨_, h⟩

instance (opening closing : Char) (block : Option Text)
    : Decidable (IsBlock opening closing block) :=
  decidable_of_iff' _ isBlock_iff

end Argument

open Argument

/-- The pair in parentheses. -/
def Pair.written (p : Pair) : Text := group '(' ')' (p.x ++ ',' :: p.y)

/-- There is no white space around the components, and the last comma is the one between them. -/
structure Pair.Writable (p : Pair) : Prop where
  trimmed : p.x.trim = p.x ∧ p.y.trim = p.y
  inside : ')' ∉ p.x ∧ ')' ∉ p.y
  cut : ',' ∉ p.y

instance (p : Pair) : Decidable p.Writable :=
  decidable_of_iff ((p.x.trim = p.x ∧ p.y.trim = p.y) ∧ (')' ∉ p.x ∧ ')' ∉ p.y) ∧ ',' ∉ p.y)
    ⟨fun h => ⟨h.1, h.2.1, h.2.2⟩, fun h => ⟨h.trimmed, h.inside, h.cut⟩⟩

namespace Command

/-- The expressions of a line that follows the pointer, in the order of their groups. -/
def UserLine.expressions (c : UserLine) : List (Option Text) := [c.x1, c.y1, c.x2, c.y2]

/-- The groups behind the macro of a command. A missing one is empty. -/
def groups : Command → List Text
  | .frame c => [c.options.getD [], c.p1.written, c.p2.written]
  | .circle c => [c.options.getD [], c.center.written, inBraces c.radius]
  | .arc c =>
      [c.options.getD [], c.arrows.getD [], c.center.elim [] Pair.written, inBraces c.radius,
        inBraces c.angleA, inBraces c.angleB]
  | .polygon c => c.options.getD [] :: c.points.map Pair.written
  | .axes c => c.options.getD [] :: c.arrows.getD [] :: c.pairs.map Pair.written
  | .line c =>
      [c.options.getD [], c.arrows.getD [], c.first.written, c.second.elim [] Pair.written]
  | .userLine c =>
      [c.options.getD [], c.arrows.getD [], c.p1.written, c.p2.written]
        ++ c.expressions.map (·.elim [] inBraces)
  | .plot c => [c.options.getD [], inBraces c.first, inBraces c.last, inBraces c.function]
  | .userVariable c =>
      [c.options.getD [], inBraces c.name.toList, c.anchor.written, inBraces c.expression]
  | .label c =>
      [c.refpoint.elim [] (group '[' ']'), c.rotation.elim [] inBraces, c.place.written,
        inBraces c.text]
  | .slider c =>
      [c.options.getD [], inBraces c.min, inBraces c.max, inBraces c.variableName.toList,
        inBraces c.label, inBraces c.value]
  | .settings c => [inBraces c.body]

/-- The command in its documented form. -/
def written (command : Command) : Text :=
  '\\' :: (command.kind.name.toList ++ command.groups.flatten)

/-- What the arguments of each kind may hold. -/
def ArgumentsFit : Command → Prop
  | .frame c => IsBlock '[' ']' c.options ∧ c.p1.Writable ∧ c.p2.Writable
  | .circle c => IsBlock '[' ']' c.options ∧ c.center.Writable ∧ '\x7d' ∉ c.radius
  | .arc c =>
      IsBlock '[' ']' c.options
      ∧ IsBlock '\x7b' '\x7d' c.arrows
      ∧ (∀ center ∈ c.center, center.Writable)
      ∧ '\x7d' ∉ c.radius
      ∧ '\x7d' ∉ c.angleA
      ∧ '\x7d' ∉ c.angleB
  | .polygon c => IsBlock '[' ']' c.options ∧ ∀ point ∈ c.points, point.Writable
  | .axes c =>
      IsBlock '[' ']' c.options
      ∧ IsBlock '\x7b' '\x7d' c.arrows
      ∧ (∀ pair ∈ c.pairs, pair.Writable)
      ∧ c.pairs ≠ []
      ∧ c.pairs.length ≤ 3
  | .line c =>
      IsBlock '[' ']' c.options
      ∧ IsBlock '\x7b' '\x7d' c.arrows
      ∧ c.first.Writable
      ∧ ∀ second ∈ c.second, second.Writable
  | .userLine c =>
      IsBlock '[' ']' c.options
      ∧ IsBlock '\x7b' '\x7d' c.arrows
      ∧ c.p1.Writable
      ∧ c.p2.Writable
      ∧ (∀ expression ∈ c.expressions, ∀ s ∈ expression, '\x7d' ∉ s)
      ∧ MissingLast c.expressions
  | .plot c =>
      IsBlock '[' ']' c.options ∧ '\x7d' ∉ c.first ∧ '\x7d' ∉ c.last ∧ '\x7d' ∉ c.function
  | .userVariable c =>
      IsBlock '[' ']' c.options
      ∧ '\x7d' ∉ c.name.toList
      ∧ Text.trim c.name.toList = c.name.toList
      ∧ c.anchor.Writable
      ∧ '\x7d' ∉ c.expression
  | .label c =>
      (∀ refpoint ∈ c.refpoint, ']' ∉ refpoint ∧ refpoint.head? ≠ some '[')
      ∧ (∀ rotation ∈ c.rotation, '\x7d' ∉ rotation)
      ∧ c.place.Writable
  | .slider c =>
      IsBlock '[' ']' c.options
      ∧ '\x7d' ∉ c.min
      ∧ '\x7d' ∉ c.max
      ∧ '\x7d' ∉ c.variableName.toList
      ∧ Text.trim c.variableName.toList = c.variableName.toList
      ∧ '\x7d' ∉ c.label
      ∧ '\x7d' ∉ c.value
  | .settings c => '\x7d' ∉ c.body

/-- The command can be told from its documented form: its arguments hold no delimiter that would
end them, no backslash and no line feed.
-/
structure Writable (command : Command) : Prop where
  plain : '\\' ∉ command.groups.flatten ∧ '\n' ∉ command.groups.flatten
  arguments : command.ArgumentsFit

instance : (command : Command) → Decidable command.ArgumentsFit
  | .frame _ | .circle _ | .arc _ | .polygon _ | .axes _ | .line _ | .userLine _ | .plot _
  | .userVariable _ | .label _ | .slider _ => inferInstanceAs (Decidable (_ ∧ _))
  | .settings _ => inferInstanceAs (Decidable (¬ _))

instance (command : Command) : Decidable command.Writable :=
  decidable_of_iff
    (('\\' ∉ command.groups.flatten ∧ '\n' ∉ command.groups.flatten) ∧ command.ArgumentsFit)
    ⟨fun h => ⟨h.1, h.2⟩, fun h => ⟨h.plain, h.arguments⟩⟩

end Command

-----------------------------------------------------------------------------------------
-- Reading written arguments
-----------------------------------------------------------------------------------------

namespace Argument

variable {opening closing : Char} {rest : Text}

theorem inner_group {s : Text} (free : closing ∉ s) (rest : Text)
    : inner opening closing (group opening closing s ++ rest) = some (s, rest) := by
  have cut : Text.splitFirst? closing (s ++ closing :: rest) = some (s, rest) :=
    Text.splitFirst?_eq_some_iff.mpr ⟨rfl, free⟩
  simp [group, inner, cut]

theorem inner_of_head (apart : rest.head? ≠ some opening) : inner opening closing rest = none := by
  cases rest with
  | nil => rfl
  | cons c rest =>
      have other : c ≠ opening := fun same => apart (congrArg some same)
      rw [inner, if_neg other]

theorem apart_of_group {mark : Char} (other : opening ≠ mark) (s rest : Text)
    : (group opening closing s ++ rest).head? ≠ some mark := fun same =>
  other (Option.some.inj same)

theorem apart_of_optional {α : Type} {write : α → Text} {mark : Char} {argument : Option α}
    (begins : ∀ a rest, (write a ++ rest).head? ≠ some mark) (apart : rest.head? ≠ some mark)
    : (argument.elim [] write ++ rest).head? ≠ some mark := by
  cases argument with
  | none => exact apart
  | some a => exact begins a rest

theorem apart_of_block {mark : Char} {block : Option Text} (fits : IsBlock opening closing block)
    (other : opening ≠ mark) (apart : rest.head? ≠ some mark)
    : (block.getD [] ++ rest).head? ≠ some mark := by
  cases block with
  | none => exact apart
  | some text =>
      obtain ⟨inner, rfl, -⟩ := fits text rfl
      exact apart_of_group other inner rest

/-- Nothing follows that could be taken for a pair or for an argument in braces. -/
def EndsGroups (rest : Text) : Prop := rest.head? ≠ some '(' ∧ rest.head? ≠ some '\x7b'

theorem endsGroups_nil : EndsGroups [] := ⟨nofun, nofun⟩

theorem braced_inBraces {s : Text} (free : '\x7d' ∉ s) (rest : Text)
    : braced (inBraces s ++ rest) = some (s, rest) :=
  inner_group free rest

theorem optional_group {s : Text} (free : closing ∉ s) (rest : Text)
    : optional opening closing (group opening closing s ++ rest)
      = (some (group opening closing s), rest) := by
  rw [optional, inner_group free]
  rfl

/-- A block that is missing is told by what follows it. -/
theorem optional_block {block : Option Text} (fits : IsBlock opening closing block)
    (apart : block = none → rest.head? ≠ some opening)
    : optional opening closing (block.getD [] ++ rest) = (block, rest) := by
  cases block with
  | none =>
      rw [Option.getD_none, List.nil_append, optional, inner_of_head (apart rfl)]
  | some text =>
      obtain ⟨inner, rfl, free⟩ := fits text rfl
      exact optional_group free rest

theorem bracedOptional_written {argument : Option Text} (fits : ∀ s ∈ argument, '\x7d' ∉ s)
    (apart : argument = none → rest.head? ≠ some '\x7b')
    : bracedOptional (argument.elim [] inBraces ++ rest) = (argument, rest) := by
  cases argument with
  | none =>
      have none : braced rest = none := inner_of_head (apart rfl)
      rw [Option.elim_none, List.nil_append, bracedOptional, none]
  | some s =>
      rw [Option.elim_some, bracedOptional, braced_inBraces (fits s rfl)]

section MissingLast

variable {argument : Option Text} {later : List (Option Text)}

/-- Behind a missing argument nothing is written. -/
theorem MissingLast.written_nil (order : MissingLast (none :: later))
    : (later.map (·.elim [] inBraces)).flatten = [] := by
  induction later with
  | nil => rfl
  | cons next later ih =>
      obtain ⟨first, rest⟩ := List.isChain_cons_cons.mp order
      obtain rfl : next = none :=
        Option.not_isSome_iff_eq_none.mp fun given => by simpa using first given
      exact ih rest

theorem MissingLast.bracedOptional (order : MissingLast (argument :: later))
    (fits : ∀ s ∈ argument, '\x7d' ∉ s) (ends : EndsGroups rest)
    : bracedOptional (((argument :: later).map (·.elim [] inBraces)).flatten ++ rest)
      = (argument, (later.map (·.elim [] inBraces)).flatten ++ rest) := by
  rw [List.map_cons, List.flatten_cons, List.append_assoc]
  refine bracedOptional_written fits fun missing => ?_
  subst missing
  rw [order.written_nil]
  exact ends.2

end MissingLast

theorem pair_written {p : Pair} (fits : p.Writable) (rest : Text)
    : pair (p.written ++ rest) = some (p, rest) := by
  have free : ')' ∉ p.x ++ ',' :: p.y := by simp [fits.inside]
  have cut := Text.splitLast?_append_cons p.x fits.cut
  rw [pair, Pair.written, inner_group free]
  simp [cut, fits.trimmed]

theorem pairOptional_written {p : Option Pair} (fits : ∀ q ∈ p, q.Writable)
    (apart : p = none → rest.head? ≠ some '(')
    : pairOptional (p.elim [] Pair.written ++ rest) = (p, rest) := by
  cases p with
  | none =>
      have none : pair rest = none := by
        rw [pair, inner_of_head (apart rfl)]
        rfl
      rw [Option.elim_none, List.nil_append, pairOptional, none]
  | some q =>
      rw [Option.elim_some, pairOptional, pair_written (fits q rfl)]

theorem takeWhile_of_unbroken {s : Text} (unbroken : '\n' ∉ s)
    : s.takeWhile (· ≠ '\n') = s ∧ s.dropWhile (· ≠ '\n') = [] := by
  have inside : ∀ c ∈ s, decide (c ≠ '\n') = true := fun c member =>
    decide_eq_true fun same => unbroken (same ▸ member)
  exact ⟨List.takeWhile_eq_self_iff.mpr inside, List.dropWhile_eq_nil_iff.mpr inside⟩

theorem bracedToLast_inBraces {s : Text} (unbroken : '\n' ∉ inBraces s)
    : bracedToLast (inBraces s) = some (s, []) := by
  have line : '\n' ∉ s ++ ['\x7d'] := fun inside => unbroken (List.mem_cons_of_mem _ inside)
  obtain ⟨all, nothing⟩ := takeWhile_of_unbroken line
  have cut : Text.splitLast? '\x7d' (s ++ ['\x7d']) = some (s, []) :=
    Text.splitLast?_append_cons s List.not_mem_nil
  rw [inBraces, group, bracedToLast, all, nothing, cut]
  rfl

theorem pairsFrom_length (front rest : Text)
    : pairsFrom front.length (front ++ rest) = pairsFrom 0 rest := by
  induction front with
  | nil => rfl
  | cons c front ih => rw [List.cons_append, List.length_cons, pairsFrom, ih]

/-- The pairs of a text of written ones, by induction on them. -/
theorem pairs_written {points : List Pair} (fits : ∀ point ∈ points, point.Writable)
    : pairs (points.map Pair.written).flatten = points := by
  induction points with
  | nil => rfl
  | cons point points ih =>
      have later := ih fun point inside => fits point (List.mem_cons_of_mem _ inside)
      have first := pair_written (fits point List.mem_cons_self)
        (points.map Pair.written).flatten
      obtain ⟨behind, start⟩ : ∃ behind, point.written = '(' :: behind := ⟨_, rfl⟩
      have skipped (rest : Text) : (behind ++ rest).length - rest.length = behind.length := by
        simp
      rw [start, List.cons_append] at first
      rw [List.map_cons, List.flatten_cons, start, List.cons_append, pairs, pairsFrom, first]
      simp only [skipped, pairsFrom_length]
      exact congrArg (point :: ·) later

theorem readPairs_written {points : List Pair} (fits : ∀ point ∈ points, point.Writable)
    {most : Nat} (enough : points.length ≤ most) (ends : EndsGroups rest)
    : Command.readPairs most ((points.map Pair.written).flatten ++ rest) = (points, rest) := by
  induction most generalizing points with
  | zero =>
      obtain rfl := List.length_eq_zero_iff.mp (Nat.le_zero.mp enough)
      rfl
  | succ most ih =>
      cases points with
      | nil =>
          have nothing := pairOptional_written (p := none) nofun fun _ => ends.1
          rw [Option.elim_none, List.nil_append] at nothing
          simp only [List.map_nil, List.flatten_nil, List.nil_append, Command.readPairs, nothing]
      | cons point points =>
          have later := ih (fun point inside => fits point (List.mem_cons_of_mem _ inside))
            (Nat.le_of_succ_le_succ enough)
          have first := pair_written (fits point List.mem_cons_self)
            ((points.map Pair.written).flatten ++ rest)
          simp only [List.map_cons, List.flatten_cons, List.append_assoc, Command.readPairs,
            pairOptional, first, later]

end Argument

end LatexFigures
