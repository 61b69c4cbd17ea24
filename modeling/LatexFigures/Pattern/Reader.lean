import LatexFigures.Pattern.Reader.Bracket
import LatexFigures.Text.Alphanumeric

/-! Reading patterns from their written form. Look-around is refused, and so are patterns that
nest too deep or weigh too much. A text is escaped to be read as itself.
-/

namespace LatexFigures.Pattern

namespace Reader

/-- Counts of repetitions stay below this. -/
def countLimit : Nat := 0x100000000

/-- A decimal number between optional white space. -/
def decimal : Reader Nat := do
  modify fun s => { s with rest := s.rest.dropWhile Text.isBlank }
  let digits ← takeRun Char.isDigit
  modify fun s => { s with rest := s.rest.dropWhile Text.isBlank }
  let value := digits.foldl (fun value digit => 10 * value + (digit.toNat - 48)) 0
  if digits.isEmpty || countLimit ≤ value then refuse else return value

/-- Whether a repetition takes as much as it can, from the mark that may follow it. -/
def greediness : Reader Bool := do
  let lazy ← accept "?"
  return lazy == (← get).flags.swapGreed

/-- The bounds of a counted repetition, from its opening brace on. -/
def bounds : Reader (Nat × Option Nat) := do
  advancePast
  let least ← decimal
  let most ←
    if (← peek) = some ',' then do
      advancePast
      if (← peek) = some '\x7d' then pure none else some <$> decimal
    else pure (some least)
  expect '\x7d'
  passIgnored
  return (least, most)

/-- Sets one flag, given by its letter. The letter of Unicode matching is accepted and changes
nothing.
-/
def Flags.set? (flags : Flags) (letter : Char) (on : Bool) : Option Flags :=
  match letter with
  | 'i' => some { flags with caseless := on }
  | 'm' => some { flags with multiLine := on }
  | 's' => some { flags with dotAll := on }
  | 'U' => some { flags with swapGreed := on }
  | 'R' => some { flags with anyLineEnd := on }
  | 'x' => some { flags with verbose := on }
  | 'u' => some flags
  | _ => none

/-- Reads flag letters up to a colon or a closing parenthesis. No letter comes twice, and the
one dash after which flags are turned off is not the last character.
-/
def flagLetters (flags : Flags) (seen : Text) : Text → Option (Flags × Text)
  | [] => none
  | c :: rest =>
      if c = ':' ∨ c = ')' then
        if seen.head? = some '-' then none else some (flags, c :: rest)
      else if c ∈ seen then none
      else if c = '-' then flagLetters flags (c :: seen) rest
      else
        match Flags.set? flags c !(seen.contains '-') with
        | some flags => flagLetters flags (c :: seen) rest
        | none => none

/-- How a parenthesis begins. -/
inductive Opening
  | capture (name : Option String)
  | plain
  | flags

/-- May stand in the name of a group; a number or a bracket not at its start. -/
def isNameChar (first : Bool) (c : Char) : Bool :=
  c == '_' || Text.isAlphabetic c
    || (!first && (Text.isAlphanumeric c || c == '.' || c == '[' || c == ']'))

/-- The name of a group, up to its closing mark; no two groups share one. -/
def groupName : Reader String := do
  let s ← get
  match Text.splitFirst? '>' s.rest with
  | none => refuse
  | some (name, rest) =>
      match name with
      | [] => refuse
      | c :: more =>
          let text := String.ofList name
          if isNameChar true c && more.all (isNameChar false) && !s.names.contains text then
            set { s with rest, names := text :: s.names }
            return text
          else refuse

/-- The beginning of a group, after its parenthesis. -/
def opening : Reader Opening := do
  if (← accept "?=") || (← accept "?!") || (← accept "?<=") || (← accept "?<!") then refuse
  else if (← accept "?P<") || (← accept "?<") then return .capture (some (← groupName))
  else if ← accept "?" then
    let s ← get
    match flagLetters s.flags [] s.rest with
    | some (flags, ':' :: rest) =>
        set { s with flags, rest }
        return .plain
    | some (flags, rest) =>
        if rest.length = s.rest.length then refuse
        set { s with flags, rest }
        return .flags
    | none => refuse
  else return .capture none

/-- An element that is not part of the notation for groups, classes and repetitions. -/
def primitive (c : Char) : Reader Element := do
  let flags := (← get).flags
  match c with
  | '\\' => escape
  | '.' =>
      advance
      let ends : CharClass :=
        if flags.dotAll then .none
        else if flags.anyLineEnd then .oneOf [.single '\r', .single '\n']
        else .single '\n'
      return .set ends.complement
  | '^' =>
      advance
      return .condition <|
        if !flags.multiLine then .textStart
        else if flags.anyLineEnd then .anyLineStart else .lineStart
  | '$' =>
      advance
      return .condition <|
        if !flags.multiLine then .textEnd
        else if flags.anyLineEnd then .anyLineEnd else .lineEnd
  | c =>
      advance
      letter c

/-- The bounds of a repetition that starts with this mark. -/
def repetition (mark : Char) : Reader (Nat × Option Nat) := do
  match mark with
  | '?' => advance; return (0, some 1)
  | '*' => advance; return (0, none)
  | '+' => advance; return (1, none)
  | _ => bounds

/-- The alternatives up to the end or to a closing parenthesis, which is left in place. Of the
pieces read so far, (branches) holds those of finished alternatives, and (pieces) those of the
current one, latest first. Groups recurse, each (depth) one deeper; (fuel) bounds all steps.
-/
def alternatives : (fuel depth : Nat) → (branches pieces : List Piece) → Reader Piece
  | 0, _, _, _ => refuse
  | fuel + 1, depth, branches, pieces => do
      if nestingLimit < depth then refuse
      passIgnored
      match ← peek with
      | none => return .alternatives branches pieces
      | some ')' => if depth = 0 then refuse else return .alternatives branches pieces
      | some '|' =>
          advance
          alternatives fuel depth (.concat pieces.reverse :: branches) []
      | some '(' =>
          advancePast
          let flags := (← get).flags
          match ← opening with
          | .flags =>
              expect ')'
              alternatives fuel depth branches pieces
          | .plain =>
              -- the flags of the group itself are already set
              let body ← alternatives fuel (depth + 1) [] []
              expect ')'
              modify fun s => { s with flags }
              alternatives fuel depth branches (body :: pieces)
          | .capture name =>
              let index := (← get).nextGroup
              modify fun s => { s with nextGroup := index + 1 }
              let body ← alternatives fuel (depth + 1) [] []
              expect ')'
              modify fun s => { s with flags }
              alternatives fuel depth branches (body.group index name :: pieces)
      | some '[' =>
          let cls ← bracketClass
          alternatives fuel depth branches (.set cls :: pieces)
      | some c =>
          if c = '?' || c = '*' || c = '+' || c = '\x7b' then
            match pieces with
            | [] => refuse
            | piece :: pieces =>
                let (least, most) ← repetition c
                let greedy ← greediness
                if most.any (· < least) then refuse
                alternatives fuel depth branches (piece.repeated least most greedy :: pieces)
          else
            let element ← primitive c
            alternatives fuel depth branches (element.piece :: pieces)

end Reader

/-- Reads a pattern; none if it is not well formed, nests too deep or weighs too much. -/
def read? (s : Text) : Option Pattern := do
  let (piece, _) ← (Reader.alternatives (s.length + 1) 0 [] []).run { rest := s }
  piece.pattern?

/-- Has a meaning in patterns, in some place at least. -/
def isSpecial (c : Char) : Bool := "\\.+*?()|[]\x7b\x7d^$#&-~".toList.contains c

/-- Written so that each character stands for itself in a pattern. -/
def escape (s : Text) : Text := s.flatMap fun c => if isSpecial c then ['\\', c] else [c]

end LatexFigures.Pattern
