import LatexFigures.Pattern.Reader.Element

/-! Classes of characters in brackets. Classes within classes, other than those by name, and
operations on classes are refused.
-/

namespace LatexFigures.Pattern.Reader

/-- The classes with a name, which is written between colons and brackets. -/
def namedClass? : String → Option CharClass
  | "alnum" => some (.oneOf [.digit, .letter])
  | "alpha" => some .letter
  | "ascii" => some (.range '\x00' '\x7f')
  | "blank" => some (.oneOf [.single '\t', .single ' '])
  | "cntrl" => some (.oneOf [.range '\x00' '\x1f', .single '\x7f'])
  | "digit" => some .digit
  | "graph" => some (.range '!' '~')
  | "lower" => some .lower
  | "print" => some (.range ' ' '~')
  | "punct" => some (.oneOf [.range '!' '/', .range ':' '@', .range '[' '`', .range '\x7b' '~'])
  | "space" => some .space
  | "upper" => some .upper
  | "word" => some .word
  | "xdigit" => some (.oneOf [.digit, .range 'A' 'F', .range 'a' 'f'])
  | _ => none

/-- A class by name inside a class, from its opening bracket on. -/
def namedClass : Reader CharClass := do
  expect '['
  expect ':'
  let negated ← accept "^"
  let rest := (← get).rest
  let name := rest.takeWhile (· ≠ ':')
  modify fun s => { s with rest := rest.dropWhile (· ≠ ':') }
  expect ':'
  expect ']'
  match namedClass? (String.ofList name) with
  | some cls => return if negated then cls.complement else cls
  | none => refuse

/-- One element of a class. -/
def classElement : Reader Element := do
  match ← peek with
  | none => refuse
  | some '\\' => escape
  | some c =>
      advance
      return .letter c

/-- The set that an element of a class adds; assertions add none. -/
def elementSet : Element → Reader CharClass
  | .letter c => return .single c
  | .set cls => return cls
  | .condition _ => refuse

/-- The character behind a dash that decides whether the dash makes a range. In a verbose
pattern, white space is left out on the way to it, and so is the number sign of one comment,
but not what the comment says; if nothing else is left, the next character decides after all.
-/
def decidingChar? (verbose : Bool) (rest : Text) : Option Char :=
  if verbose then
    let significant :=
      match rest.dropWhile Text.isBlank with
      | '#' :: comment => comment.dropWhile Text.isBlank
      | significant => significant
    significant.head?.or rest.head?
  else rest.head?

/-- One element of a class, or a range between two single characters. A dash before the
closing bracket or before another dash does not make a range.
-/
def classRange : Reader CharClass := do
  let low ← classElement
  passIgnored
  let s ← get
  let decider := decidingChar? s.flags.verbose (s.rest.drop 1)
  match s.rest.head? with
  | none => refuse
  | some c =>
      if c ≠ '-' || decider = some ']' || decider = some '-' then elementSet low
      else
        advancePast
        match low, ← classElement with
        | .letter low, .letter high => if low ≤ high then return .range low high else refuse
        | _, _ => refuse

/-- The elements of a class up to its closing bracket; (fuel) bounds their number. -/
def classElements : (fuel : Nat) → List CharClass → Reader (List CharClass)
  | 0, _ => refuse
  | fuel + 1, classes => do
      passIgnored
      let rest := (← get).rest
      match rest with
      | [] => refuse
      | '[' :: _ => classElements fuel ((← namedClass) :: classes)
      | ']' :: _ =>
          advance
          return classes
      | '&' :: '&' :: _ | '-' :: '-' :: _ | '~' :: '~' :: _ => refuse
      | _ => classElements fuel ((← classRange) :: classes)

/-- Dashes at the head of a class, which stand for themselves. -/
def leadingDashes : (fuel : Nat) → List CharClass → Reader (List CharClass)
  | 0, _ => refuse
  | fuel + 1, classes => do
      if (← peek) = some '-' then
        advancePast
        leadingDashes fuel (.single '-' :: classes)
      else return classes

/-- A class, from its opening bracket on. A closing bracket at its head stands for itself. -/
def bracketClass : Reader CharClass := do
  advancePast
  let negated := (← peek) = some '^'
  if negated then advancePast
  let fuel := (← get).rest.length + 1
  let dashes ← leadingDashes fuel []
  let head ←
    if dashes.isEmpty && (← peek) = some ']' then do
      advancePast
      pure [.single ']']
    else pure dashes
  let classes ← classElements fuel head
  let cls := CharClass.oneOf classes
  let cls := if (← get).flags.caseless then cls.caseless else cls
  return if negated then cls.complement else cls

end LatexFigures.Pattern.Reader
