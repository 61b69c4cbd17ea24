import LatexFigures.Pattern.Reader.Basic

/-! Elements of patterns and of classes: characters by themselves, and what a backslash
introduces. References back and classes by Unicode property are refused.
-/

namespace LatexFigures.Pattern

/-- What one element of a pattern or of a class stands for. -/
inductive Element
  | letter (c : Char)
  | set (cls : CharClass)
  | condition (a : Assertion)

/-- The element as a piece of a pattern. -/
def Element.piece : Element → Piece
  | .letter c => .letter c
  | .set cls => .set cls
  | .condition a => .condition a

namespace Reader

/-- A character that stands for itself, or for both of its cases. -/
def letter (c : Char) : Reader Element := do
  if (← get).flags.caseless && c.isAlpha then return .set (CharClass.single c).caseless
  else return .letter c

/-- The character with this number. -/
def charOfHex (digits : Text) : Reader Element := do
  let value := digits.foldl (fun value digit =>
    16 * value + (if digit.isDigit then digit.toNat - 48 else digit.toLower.toNat - 87)) 0
  if value.isValidChar then letter (Char.ofNat value) else refuse

/-- A digit of a hexadecimal number. -/
def isHexDigit (c : Char) : Bool :=
  c.isDigit || ('a' ≤ c && c ≤ 'f') || ('A' ≤ c && c ≤ 'F')

/-- Exactly (count) hexadecimal digits. -/
def hexDigits : (count : Nat) → Reader Text
  | 0 => return []
  | count + 1 => do
      match ← peek with
      | some c =>
          if isHexDigit c then
            advancePast
            return c :: (← hexDigits count)
          else refuse
      | none => refuse

/-- A character by number, after the letter that announces (count) digits; any count of digits
may stand in braces instead.
-/
def hexChar (count : Nat) : Reader Element := do
  advancePast
  if (← peek) = some '\x7b' then
    advancePast
    let digits ← takeRun isHexDigit
    expect '\x7d'
    passIgnored
    if digits.isEmpty then refuse else charOfHex digits
  else charOfHex (← hexDigits count)

/-- The names of the word assertions that stand in braces after `\b`. -/
def wordAssertion? : String → Option Assertion
  | "start" => some .wordStart
  | "end" => some .wordEnd
  | "start-half" => some .noWordBefore
  | "end-half" => some .noWordAfter
  | _ => none

/-- What follows `\b`: a name in braces, or nothing that belongs to it. Braces that do not
start with a letter or a dash are left for a counted repetition.
-/
def wordCondition : Reader Element := do
  if (← peek) ≠ some '\x7b' then return .condition .wordBoundary
  let before ← get
  advancePast
  let isNameChar (c : Char) : Bool := c.isAlpha || c == '-'
  match ← peek with
  | none => refuse
  | some c =>
      if isNameChar c then
        let name ← takeRun isNameChar
        expect '\x7d'
        match wordAssertion? (String.ofList name) with
        | some a => return .condition a
        | none => refuse
      else
        set before
        return .condition .wordBoundary

/-- The class that a letter after a backslash names. -/
def classOfLetter? : Char → Option CharClass
  | 'd' => some .digit
  | 's' => some .space
  | 'w' => some .word
  | 'D' => some CharClass.digit.complement
  | 'S' => some CharClass.space.complement
  | 'W' => some CharClass.word.complement
  | _ => none

/-- The control character that a letter after a backslash names. -/
def control? : Char → Option Char
  | 'a' => some '\x07'
  | 'f' => some '\x0c'
  | 't' => some '\t'
  | 'n' => some '\n'
  | 'r' => some '\r'
  | 'v' => some '\x0b'
  | _ => none

/-- The assertion that a character after a backslash names. -/
def assertion? : Char → Option Assertion
  | 'A' => some .textStart
  | 'z' => some .textEnd
  | 'B' => some .noWordBoundary
  | '<' => some .wordStart
  | '>' => some .wordEnd
  | _ => none

/-- What a backslash introduces. ASCII punctuation may always be written after one. -/
def escape : Reader Element := do
  advance
  match ← peek with
  | none => refuse
  | some 'x' => hexChar 2
  | some 'u' => hexChar 4
  | some 'U' => hexChar 8
  | some c =>
      advance
      match classOfLetter? c, control? c, assertion? c with
      | some cls, _, _ => return .set cls
      | _, some control, _ => letter control
      | _, _, some a => return .condition a
      | none, none, none =>
          if c = 'b' then wordCondition
          else if c.toNat < 128 && !c.isAlphanum then letter c
          else refuse

end Reader

end LatexFigures.Pattern
