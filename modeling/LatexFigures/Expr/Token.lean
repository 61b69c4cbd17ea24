import LatexFigures.Number.Literal

/-! The words of an expression. A word is as long as possible, and blanks may stand between
words but not inside one.
-/

namespace LatexFigures.Expr

/-- A word of an expression. -/
inductive Token
  | number (value : Float)
  /-- A name, without the path that may stand before it. -/
  | name (text : String)
  | plus | minus | times | dividedBy | modulo | power | opening | closing | comma
deriving Repr, DecidableEq

namespace Token

/-- May stand between words. -/
def isSpacing (c : Char) : Bool := c == ' ' || c == '\t' || c == '\r' || c == '\n'

/-- May begin a name. -/
def startsName (c : Char) : Bool := c.isAlpha || c == '_'

/-- May stand in a name. -/
def continuesName (c : Char) : Bool := c.isAlphanum || c == '_'

/-- The path that may stand before any name and means nothing. -/
def path : Text := "Math.".toList

/-- Cuts a name off, without its path. -/
def splitName? (s : Text) : Option (Text × Text) :=
  match (Text.after? path s).getD s with
  | [] => none
  | c :: rest =>
      if startsName c then
        some (c :: rest.takeWhile continuesName, rest.dropWhile continuesName)
      else none

/-- Cuts the power of ten of a number off, if a complete one comes next. -/
def splitExponent (s : Text) : Text × Text :=
  match s with
  | [] => ([], [])
  | mark :: rest =>
      let (sign, digits) :=
        match rest with
        | '+' :: digits => (['+'], digits)
        | '-' :: digits => (['-'], digits)
        | digits => ([], digits)
      if (mark == 'e' || mark == 'E') && digits.head?.any Char.isDigit then
        (mark :: sign ++ digits.takeWhile Char.isDigit, digits.dropWhile Char.isDigit)
      else ([], s)

/-- Cuts the digits of a number off, with a point among them, before or behind them. -/
def splitDigits? (s : Text) : Option (Text × Text) :=
  let whole := s.takeWhile Char.isDigit
  match s.dropWhile Char.isDigit with
  | '.' :: rest =>
      let fraction := rest.takeWhile Char.isDigit
      if whole.isEmpty && fraction.isEmpty then none
      else some (whole ++ '.' :: fraction, rest.dropWhile Char.isDigit)
  | rest => if whole.isEmpty then none else some (whole, rest)

/-- Cuts a number off. -/
def splitNumber? (s : Text) : Option (Float × Text) := do
  let (digits, rest) ← splitDigits? s
  let (exponent, rest) := splitExponent rest
  return (← Number.Literal.magnitude? (digits ++ exponent), rest)

/-- Cuts the first word off a text that does not begin with a blank. -/
def read? (s : Text) : Option (Token × Text) :=
  match s with
  | '+' :: rest => some (plus, rest)
  | '-' :: rest => some (minus, rest)
  | '*' :: '*' :: rest => some (power, rest)
  | '*' :: rest => some (times, rest)
  | '/' :: rest => some (dividedBy, rest)
  | '%' :: rest => some (modulo, rest)
  | '^' :: rest => some (power, rest)
  | '(' :: rest => some (opening, rest)
  | ')' :: rest => some (closing, rest)
  | ',' :: rest => some (comma, rest)
  | s =>
      match splitNumber? s with
      | some (value, rest) => some (number value, rest)
      | none => (splitName? s).map fun (text, rest) => (name (String.ofList text), rest)

/-- The words of a text. -/
def readAll? (s : Text) : Option (List Token) := readUpTo? s.length s
where
  /-- At most (fuel) words and blanks. -/
  readUpTo? : (fuel : Nat) → Text → Option (List Token)
    | _, [] => some []
    | 0, _ :: _ => none
    | fuel + 1, c :: rest =>
        if isSpacing c then readUpTo? fuel rest
        else
          match read? (c :: rest) with
          | some (token, rest) => (readUpTo? fuel rest).map (token :: ·)
          | none => none

end Token

end LatexFigures.Expr
