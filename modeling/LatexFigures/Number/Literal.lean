import LatexFigures.Number.Dyadic
import LatexFigures.Text.Basic

/-! Decimal literals: an optional sign, digits with an optional point, an optional power of
ten; or a sign and a name of infinity or of not a number. The value is the nearest float.
-/

namespace LatexFigures.Number.Literal

/-- The number that a run of digits writes. -/
def digitsValue (digits : Text) : Nat :=
  digits.foldl (fun value digit => 10 * value + (digit.toNat - '0'.toNat)) 0

/-- The float nearest to (coefficient · 10^exponent). Powers far beyond the range of floats
are settled without being computed.
-/
def scaled (coefficient : Nat) (exponent : Int) : Float :=
  if coefficient = 0 then 0
  else
    let magnitude := (Nat.toDigits 10 coefficient).length + exponent
    if 310 < magnitude then infinity
    else if magnitude < -330 then 0
    else
      Dyadic.toFloat <|
        match exponent with
        | .ofNat places => .ofQuotient (coefficient * Nat.pow 10 places) 1
        | .negSucc places => .ofQuotient coefficient (Nat.pow 10 (places + 1))

/-- Takes a sign off; none counts as plus. -/
def splitSign : Text → Bool × Text
  | '-' :: rest => (true, rest)
  | '+' :: rest => (false, rest)
  | rest => (false, rest)

/-- Reads a power of ten, from its mark to the end. -/
def exponent? : Text → Option Int
  | [] => some 0
  | mark :: rest =>
      let (negative, digits) := splitSign rest
      if (mark == 'e' || mark == 'E') && !digits.isEmpty && digits.all Char.isDigit then
        some (if negative then -(digitsValue digits : Int) else digitsValue digits)
      else none

/-- Reads a literal without sign. -/
def magnitude? (s : Text) : Option Float :=
  match String.ofList (s.map Char.toLower) with
  | "inf" | "infinity" => some infinity
  | "nan" => some notANumber
  | _ =>
      let whole := s.takeWhile Char.isDigit
      let (fraction, rest) :=
        match s.dropWhile Char.isDigit with
        | '.' :: rest => (rest.takeWhile Char.isDigit, rest.dropWhile Char.isDigit)
        | rest => ([], rest)
      if whole.isEmpty && fraction.isEmpty then none
      else
        (exponent? rest).map fun exponent =>
          scaled (digitsValue (whole ++ fraction)) (exponent - fraction.length)

/-- Reads a whole text as a literal. -/
def read? (s : Text) : Option Float :=
  let (negative, magnitude) := splitSign s
  (magnitude? magnitude).map (Dyadic.signed negative)

/-- Reads a whole text as a literal of a finite number. -/
def finite? (s : Text) : Option Float := (read? s).filter Float.isFinite

end LatexFigures.Number.Literal
