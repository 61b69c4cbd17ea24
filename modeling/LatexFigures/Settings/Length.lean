import LatexFigures.Number.Literal
import LatexFigures.Number.UnitScale

/-! Lengths: a decimal number and perhaps a unit of length. -/

namespace LatexFigures.Length

/-- Cuts a decimal number without a power of ten off the head of a text: digits with a point
behind or among them, or a point with digits behind it, after an optional sign.
-/
def splitNumber? (s : Text) : Option (Text × Text) :=
  let (sign, unsigned) :=
    match s with
    | '+' :: rest => (['+'], rest)
    | '-' :: rest => (['-'], rest)
    | rest => ([], rest)
  let whole := unsigned.takeWhile Char.isDigit
  match unsigned.dropWhile Char.isDigit with
  | '.' :: rest =>
      let fraction := rest.takeWhile Char.isDigit
      if whole.isEmpty && fraction.isEmpty then none
      else some (sign ++ whole ++ '.' :: fraction, rest.dropWhile Char.isDigit)
  | rest => if whole.isEmpty then none else some (sign ++ whole, rest)

/-- (number) of the named unit in output units. Without a name centimetres are meant, and an
unknown name leaves the number as it is.
-/
def scale (number : Float) (unit : String) : Float :=
  match unit with
  | "" | "cm" => number * Number.UnitScale.centimetre.raw
  | "mm" => number * Number.UnitScale.centimetre.raw / 10
  | "in" => number * 20
  | _ => number

/-- A length in output units; 0 if it cannot be read. -/
def read (s : Text) : Float :=
  match splitNumber? s.trim with
  | none => 0
  | some (number, rest) =>
      let unit := (rest.dropWhile Text.isSpace).takeWhile Char.isAlpha
      scale ((Number.Literal.read? number).getD 0) (String.ofList unit)

end LatexFigures.Length
