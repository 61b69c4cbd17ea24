import LatexFigures.Number.Dyadic

/-! Decimal forms of floats: the fewest digits that read back as the same float, or a given
count of significant digits, written with a power of ten or without one. All choices are made
in whole numbers.
-/

namespace LatexFigures.Number

/-- The positive number (coefficient · 10^exponent). -/
structure Decimal where
  coefficient : Nat
  exponent : Int
deriving Repr, DecidableEq

namespace Decimal

/-- A positive quotient of whole numbers. -/
structure Ratio where
  numerator : Nat
  denominator : Nat

/-- (mantissa · 2^exponent) as a quotient. -/
def Ratio.ofBinary (mantissa : Nat) (exponent : Int) : Ratio :=
  ⟨mantissa <<< exponent.toNat, 1 <<< (-exponent).toNat⟩

/-- The quotient divided by 10^exponent. -/
def Ratio.scaleDown (r : Ratio) (exponent : Int) : Ratio :=
  ⟨r.numerator * Nat.pow 10 (-exponent).toNat, r.denominator * Nat.pow 10 exponent.toNat⟩

/-- The quotient is at least one. -/
def Ratio.reachesOne (r : Ratio) : Bool := r.denominator ≤ r.numerator

/-- The power of ten that the leading digit of (r) stands for. Bit lengths give it up to one;
comparisons settle the rest.
-/
def Ratio.order (r : Ratio) : Int :=
  let guess := ((r.numerator.log2 : Int) - r.denominator.log2) * 30103 / 100000
  if (r.scaleDown (guess + 1)).reachesOne then guess + 1
  else if (r.scaleDown guess).reachesOne then guess
  else guess - 1

/-- Moves the zeros at the end of the coefficient into the exponent, at most (count) of them. -/
def trimZeros : (count : Nat) → Decimal → Decimal
  | 0, d => d
  | count + 1, d =>
      if d.coefficient % 10 = 0 then trimZeros count ⟨d.coefficient / 10, d.exponent + 1⟩ else d

/-- The numbers that round to a float lie between two ends; (closed) tells whether the ends
themselves do.
-/
structure Interval where
  low : Ratio
  value : Ratio
  high : Ratio
  closed : Bool

/-- The interval of a positive finite float. Below a power of two the next float is only half
as far away; an even mantissa wins its ends.
-/
def Interval.ofDyadic (d : Dyadic) : Interval :=
  let narrow := d.mantissa = leadingBit ∧ -1074 < d.exponent
  { low := .ofBinary (4 * d.mantissa - (if narrow then 1 else 2)) (d.exponent - 2)
    value := .ofBinary (4 * d.mantissa) (d.exponent - 2)
    high := .ofBinary (4 * d.mantissa + 2) (d.exponent - 2)
    closed := d.mantissa % 2 = 0 }

/-- (candidate · 10^exponent) lies in the interval. -/
def Interval.holds (i : Interval) (candidate : Nat) (exponent : Int) : Bool :=
  let low := i.low.scaleDown exponent
  let high := i.high.scaleDown exponent
  if i.closed then
    low.numerator ≤ candidate * low.denominator && candidate * high.denominator ≤ high.numerator
  else
    low.numerator < candidate * low.denominator && candidate * high.denominator < high.numerator

/-- The neighbour of the value on the grid of multiples of 10^exponent that reads back as it;
if both do, the nearer one, and of two equally near ones the greater.
-/
def Interval.onGrid? (i : Interval) (exponent : Int) : Option Nat :=
  let scaled := i.value.scaleDown exponent
  let below := scaled.numerator / scaled.denominator
  let nearer := (2 * scaled.numerator + scaled.denominator) / (2 * scaled.denominator)
  let other := if nearer = below then below + 1 else below
  if i.holds nearer exponent then some nearer
  else if i.holds other exponent then some other
  else none

/-- The first grid that holds a number of the interval, from (places) below the leading digit
on, through at most (more) finer ones.
-/
def Interval.fewest (i : Interval) (order : Int) : (more places : Nat) → Decimal
  | 0, places => ⟨(i.onGrid? (order - places)).getD 0, order - places⟩
  | more + 1, places =>
      match i.onGrid? (order - places) with
      | some coefficient => ⟨coefficient, order - places⟩
      | none => i.fewest order more (places + 1)

/-- The fewest digits that read back as the same positive finite float. -/
def shortest (d : Dyadic) : Decimal :=
  let i := Interval.ofDyadic d
  trimZeros 20 (i.fewest i.value.order 16 0)

/-- A positive finite float to (digits) significant digits, halves to even, without zeros at
the end.
-/
def rounded (digits : Nat) (d : Dyadic) : Decimal :=
  let value := Ratio.ofBinary d.mantissa d.exponent
  let exponent := value.order - (digits - 1 : Nat)
  let scaled := value.scaleDown exponent
  trimZeros (digits + 1) ⟨nearestEven scaled.numerator scaled.denominator, exponent⟩

/-- One digit before the point and a power of ten, whose plus sign is left out. -/
def scientific (d : Decimal) : String :=
  let digits := Nat.toDigits 10 d.coefficient
  let exponent := d.exponent + (digits.length - 1 : Nat)
  let mantissa :=
    match digits with
    | first :: second :: more => String.ofList (first :: '.' :: second :: more)
    | short => String.ofList short
  mantissa ++ "e" ++ toString exponent

/-- All digits around the point, without a power of ten. -/
def positional (d : Decimal) : String :=
  let digits := Nat.toDigits 10 d.coefficient
  match d.exponent with
  | .ofNat zeros => String.ofList (digits ++ List.replicate zeros '0')
  | .negSucc places =>
      let places := places + 1
      let padded := List.replicate (places + 1 - digits.length) '0' ++ digits
      let whole := padded.take (padded.length - places)
      String.ofList (whole ++ '.' :: padded.drop (padded.length - places))

end Decimal

/-- The text of a float, whose finite positive magnitudes (write) writes and whose zero reads
(zero).
-/
def written (zero : String) (write : Dyadic → String) (x : Float) : String :=
  if x.isNaN then "NaN"
  else
    let d := Dyadic.ofFloat x
    let magnitude := if x.isInf then "inf" else if d.mantissa = 0 then zero else write d
    if d.negative then "-" ++ magnitude else magnitude

/-- The fewest digits that read back, with a power of ten; or the given count of digits. -/
def scientific (digits : Option Nat) (x : Float) : String :=
  written "0e0" (fun d => ((digits.elim Decimal.shortest Decimal.rounded) d).scientific) x

/-- The fewest digits that read back, without a power of ten. -/
def positional (x : Float) : String :=
  written "0" (fun d => (Decimal.shortest d).positional) x

end LatexFigures.Number
