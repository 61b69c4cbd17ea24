/-! Finite binary64 numbers as a sign, a whole mantissa and a power of two. Rounding to whole
numbers and the floating remainder are computed exactly on this form.
-/

namespace LatexFigures.Number

/-- The quotient (numerator / denominator) to the nearest whole number, halves to even. -/
def nearestEven (numerator denominator : Nat) : Nat :=
  let quotient := numerator / denominator
  let twice := 2 * (numerator % denominator)
  if twice < denominator then quotient
  else if denominator < twice then quotient + 1
  else quotient + quotient % 2

/-- Positive infinity. -/
def infinity : Float := Float.ofBits 0x7ff0000000000000

/-- The canonical not-a-number. -/
def notANumber : Float := Float.ofBits 0x7ff8000000000000

/-- The leading bit of a normal mantissa, which is not stored: 2^52. -/
def leadingBit : Nat := 0x10000000000000

/-- (mantissa · 2^exponent), negated if (negative) holds. The sign is apart because zero has
two of them.
-/
structure Dyadic where
  negative : Bool
  mantissa : Nat
  exponent : Int
deriving Repr, DecidableEq

namespace Dyadic

/-- The parts of a finite float; the parts of other floats mean nothing. -/
def ofFloat (x : Float) : Dyadic :=
  let bits := x.toBits
  let field := ((bits >>> 52) &&& 0x7ff).toNat
  let fraction := (bits &&& 0xfffffffffffff).toNat
  { negative := bits >>> 63 != 0
    mantissa := if field = 0 then fraction else fraction + leadingBit
    exponent := (max field 1 : Nat) - 1075 }

/-- Gives (magnitude) the wanted sign. -/
def signed (negative : Bool) (magnitude : Float) : Float :=
  if negative then -magnitude else magnitude

/-- (mantissa / 2^places) to the nearest whole number, halves to even; exact for places ≤ 0. -/
def shiftNearest (mantissa : Nat) (places : Int) : Nat :=
  match places with
  | .ofNat places => nearestEven mantissa (1 <<< places)
  | .negSucc places => mantissa <<< (places + 1)

/-- The nearest float, halves to the even mantissa, infinite beyond the largest one. The
exponent field and the mantissa are added, so a carry out of the mantissa moves on to the
next binade by itself.
-/
def toFloat (d : Dyadic) : Float :=
  if d.mantissa = 0 then signed d.negative 0
  else
    let exponent := max (d.exponent + d.mantissa.log2 - 52) (-1074)
    let mantissa := shiftNearest d.mantissa (exponent - d.exponent)
    let bits := min ((exponent + 1074).toNat * leadingBit + mantissa) (0x7ff * leadingBit)
    signed d.negative (Float.ofBits bits.toUInt64)

/-- A number that lies on the same side of every float, and of every place halfway between two
floats, as the quotient (numerator / denominator): at least 64 of its bits, and behind them
one bit that is set if the others leave a remainder.
-/
def ofQuotient (numerator denominator : Nat) : Dyadic :=
  let places := 66 + denominator.log2 - numerator.log2
  let shifted := numerator <<< places
  { negative := false
    mantissa :=
      2 * (shifted / denominator) + (if shifted % denominator = 0 then 0 else 1)
    exponent := -(places : Int) - 1 }

/-- How many of the mantissa's low bits stand behind the binary point. -/
def places (d : Dyadic) : Nat := (-d.exponent).toNat

/-- The mantissa's whole part. -/
def whole (d : Dyadic) : Nat := d.mantissa >>> d.places

/-- No bit behind the binary point is set. -/
def isWhole (d : Dyadic) : Bool := 0 ≤ d.exponent || d.whole <<< d.places == d.mantissa

/-- The bit worth one half is set. -/
def reachesHalf (d : Dyadic) : Bool := d.mantissa.testBit (d.places - 1)

end Dyadic

/-- Rounds a finite float that is not whole to one of its two whole neighbours, whose
magnitude (choose) picks; leaves all others alone.
-/
@[inline] def toWhole (choose : Dyadic → Nat) (x : Float) : Float :=
  if x.isFinite then
    let d := Dyadic.ofFloat x
    if d.isWhole then x else Dyadic.signed d.negative (choose d).toUInt64.toFloat
  else x

/-- The greatest whole number that is not above (x). -/
def floor (x : Float) : Float :=
  toWhole (fun d => if d.negative then d.whole + 1 else d.whole) x

/-- The least whole number that is not below (x). -/
def ceil (x : Float) : Float :=
  toWhole (fun d => if d.negative then d.whole else d.whole + 1) x

/-- The whole part of (x), with its sign. -/
def trunc (x : Float) : Float := toWhole Dyadic.whole x

/-- The nearest whole number, halves away from zero. -/
def roundAway (x : Float) : Float :=
  toWhole (fun d => if d.reachesHalf then d.whole + 1 else d.whole) x

/-- The remainder of the division with a quotient cut to a whole number. It has the sign of
(x), and it is exact: both mantissas are brought to one exponent first.
-/
def remainder (x y : Float) : Float :=
  if x.isNaN || y.isNaN || x.isInf || y == 0 then notANumber
  else if y.isInf then x
  else
    let a := Dyadic.ofFloat x
    let b := Dyadic.ofFloat y
    let exponent := min a.exponent b.exponent
    let left := a.mantissa <<< (a.exponent - exponent).toNat
    let right := b.mantissa <<< (b.exponent - exponent).toNat
    Dyadic.toFloat { negative := a.negative, mantissa := left % right, exponent }

/-- The power of two with this exponent, which has to be that of a normal float. -/
def powerOfTwo (exponent : Int) : Float :=
  Float.ofBits ((exponent + 1023).toNat * leadingBit).toUInt64

/-- √(x² + y²) for x ≥ y ≥ 0 whose squares neither overflow nor vanish. The root of the rounded
sum is corrected once by what its own square misses.
-/
def correctedRoot (x y : Float) : Float :=
  let root := (x * x + y * y).sqrt
  let miss :=
    if root ≤ 2 * y then
      let excess := root - y
      x * (2 * excess - x) + (excess - 2 * (x - y)) * excess
    else
      let excess := root - x
      2 * excess * (x - 2 * y) + ((4 * excess - y) * y + excess * excess)
  root - miss / (2 * root)

/-- √(x² + y²) without overflow or underflow on the way. A side that is no more than 2^-54 of
the other one is only added to it, where the bound is computed so that it does not vanish;
very large and very small sides are scaled by 2^600.
-/
def hypotenuse (x y : Float) : Float :=
  if x.isInf || y.isInf then infinity
  else if x.isNaN || y.isNaN then notANumber
  else
    let larger := if x.abs < y.abs then y.abs else x.abs
    let smaller := if x.abs < y.abs then x.abs else y.abs
    let scale := powerOfTwo 600
    if powerOfTwo 511 < larger then
      if smaller ≤ larger * powerOfTwo (-54) then larger + smaller
      else correctedRoot (larger / scale) (smaller / scale) * scale
    else if smaller < powerOfTwo (-459) then
      if smaller / powerOfTwo (-54) ≤ larger then larger + smaller
      else correctedRoot (larger * scale) (smaller * scale) / scale
    else if smaller ≤ larger * powerOfTwo (-54) then larger + smaller
    else correctedRoot larger smaller

end LatexFigures.Number
