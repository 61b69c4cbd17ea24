import LatexFigures.Text.Ranges

/-! Classes of characters in one canonical form: ranges of code points in ascending order that
neither overlap nor touch. The number of these ranges is what a class weighs.
-/

namespace LatexFigures

/-- A set of characters, as ranges of code points whose ends belong to them. -/
structure CharClass where
  ranges : List (Nat × Nat)
deriving Repr, DecidableEq

namespace CharClass

/-- Membership. -/
def contains (cls : CharClass) (c : Char) : Bool := Text.liesIn cls.ranges c

/-- Puts a range in front of canonical ranges, none of which starts before it, and joins it
with those that it overlaps or touches.
-/
def joinFirst (low high : Nat) : List (Nat × Nat) → List (Nat × Nat)
  | [] => [(low, high)]
  | (nextLow, nextHigh) :: rest =>
      if nextLow ≤ high + 1 then joinFirst low (max high nextHigh) rest
      else (low, high) :: (nextLow, nextHigh) :: rest

/-- Puts a range in its place among canonical ranges. -/
def insertRange (low high : Nat) : List (Nat × Nat) → List (Nat × Nat)
  | [] => [(low, high)]
  | (nextLow, nextHigh) :: rest =>
      if low < nextLow then joinFirst low high ((nextLow, nextHigh) :: rest)
      else if low ≤ nextHigh + 1 then joinFirst nextLow (max high nextHigh) rest
      else (nextLow, nextHigh) :: insertRange low high rest

/-- The class of the characters in some ranges, which may come in any order. -/
def ofRanges (ranges : List (Nat × Nat)) : CharClass :=
  ⟨ranges.foldl (fun canonical (low, high) => insertRange low high canonical) []⟩

/-- The characters from (low) to (high). -/
def range (low high : Char) : CharClass := ⟨[(low.toNat, high.toNat)]⟩

/-- One character. -/
def single (c : Char) : CharClass := range c c

/-- No character. -/
def none : CharClass := ⟨[]⟩

/-- The union of several classes. -/
def oneOf (classes : List CharClass) : CharClass := ofRanges (classes.flatMap ranges)

/-- The largest code point. -/
def lastCodePoint : Nat := 0x10ffff

/-- The ranges from (start) on that canonical ranges leave free. -/
def gaps (start : Nat) : List (Nat × Nat) → List (Nat × Nat)
  | [] => if start ≤ lastCodePoint then [(start, lastCodePoint)] else []
  | (low, high) :: rest =>
      if start < low then (start, low - 1) :: gaps (high + 1) rest else gaps (high + 1) rest

/-- All other characters. -/
def complement (cls : CharClass) : CharClass := ⟨gaps 0 cls.ranges⟩

/-- The other case of the small ASCII letters in a range; in a range without any, the other
case of its capitals.
-/
def otherCase? (low high : Nat) : Option (Nat × Nat) :=
  let overlap (first last : Char) : Option (Nat × Nat) :=
    let low := max low first.toNat
    let high := min high last.toNat
    if low ≤ high then some (low, high) else .none
  match overlap 'a' 'z' with
  | some (low, high) => some (low - 32, high - 32)
  | .none => (overlap 'A' 'Z').map fun (low, high) => (low + 32, high + 32)

/-- Adds to each canonical range the other case of its letters; where a range holds letters of
both cases, the small ones alone count.
-/
def caseless (cls : CharClass) : CharClass :=
  ofRanges (cls.ranges ++ cls.ranges.filterMap fun (low, high) => otherCase? low high)

/-- An ASCII digit. -/
def digit : CharClass := range '0' '9'

/-- A small ASCII letter. -/
def lower : CharClass := range 'a' 'z'

/-- A capital ASCII letter. -/
def upper : CharClass := range 'A' 'Z'

/-- An ASCII letter. -/
def letter : CharClass := oneOf [upper, lower]

/-- ASCII white space. -/
def space : CharClass := oneOf [range '\t' '\r', single ' ']

/-- A character of a word: an ASCII letter or digit, or an underscore. -/
def word : CharClass := oneOf [digit, letter, single '_']

end CharClass

end LatexFigures
