/-! Tables of code points, as ranges whose ends belong to them. -/

namespace LatexFigures.Text

/-- The code point lies in one of the ranges. -/
def liesIn (ranges : List (Nat × Nat)) (c : Char) : Bool :=
  ranges.any fun (low, high) => low ≤ c.toNat && c.toNat ≤ high

end LatexFigures.Text
