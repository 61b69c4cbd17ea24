import LatexFigures.Number.Scalar

/-! The grid on which plots are sampled: from one end of the domain on, in equal steps, the
other end included, and never more than a fixed number of samples.
-/

namespace LatexFigures.Sampling

open Number

variable {α : Type} [Scalar α]

/-- The distance of two samples in document units. -/
@[specialize] def step : α := (0.005 : α)

/-- How much of a step the far end may fall short of a sample. -/
@[specialize] def tolerance : α := (1e-9 : α)

/-- The largest number of samples of one plot. -/
def limit : Nat := 200000

/-- The number of samples, before it is taken as a natural number. -/
@[specialize] def countValue (first last : α) : α :=
  let steps := Scalar.floor ((last - first) / step + tolerance)
  let count :=
    if first ≤ last ∧ Scalar.ofNat 0 ≤ steps then steps + Scalar.ofNat 1 else Scalar.ofNat 0
  if Scalar.ofNat limit ≤ count then Scalar.ofNat limit else count

/-- The number of samples of a plot from (first) to (last). -/
@[specialize] def count (first last : α) : Nat := Scalar.toNat (countValue first last)

/-- The place of sample (i). -/
@[specialize] def sample (first : α) (i : Nat) : α := first + Scalar.ofNat i * step

/-- The places of all samples. -/
@[specialize] def grid (first last : α) : List α :=
  (List.range (count first last)).map (sample first)

end LatexFigures.Sampling
