import Mathlib.Data.List.Range
import Mathlib.Data.Rat.Floor
import Mathlib.Tactic.Linarith
import Mathlib.Tactic.Ring
import LatexFigures.Drawing.Sampling

/-! The grid of a plot, in exact arithmetic. A place is sampled exactly if the limit allows for it
and it does not lie beyond the end of the domain by more than the tolerance. How many samples there
are, and where the last one lies, follows from that alone.
-/

namespace LatexFigures.Sampling

open Number

variable {first last : Rat} {i k : Nat}

-----------------------------------------------------------------------------------------
-- Places
-----------------------------------------------------------------------------------------

theorem step_pos : (0 : Rat) < step := by decide +kernel

/-- What a sample may lie beyond the end: something, but less than a step. -/
theorem excess_bounds : (0 : Rat) < tolerance * step ∧ tolerance * step < (step : Rat) := by
  decide +kernel

theorem sample_eq (first : Rat) (i : Nat) : sample first i = first + i * step := rfl

theorem sample_zero (first : Rat) : sample first 0 = first := by
  rw [sample_eq, Nat.cast_zero, zero_mul, add_zero]

theorem sample_succ (first : Rat) (i : Nat) : sample first (i + 1) = sample first i + step := by
  rw [sample_eq, sample_eq, Nat.cast_succ]
  ring

-----------------------------------------------------------------------------------------
-- How many there are
-----------------------------------------------------------------------------------------

theorem toNat_natCast (n : Nat) : Scalar.toNat (n : Rat) = n := by
  change ⌊(n : Rat)⌋.toNat = n
  rw [Int.floor_natCast, Int.toNat_natCast]

theorem floor_of_nonneg {q : Rat} (nonneg : 0 ≤ q) : Scalar.floor q = (⌊q⌋₊ : Rat) :=
  (natCast_floor_eq_intCast_floor nonneg).symm

/-- The steps to the end, with the tolerance. -/
theorem steps_nonneg (ordered : first ≤ last) : 0 ≤ (last - first) / step + (tolerance : Rat) := by
  have steps : 0 ≤ (last - first) / step := div_nonneg (sub_nonneg.mpr ordered) step_pos.le
  have tolerant : (0 : Rat) ≤ tolerance := by decide +kernel
  exact add_nonneg steps tolerant

/-- One sample more than there are whole steps, unless the limit is below that. -/
theorem count_eq (ordered : first ≤ last)
    : count first last = min limit (⌊(last - first) / step + tolerance⌋₊ + 1) := by
  generalize whole : ⌊(last - first) / step + tolerance⌋₊ = n
  have floor : Scalar.floor ((last - first) / step + tolerance) = (n : Rat) := by
    rw [floor_of_nonneg (steps_nonneg ordered), whole]
  have inside : first ≤ last ∧ Scalar.ofNat 0 ≤ (n : Rat) := ⟨ordered, n.cast_nonneg⟩
  have succ : (n : Rat) + Scalar.ofNat 1 = ((n + 1 : Nat) : Rat) := (Nat.cast_succ n).symm
  have limited : (Scalar.ofNat limit : Rat) ≤ ((n + 1 : Nat) : Rat) ↔ limit ≤ n + 1 := Nat.cast_le
  simp only [count, countValue, floor, if_pos inside, succ, limited]
  split
  · rename_i above
    rw [min_eq_left above]
    exact toNat_natCast limit
  · rename_i below
    rw [min_eq_right (not_le.mp below).le, toNat_natCast]

/-- A place is sampled exactly if it comes below the limit and does not lie too far beyond the end.
-/
theorem lt_count_iff (ordered : first ≤ last)
    : i < count first last ↔ i < limit ∧ sample first i ≤ last + tolerance * step := by
  have reach
      : (i : Rat) ≤ (last - first) / step + tolerance
        ↔ sample first i ≤ last + tolerance * step := by
    rw [sample_eq, ← sub_le_iff_le_add, le_div_iff₀ step_pos, sub_mul]
    constructor <;> intro below <;> linarith
  rw [count_eq ordered, lt_min_iff, Nat.lt_succ_iff, Nat.le_floor_iff (steps_nonneg ordered), reach]

-----------------------------------------------------------------------------------------
-- The samples
-----------------------------------------------------------------------------------------

theorem length_grid (first last : Rat) : (grid first last).length = count first last := by
  rw [grid, List.length_map, List.length_range]

theorem isChain_grid (first last : Rat)
    : (grid first last).IsChain fun here next => next - here = step := by
  rw [grid, List.isChain_map, List.isChain_range]
  intro i _
  rw [sample_succ, add_sub_cancel_left]

/-- The last of some samples. -/
theorem getLast?_grid (counted : count first last = k + 1)
    : (grid first last).getLast? = some (sample first k) := by
  rw [grid, counted, List.range_succ, List.map_append, List.map_singleton, List.getLast?_concat]

theorem exists_count_eq_succ (ordered : first ≤ last) : ∃ k, count first last = k + 1 := by
  have sampled : 0 < count first last := by
    rw [lt_count_iff ordered, sample_zero]
    exact ⟨by decide, by linarith [excess_bounds.1]⟩
  exact Nat.exists_eq_succ_of_ne_zero sampled.ne'

/-- Behind the last sample either a step leads beyond the end, or the limit is reached. -/
theorem sample_last (ordered : first ≤ last) (counted : count first last = k + 1)
    : last - step < sample first k
      ∨ k + 1 = limit ∧ sample first limit ≤ last + tolerance * step := by
  have inside : k < limit ∧ sample first k ≤ last + tolerance * step :=
    (lt_count_iff ordered).mp (by omega)
  have outside : ¬ (k + 1 < limit ∧ sample first (k + 1) ≤ last + tolerance * step) := by
    rw [← lt_count_iff ordered, counted]
    exact lt_irrefl _
  by_cases reach : sample first (k + 1) ≤ last + tolerance * step
  · have full : k + 1 = limit := by
      have above : ¬ k + 1 < limit := fun below => outside ⟨below, reach⟩
      omega
    exact .inr ⟨full, full ▸ reach⟩
  · rw [sample_succ] at reach
    exact .inl (by linarith [excess_bounds.1])

/-- A domain of whole steps has one sample more than steps. -/
theorem count_of_whole (few : k < limit) (whole : last - first = k * step)
    : count first last = k + 1 ∧ sample first k = last := by
  have ends : sample first k = last := by
    rw [sample_eq, ← whole, add_sub_cancel]
  have ordered : first ≤ last := by
    have : 0 ≤ (k : Rat) * step := mul_nonneg k.cast_nonneg step_pos.le
    linarith
  have inside : k < count first last :=
    (lt_count_iff ordered).mpr ⟨few, by linarith [excess_bounds.1]⟩
  have outside : ¬ k + 1 < count first last := by
    rw [lt_count_iff ordered, sample_succ, ends]
    exact fun both => by linarith [both.2, excess_bounds.2]
  exact ⟨by omega, ends⟩

/-- Plots sample their domain with both ends. Samples begin at its beginning and are one step apart,
and none lies beyond its end by more than the tolerance. The last one is less than a step in front of
the end, unless the limit leaves samples out: then there are as many as it allows, and one more would
not lie beyond the end by more than the tolerance either. A domain of whole steps that are fewer than
the limit has one sample more than steps, and the last one is its end.
-/
theorem grid_inclusive (ordered : first ≤ last)
    : (grid first last).head? = some first
      ∧ ((grid first last).IsChain fun here next => next - here = step)
      ∧ (∀ x ∈ grid first last, x ≤ last + tolerance * step)
      ∧ ((∃ x, (grid first last).getLast? = some x ∧ last - step < x)
          ∨ (grid first last).length = limit ∧ sample first limit ≤ last + tolerance * step)
      ∧ ∀ k : Nat,
          k < limit
          → last - first = k * step
          → (grid first last).length = k + 1 ∧ (grid first last).getLast? = some last := by
  obtain ⟨n, counted⟩ := exists_count_eq_succ ordered
  refine ⟨?_, isChain_grid first last, fun x member => ?_, ?_, fun k few whole => ?_⟩
  · simp only [grid, counted, List.range_succ_eq_map, List.map_cons, List.head?_cons,
      sample_zero]
  · obtain ⟨i, inside, rfl⟩ := List.mem_map.mp member
    exact ((lt_count_iff ordered).mp (List.mem_range.mp inside)).2
  · rcases sample_last ordered counted with near | ⟨full, reach⟩
    · exact .inl ⟨_, getLast?_grid counted, near⟩
    · exact .inr ⟨by rw [length_grid, counted, full], reach⟩
  · obtain ⟨steps, ends⟩ := count_of_whole few whole
    exact ⟨by rw [length_grid, steps], by rw [getLast?_grid steps, ends]⟩

/-- A domain of three steps has its fourth sample at its end. In one that falls short of that by
just the tolerance the fourth sample is the same, and lies as far beyond the end as it may.
-/
theorem grid_inclusive_of_three_steps
    : let first : Rat := -1 / 3
      let last : Rat := first + 3 * step
      let short : Rat := last - tolerance * step
      first ≤ last
      ∧ last - first = (3 : Nat) * step
      ∧ (grid first last).length = 4
      ∧ (grid first last).getLast? = some last
      ∧ first ≤ short
      ∧ (grid first short).getLast? = some last
      ∧ last ≤ short + tolerance * step := by
  intro first last short
  have ordered : first ≤ last := by decide +kernel
  have whole : last - first = (3 : Nat) * step := by decide +kernel
  have ordered' : first ≤ short := by decide +kernel
  have ends' : (grid first short).getLast? = some last := by decide +kernel
  obtain ⟨-, -, -, -, exact_steps⟩ := grid_inclusive ordered
  obtain ⟨length, ends⟩ := exact_steps 3 (by decide) whole
  obtain ⟨-, -, reach, -⟩ := grid_inclusive ordered'
  exact ⟨ordered, whole, length, ends, ordered', ends', reach last (List.mem_of_getLast? ends')⟩

end LatexFigures.Sampling
