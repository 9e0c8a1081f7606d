import Mathlib.Algebra.Order.Floor.Semiring
import Mathlib.Tactic.Linarith

/-!
# Linear interpolation

A sequence of values at the natural numbers, extended to the positions in between along straight
lines.  The extension of a monotone sequence is monotone: within one interval it follows a line that
does not fall, and neighbouring lines meet in the values of the sequence.
-/

namespace MayastorExtensions.Interpolation

variable {K : Type} [Field K] [LinearOrder K] [IsStrictOrderedRing K] [FloorSemiring K]

/-- The value at a position, between the values below and above it. -/
def linear (sequence : ℕ → K) (position : K) : K :=
  sequence ⌊position⌋₊ +
    (position - ⌊position⌋₊) * (sequence ⌈position⌉₊ - sequence ⌊position⌋₊)

@[simp]
theorem linear_natCast (sequence : ℕ → K) (index : ℕ) : linear sequence index = sequence index := by
  simp [linear]

variable {sequence : ℕ → K} (hmono : Monotone sequence) {position position' : K}

include hmono

theorem le_linear (hpos : 0 ≤ position) : sequence ⌊position⌋₊ ≤ linear sequence position := by
  have hfraction : 0 ≤ position - ⌊position⌋₊ := sub_nonneg.mpr (Nat.floor_le hpos)
  have hrise : 0 ≤ sequence ⌈position⌉₊ - sequence ⌊position⌋₊ :=
    sub_nonneg.mpr (hmono (Nat.floor_le_ceil position))
  exact le_add_of_nonneg_right (mul_nonneg hfraction hrise)

theorem linear_le (position : K) : linear sequence position ≤ sequence ⌈position⌉₊ := by
  have hfraction : position - ⌊position⌋₊ ≤ 1 := by
    linarith [Nat.lt_floor_add_one position]
  have hrise : 0 ≤ sequence ⌈position⌉₊ - sequence ⌊position⌋₊ :=
    sub_nonneg.mpr (hmono (Nat.floor_le_ceil position))
  have hstep := mul_le_mul_of_nonneg_right hfraction hrise
  rw [linear]
  linarith

/-- The interpolated values do not fall. -/
theorem linear_mono (hpos : 0 ≤ position) (h : position ≤ position') :
    linear sequence position ≤ linear sequence position' := by
  have hpos' := hpos.trans h
  by_cases hceil : ⌈position⌉₊ ≤ ⌊position'⌋₊
  · -- a value of the sequence separates the two positions
    calc
      linear sequence position ≤ sequence ⌈position⌉₊ := linear_le hmono position
      _ ≤ sequence ⌊position'⌋₊ := hmono hceil
      _ ≤ linear sequence position' := le_linear hmono hpos'
  · -- both positions lie strictly between two neighbouring numbers
    have hfloor : ⌊position⌋₊ ≤ ⌊position'⌋₊ := Nat.floor_mono h
    have hbelow : ⌈position⌉₊ ≤ ⌊position⌋₊ + 1 := Nat.ceil_le_floor_add_one position
    have hfloorEq : ⌊position'⌋₊ = ⌊position⌋₊ := by omega
    have hceilEq : ⌈position⌉₊ = ⌊position⌋₊ + 1 := by omega
    have hceilEq' : ⌈position'⌉₊ = ⌊position⌋₊ + 1 := by
      have hle := Nat.ceil_le_floor_add_one position'
      have hge := Nat.ceil_mono h
      omega
    have hrise : 0 ≤ sequence (⌊position⌋₊ + 1) - sequence ⌊position⌋₊ :=
      sub_nonneg.mpr (hmono (Nat.le_succ _))
    rw [linear, linear, hfloorEq, hceilEq, hceilEq']
    gcongr

end MayastorExtensions.Interpolation
