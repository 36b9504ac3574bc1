/-
**The value of a binary64 number, and its conversion to 64 bits without a sign.**

The fields of a bit pattern give a sign and a magnitude, which is a whole number of the smallest
positive value `2 ^ -1074`.  The conversion truncates towards zero and saturates: it is the value
itself exactly when this is a whole number from 0 to `2 ^ 64 - 1`.

Main definitions:

* `Binary64.magnitude`, `Binary64.value` — the value of a bit pattern;
* `Binary64.toU64` — the conversion.

Main results:

* `Binary64.truncated_eq_floor` — truncation is the floor of the absolute value;
* `Binary64.toU64_of_value` — a value that fits is converted to itself.
-/

import Mathlib.Algebra.Order.Floor.Semifield
import Mathlib.Data.Rat.Floor

set_option relaxedAutoImplicit false
set_option autoImplicit false

namespace Binary64

/-- The sign bit. -/
def isNegative (bits : UInt64) : Bool := decide (2 ^ 63 ≤ bits.toNat)

/-- The biased exponent. -/
def exponent (bits : UInt64) : ℕ := bits.toNat / 2 ^ 52 % 2 ^ 11

/-- The fraction. -/
def fraction (bits : UInt64) : ℕ := bits.toNat % 2 ^ 52

/-- The pattern is neither an infinity nor a NaN. -/
def isFinite (bits : UInt64) : Bool := exponent bits != 2047

/-- The absolute value, in units of `2 ^ -1074`. -/
def magnitude (bits : UInt64) : ℕ :=
  if exponent bits = 0 then fraction bits
  else (2 ^ 52 + fraction bits) * 2 ^ (exponent bits - 1)

/-- The absolute value. -/
def absolute (bits : UInt64) : ℚ := (magnitude bits : ℚ) / (2 ^ 1074 : ℕ)

/-- The value of a finite pattern. -/
def value (bits : UInt64) : Option ℚ :=
  if isFinite bits then some (if isNegative bits then -absolute bits else absolute bits) else none

/-- The whole part of the absolute value. -/
def truncated (bits : UInt64) : ℕ := magnitude bits / 2 ^ 1074

/-- The conversion to 64 bits without a sign: a NaN and what is negative give 0, what is too large
gives the largest number. -/
def toU64 (bits : UInt64) : ℕ :=
  if isFinite bits then if isNegative bits then 0 else min (truncated bits) (2 ^ 64 - 1)
  else if isNegative bits || fraction bits != 0 then 0 else 2 ^ 64 - 1

theorem absolute_nonneg (bits : UInt64) : 0 ≤ absolute bits :=
  div_nonneg (Nat.cast_nonneg _) (Nat.cast_nonneg _)

theorem truncated_eq_floor (bits : UInt64) : truncated bits = ⌊absolute bits⌋₊ := by
  rw [truncated, absolute, Nat.floor_div_natCast, Nat.floor_natCast]

theorem toU64_lt (bits : UInt64) : toU64 bits < 2 ^ 64 := by
  unfold toU64
  split
  · split <;> omega
  · split <;> omega

/-- A value that fits is converted to itself. -/
theorem toU64_of_value {bits : UInt64} {n : ℕ} (h : value bits = some (n : ℚ)) (hn : n < 2 ^ 64) :
    toU64 bits = n := by
  unfold value at h
  split at h
  next hfinite =>
    rw [Option.some.injEq] at h
    rw [toU64, if_pos hfinite]
    split at h
    next hnegative =>
      -- only zero has a sign that does not count
      have habs := absolute_nonneg bits
      have hzero : (n : ℚ) = 0 := le_antisymm (by linarith) (Nat.cast_nonneg n)
      rw [if_pos hnegative, Nat.cast_eq_zero.mp hzero]
    next hpositive =>
      rw [if_neg hpositive, truncated_eq_floor, h, Nat.floor_natCast]
      omega
  next => cases h

end Binary64
