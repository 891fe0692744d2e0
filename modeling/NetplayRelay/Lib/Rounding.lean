import Mathlib.Algebra.Order.Floor.Div
import Mathlib.Data.Rat.Floor

/-!
# Rounding up and clamping

A quotient of naturals that is rounded up is the ceiling of the rational quotient, and a value may
be capped before it is clamped as long as the cap is not below the upper end of the range.
-/

namespace NetplayRelay.Lib

theorem add_pred_div_eq_ceil {a b : Nat} (hb : 0 < b) : (a + b - 1) / b = ⌈(a : ℚ) / b⌉₊ := by
  have hpos : (0 : ℚ) < b := Nat.cast_pos.mpr hb
  refine eq_of_forall_ge_iff fun n => ?_
  rw [← Nat.ceilDiv_eq_add_pred_div, ceilDiv_le_iff_le_mul hb, Nat.ceil_le, div_le_iff₀ hpos,
    Nat.mul_comm b n]
  exact_mod_cast Iff.rfl

/-- The nearest value from `low` to `high`. -/
def clamp (low high value : Nat) : Nat := min (max value low) high

theorem clamp_mono {low high a b : Nat} (h : a ≤ b) : clamp low high a ≤ clamp low high b := by
  unfold clamp
  omega

/-- Capping a value at the upper end of the range is idle before it is clamped. -/
theorem clamp_min_add {low high value more : Nat} :
    clamp low high (min value high + more) = clamp low high (value + more) := by
  unfold clamp
  omega

end NetplayRelay.Lib
