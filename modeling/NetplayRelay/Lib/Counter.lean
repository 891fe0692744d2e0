/-!
# Bounded counters

Unsigned machine counters as natural numbers below an explicit limit. A saturating
addition stops at the limit, a checked addition fails beyond it. Every lemma here is
about an arbitrary limit, so that one development can mix counter widths.
-/

namespace NetplayRelay.Lib

/-- Addition that stops at `limit`. -/
def satAdd (limit a b : Nat) : Nat := min (a + b) limit

/-- Multiplication that stops at `limit`. -/
def satMul (limit a b : Nat) : Nat := min (a * b) limit

/-- Addition that fails beyond `limit`. -/
def checkedAdd (limit a b : Nat) : Option Nat :=
  if a + b ≤ limit then some (a + b) else none

section

variable {limit a b c : Nat}

theorem satAdd_le_limit : satAdd limit a b ≤ limit := Nat.min_le_right _ _

/-- A counter that respects its limit never goes down under saturating addition. -/
theorem le_satAdd (h : a ≤ limit) : a ≤ satAdd limit a b := by
  unfold satAdd
  omega

/-- Away from the limit saturating addition is addition. -/
theorem satAdd_eq_add (h : a + b ≤ limit) : satAdd limit a b = a + b := by
  unfold satAdd
  omega

/-- Away from the limit saturating multiplication is multiplication. -/
theorem satMul_eq_mul (h : a * b ≤ limit) : satMul limit a b = a * b := Nat.min_eq_left h

/-- One step of a saturating counter is strict exactly below its limit. -/
theorem lt_satAdd_one (h : a < limit) : a < satAdd limit a 1 := by
  unfold satAdd
  omega

theorem checkedAdd_eq_some : checkedAdd limit a b = some c ↔ a + b ≤ limit ∧ c = a + b := by
  unfold checkedAdd
  split
  · rename_i h
    simp only [Option.some.injEq, h, true_and]
    exact eq_comm
  · rename_i h
    simp [h]

end

end NetplayRelay.Lib
