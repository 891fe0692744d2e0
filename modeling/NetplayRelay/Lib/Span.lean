import Mathlib.Data.Finset.Max
import Mathlib.Order.Interval.Finset.Nat

/-!
# Numbers that lie close together

A set of numbers spans at most `width` if no two of them are further apart. Such a set has at most
`width + 1` members, and it stays one when a number is added that is close to all of them, or when
everything too far below the new number is dropped and nothing is too far above it.
-/

namespace NetplayRelay.Lib

/-- No two members are further apart. -/
def Spans (width : Nat) (s : Set Nat) : Prop := ∀ a ∈ s, ∀ b ∈ s, b ≤ a + width

variable {width new : Nat} {s t : Set Nat}

theorem spans_empty : Spans width ∅ := fun _ h => absurd h (Set.notMem_empty _)

theorem Spans.mono (h : Spans width t) (hsub : s ⊆ t) : Spans width s :=
  fun a ha b hb => h a (hsub ha) b (hsub hb)

theorem spans_insert : Spans width (insert new s)
    ↔ Spans width s ∧ ∀ a ∈ s, new ≤ a + width ∧ a ≤ new + width := by
  constructor
  · intro h
    refine ⟨h.mono (Set.subset_insert new s), fun a ha => ?_⟩
    exact ⟨h a (Set.mem_insert_of_mem new ha) new (Set.mem_insert new s),
      h new (Set.mem_insert new s) a (Set.mem_insert_of_mem new ha)⟩
  · intro h a ha b hb
    rcases Set.mem_insert_iff.mp ha with rfl | hold
    · rcases Set.mem_insert_iff.mp hb with rfl | hold
      · exact Nat.le_add_right _ _
      · exact (h.2 b hold).2
    · rcases Set.mem_insert_iff.mp hb with rfl | hold'
      · exact (h.2 a hold).1
      · exact h.1 a hold b hold'

/-- What lies too far below the new number is dropped, so only what lies too far above it is left to
break the span. -/
theorem spans_insert_above (h : Spans width s) :
    Spans width {a ∈ insert new s | new - width ≤ a} ↔ ∀ a ∈ s, a ≤ new + width := by
  constructor
  · intro hspans a ha
    by_contra hfar
    have hkept : new - width ≤ a := by omega
    have hnew : new ∈ {a ∈ insert new s | new - width ≤ a} :=
      ⟨Set.mem_insert new s, Nat.sub_le _ _⟩
    exact hfar (hspans new hnew a ⟨Set.mem_insert_of_mem new ha, hkept⟩)
  · intro habove
    have hclose : Spans width (insert new {a ∈ s | new - width ≤ a}) := by
      refine spans_insert.mpr ⟨h.mono (Set.sep_subset _ _), fun a ha => ⟨?_, habove a ha.1⟩⟩
      have := ha.2
      omega
    refine hclose.mono fun a ha => ?_
    rcases Set.mem_insert_iff.mp ha.1 with rfl | hold
    · exact Set.mem_insert a _
    · exact Set.mem_insert_of_mem new ⟨hold, ha.2⟩

/-- A set that spans `width` fits an interval of that length. -/
theorem Spans.card_le {keys : Finset Nat} (h : Spans width (keys : Set Nat)) :
    keys.card ≤ width + 1 := by
  rcases keys.eq_empty_or_nonempty with rfl | hnonempty
  · exact Nat.zero_le _
  have hleast := keys.min'_mem hnonempty
  have hsub : keys ⊆ Finset.Icc (keys.min' hnonempty) (keys.min' hnonempty + width) := by
    intro a ha
    exact Finset.mem_Icc.mpr ⟨keys.min'_le a ha, h _ hleast a ha⟩
  calc keys.card ≤ (Finset.Icc (keys.min' hnonempty) (keys.min' hnonempty + width)).card :=
        Finset.card_le_card hsub
    _ = width + 1 := by
        rw [Nat.card_Icc]
        omega

end NetplayRelay.Lib
