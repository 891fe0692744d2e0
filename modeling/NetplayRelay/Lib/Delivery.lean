import NetplayRelay.Lib.Run
import Mathlib.Data.List.Range

/-!
# Delivery in order

Two facts about streams that are numbered by a cursor. A machine that in each step emits either
nothing or the number its cursor stands at, and then moves the cursor on by one, emits a gapless
and repeat-free sequence over any run (`emits_range`).

A receiver that takes overlapping pieces of a stream, drops what it already has and refuses pieces
that would leave a gap, holds at every position what the first piece that covers the position said
(`FirstDelivered`).
-/

namespace NetplayRelay.Lib

section Emission

variable {σ ε : Type} {step : σ → ε → Option σ} {guard : σ → ε → Prop} {Inv : σ → Prop}
  {cursor : σ → Nat} {emit : σ → ε → List Nat}

/-- A step that emits nothing and leaves the cursor, or emits the cursor and moves it on. -/
def Emits (cursor : σ → Nat) (s t : σ) (emitted : List Nat) : Prop :=
  (emitted = [] ∧ cursor t = cursor s) ∨ (emitted = [cursor s] ∧ cursor t = cursor s + 1)

/-- **Emission rule.** What a guarded run emits is the range its cursor moves over. -/
theorem emits_range (hinv : ∀ s e t, Inv s → guard s e → step s e = some t → Inv t)
    (hemits : ∀ s e t, Inv s → guard s e → step s e = some t → Emits cursor s t (emit s e)) :
    ∀ {es : List ε} {s t : σ}, Guarded step guard s es → run step s es = some t → Inv s →
      ∃ n, (visits step s es).flatMap (fun visit => emit visit.1 visit.2)
          = List.range' (cursor s) n ∧ cursor t = cursor s + n := by
  intro es
  induction es with
  | nil =>
    intro s t _ hr _
    have hst : s = t := Option.some.inj hr
    exact ⟨0, rfl, by rw [hst, Nat.add_zero]⟩
  | cons e es ih =>
    intro s t hg hr hi
    obtain ⟨u, hu, hrest⟩ := run_cons.mp hr
    rw [Guarded, hu] at hg
    obtain ⟨n, hlater, hend⟩ := ih hg.2 hrest (hinv s e u hi hg.1 hu)
    rw [visits, hu, List.flatMap_cons, hlater]
    rcases hemits s e u hi hg.1 hu with ⟨hnone, hcursor⟩ | ⟨hone, hcursor⟩
    · refine ⟨n, ?_, by rw [hend, hcursor]⟩
      rw [hnone, hcursor, List.nil_append]
    · refine ⟨n + 1, ?_, by rw [hend, hcursor]; omega⟩
      rw [hone, hcursor, List.range'_succ, List.singleton_append]

end Emission

section Pieces

variable {α : Type} {base : Nat} {pieces : List (Nat × List α)} {log : List α}

/-- What a piece, given by its first position and its data, says about position `i`. -/
def pieceAt (i : Nat) (piece : Nat × List α) : Option α :=
  if piece.1 ≤ i then piece.2[i - piece.1]? else none

/-- From position `base` on, `log` holds what the first piece that covers a position says. -/
def FirstDelivered (base : Nat) (pieces : List (Nat × List α)) (log : List α) : Prop :=
  ∀ i, pieces.findSome? (pieceAt (base + i)) = log[i]?

theorem firstDelivered_nil : FirstDelivered (α := α) base [] [] := fun _ => rfl

/-- A piece that leaves no gap extends the log by the part that is new. -/
theorem FirstDelivered.deliver (h : FirstDelivered base pieces log) {start : Nat} {data : List α}
    (hgap : start ≤ base + log.length) :
    FirstDelivered base (pieces ++ [(start, data)])
      (log ++ data.drop (base + log.length - start)) := by
  intro i
  rw [List.findSome?_append, h i]
  by_cases hi : i < log.length
  · rw [List.getElem?_append_left hi, List.getElem?_eq_getElem hi, Option.some_or]
  have hcovered : start ≤ base + i := by omega
  rw [List.getElem?_append_right (Nat.le_of_not_lt hi), List.getElem?_eq_none (Nat.le_of_not_lt hi),
    Option.none_or, List.findSome?_singleton, pieceAt, if_pos hcovered, List.getElem?_drop]
  congr 1
  omega

end Pieces

end NetplayRelay.Lib
