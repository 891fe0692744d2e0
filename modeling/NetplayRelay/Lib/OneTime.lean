import NetplayRelay.Lib.Run
import Mathlib.Data.List.Nodup
import Mathlib.Data.List.Count
import Mathlib.Data.List.Induction

/-!
# One-time tokens

A machine holds tokens. Events bring new ones and use those that are there; a token that is used is
gone. As long as no token is brought twice, none can be used twice: this needs only what one step
does to the tokens that are live.
-/

namespace NetplayRelay.Lib

variable {σ ε τ : Type} {step : σ → ε → Option σ} {guard : σ → ε → Prop} {Inv : σ → Prop}
  {live : σ → τ → Prop} {issued : ε → List τ} {uses : τ → σ × ε → Bool} {x : τ}

/-- What is live after a run was live before or was brought by one of its events. -/
theorem live_run (hinv : ∀ s e t, Inv s → guard s e → step s e = some t → Inv t)
    (hlive : ∀ s e t, Inv s → guard s e → step s e = some t → live t x → live s x ∨ x ∈ issued e) :
    ∀ {es : List ε} {s t : σ}, Inv s → Guarded step guard s es → run step s es = some t →
      live t x → live s x ∨ x ∈ es.flatMap issued := by
  intro es
  induction es with
  | nil =>
    intro s t _ _ hrun hx
    obtain rfl := Option.some.inj hrun
    exact .inl hx
  | cons e es ih =>
    intro s t hs hguarded hrun hx
    obtain ⟨u, hu, hrest⟩ := run_cons.mp hrun
    rw [Guarded, hu] at hguarded
    rw [List.flatMap_cons, List.mem_append]
    rcases ih (hinv s e u hs hguarded.1 hu) hguarded.2 hrest hx with hbefore | hlater
    · exact (hlive s e u hs hguarded.1 hu hbefore).imp_right .inl
    · exact .inr (.inr hlater)

/-- What is neither live nor brought by an event is never used. -/
theorem countP_uses_eq_zero (hinv : ∀ s e t, Inv s → guard s e → step s e = some t → Inv t)
    (hlive : ∀ s e t, Inv s → guard s e → step s e = some t → live t x → live s x ∨ x ∈ issued e)
    (huse : ∀ s e, Inv s → guard s e → uses x (s, e) → live s x) :
    ∀ {es : List ε} {s : σ}, Inv s → Guarded step guard s es → ¬live s x → x ∉ es.flatMap issued →
      (visits step s es).countP (uses x) = 0 := by
  intro es
  induction es with
  | nil => exact fun {_} _ _ _ _ => rfl
  | cons e es ih =>
    intro s hs hguarded hdead hnever
    rw [Guarded] at hguarded
    rw [List.flatMap_cons, List.mem_append, not_or] at hnever
    have hunused : ¬uses x (s, e) := fun h => hdead (huse s e hs hguarded.1 h)
    rw [visits, List.countP_cons_of_neg hunused]
    cases ht : step s e with
    | none => rfl
    | some t =>
      rw [ht] at hguarded
      refine ih (hinv s e t hs hguarded.1 ht) hguarded.2 (fun hlater => ?_) hnever.2
      exact (hlive s e t hs hguarded.1 ht hlater).elim hdead hnever.1

/-- **One-time rule.** Tokens come in through events only, and who uses one takes it away. If no
token is brought twice, and none that is live at the start is brought again, then every token is
used at most once. -/
theorem countP_uses_le_one (hinv : ∀ s e t, Inv s → guard s e → step s e = some t → Inv t)
    (hlive : ∀ s e t, Inv s → guard s e → step s e = some t → live t x → live s x ∨ x ∈ issued e)
    (huse : ∀ s e, Inv s → guard s e → uses x (s, e) → live s x)
    (hspent : ∀ s e t, Inv s → guard s e → step s e = some t → x ∉ issued e → uses x (s, e) →
      ¬live t x) :
    ∀ {es : List ε} {s : σ}, Inv s → Guarded step guard s es → (es.flatMap issued).Nodup →
      (live s x → x ∉ es.flatMap issued) → (visits step s es).countP (uses x) ≤ 1 := by
  intro es
  induction es with
  | nil => exact fun {_} _ _ _ _ => Nat.zero_le 1
  | cons e es ih =>
    intro s hs hguarded hnodup hnew
    rw [Guarded] at hguarded
    rw [List.flatMap_cons, List.nodup_append] at hnodup
    rw [List.flatMap_cons, List.mem_append, not_or] at hnew
    obtain ⟨_, hrest, hapart⟩ := hnodup
    rw [visits, List.countP_cons]
    cases ht : step s e with
    | none =>
      rw [List.countP_nil, Nat.zero_add]
      split <;> omega
    | some t =>
      rw [ht] at hguarded
      have hinv' := hinv s e t hs hguarded.1 ht
      by_cases hused : uses x (s, e)
      · -- used here, so neither live nor brought later
        have hx := hnew (huse s e hs hguarded.1 hused)
        have hzero := countP_uses_eq_zero hinv hlive huse hinv' hguarded.2
          (hspent s e t hs hguarded.1 ht hx.1 hused) hx.2
        simp [hused, hzero]
      · rw [if_neg hused, Nat.add_zero]
        refine ih hinv' hguarded.2 hrest fun hlater hagain => ?_
        rcases hlive s e t hs hguarded.1 ht hlater with hbefore | hbrought
        · exact (hnew hbefore).2 hagain
        · exact hapart x hbrought x hagain rfl

/-- Where no token is brought twice, what an event brings is not there yet. -/
theorem guarded_fresh (hinv : ∀ s e t, Inv s → guard s e → step s e = some t → Inv t)
    (hlive : ∀ s e t, Inv s → guard s e → step s e = some t → ∀ x, live t x →
      live s x ∨ x ∈ issued e) :
    ∀ {es : List ε} {s : σ}, Inv s → Guarded step guard s es → (es.flatMap issued).Nodup →
      (∀ x, live s x → x ∉ es.flatMap issued) →
      Guarded step (fun s e => guard s e ∧ ∀ x ∈ issued e, ¬live s x) s es := by
  intro es
  induction es with
  | nil => exact fun {_} _ _ _ _ => trivial
  | cons e es ih =>
    intro s hs hguarded hnodup hnew
    rw [Guarded] at hguarded ⊢
    rw [List.flatMap_cons] at hnodup hnew
    refine ⟨⟨hguarded.1, fun x hx hlivex => ?_⟩, ?_⟩
    · exact hnew x hlivex (List.mem_append_left _ hx)
    cases ht : step s e with
    | none => trivial
    | some t =>
      rw [ht] at hguarded
      obtain ⟨_, hrest, hapart⟩ := List.nodup_append.mp hnodup
      refine ih (hinv s e t hs hguarded.1 ht) hguarded.2 hrest fun x hx hagain => ?_
      rcases hlive s e t hs hguarded.1 ht x hx with hbefore | hbrought
      · exact hnew x hbefore (List.mem_append_right _ hagain)
      · exact hapart x hbrought x hagain rfl

/-! ## What counts once -/

section

variable {α : Type} [DecidableEq α] {l : List α} {y : α}

/-- The first occurrences, in their order. -/
def firsts (l : List α) : List α :=
  l.foldl (fun kept y => if y ∈ kept then kept else kept ++ [y]) []

theorem firsts_concat (l : List α) (y : α) :
    firsts (l ++ [y]) = if y ∈ firsts l then firsts l else firsts l ++ [y] := by
  rw [firsts, List.foldl_append]
  rfl

theorem mem_firsts : y ∈ firsts l ↔ y ∈ l := by
  induction l using List.reverseRecOn with
  | nil => exact Iff.rfl
  | append_singleton l z ih =>
    rw [firsts_concat, List.mem_append, List.mem_singleton]
    split
    · rename_i hz
      refine ih.trans ⟨.inl, ?_⟩
      rintro (hy | rfl)
      · exact hy
      · exact ih.mp hz
    · rw [List.mem_append, List.mem_singleton, ih]

/-- What has occurred does not count again. -/
theorem firsts_concat_of_mem (h : y ∈ l) : firsts (l ++ [y]) = firsts l := by
  rw [firsts_concat, if_pos (mem_firsts.mpr h)]

theorem firsts_concat_of_not_mem (h : y ∉ l) : firsts (l ++ [y]) = firsts l ++ [y] := by
  rw [firsts_concat, if_neg (mem_firsts.not.mpr h)]

end

end NetplayRelay.Lib
