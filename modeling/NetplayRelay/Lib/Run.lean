/-!
# Runs of a deterministic machine

A machine takes one step per event and may stop (`none`). A run feeds it a list of
events. A guard says which events may be offered in which state: it stands both for the
assumptions the environment keeps (fresh identifiers, values in range) and for the side
conditions under which a property is claimed.

Two rules carry every result about whole runs: an invariant that every guarded step
preserves holds wherever a guarded run leads, and a reflexive and transitive relation that
contains every guarded step relates the two ends of a guarded run.
-/

namespace NetplayRelay.Lib

variable {σ ε : Type} {s t : σ} {es fs : List ε} {Inv : σ → Prop} {allowed : σ → ε → Prop}

/-- The state after `es`, or `none` once a step has stopped the machine. -/
def run (step : σ → ε → Option σ) : σ → List ε → Option σ
  | s, [] => some s
  | s, e :: es =>
    match step s e with
    | none => none
    | some s' => run step s' es

/-- Every event of the run from `s` meets the guard in the state it is offered in. -/
def Guarded (step : σ → ε → Option σ) (guard : σ → ε → Prop) : σ → List ε → Prop
  | _, [] => True
  | s, e :: es => guard s e ∧
    match step s e with
    | none => True
    | some s' => Guarded step guard s' es

/-- Whether a run is guarded can be computed when the guard can. -/
instance decidableGuarded (step : σ → ε → Option σ) (guard : σ → ε → Prop)
    [∀ s e, Decidable (guard s e)] : (s : σ) → (es : List ε) → Decidable (Guarded step guard s es)
  | _, [] => .isTrue trivial
  | s, e :: es =>
    have : Decidable (match step s e with
        | none => True
        | some s' => Guarded step guard s' es) :=
      match step s e with
      | none => .isTrue trivial
      | some s' => decidableGuarded step guard s' es
    inferInstanceAs (Decidable (_ ∧ _))

section

variable {step : σ → ε → Option σ} {guard : σ → ε → Prop}

theorem run_cons {e : ε} :
    run step s (e :: es) = some t ↔ ∃ u, step s e = some u ∧ run step u es = some t := by
  rw [run]
  cases step s e with
  | none => simp
  | some u => simp

/-- A run goes on where it ended. -/
theorem run_append (h : run step s es = some t) : run step s (es ++ fs) = run step t fs := by
  induction es generalizing s with
  | nil =>
    obtain rfl := Option.some.inj h
    rfl
  | cons e es ih =>
    obtain ⟨u, hu, hrest⟩ := run_cons.mp h
    rw [List.cons_append, run, hu]
    exact ih hrest

theorem guarded_append (h : run step s es = some t) :
    Guarded step guard s (es ++ fs) ↔ Guarded step guard s es ∧ Guarded step guard t fs := by
  induction es generalizing s with
  | nil =>
    obtain rfl := Option.some.inj h
    exact (and_iff_right trivial).symm
  | cons e es ih =>
    obtain ⟨u, hu, hrest⟩ := run_cons.mp h
    rw [List.cons_append, Guarded, Guarded, hu]
    exact (and_congr_right fun _ => ih hrest).trans and_assoc.symm

/-- A run is guarded if each of its events meets the guard in the state that the events before it
lead to. -/
theorem guarded_iff_forall_offered :
    Guarded step guard s es
      ↔ ∀ done e rest t, es = done ++ e :: rest → run step s done = some t → guard t e := by
  constructor
  · intro h done e rest t hsplit ht
    rw [hsplit, guarded_append ht] at h
    exact h.2.1
  · induction es generalizing s with
    | nil => exact fun _ => trivial
    | cons e es ih =>
      intro h
      refine ⟨h [] e es s rfl rfl, ?_⟩
      cases hu : step s e with
      | none => trivial
      | some u =>
        refine ih fun done e' rest t hsplit ht => ?_
        exact h (e :: done) e' rest t (by rw [hsplit]; rfl) (run_cons.mpr ⟨u, hu, ht⟩)

theorem Guarded.and {guard' : σ → ε → Prop} (h : Guarded step guard s es)
    (h' : Guarded step guard' s es) : Guarded step (fun s e => guard s e ∧ guard' s e) s es := by
  rw [guarded_iff_forall_offered] at h h' ⊢
  intro done e rest t hsplit ht
  exact ⟨h done e rest t hsplit ht, h' done e rest t hsplit ht⟩

/-- The steps a run takes: each event with the state it is offered in. -/
def visits (step : σ → ε → Option σ) : σ → List ε → List (σ × ε)
  | _, [] => []
  | s, e :: es => (s, e) ::
    match step s e with
    | none => []
    | some s' => visits step s' es

theorem visits_append (h : run step s es = some t) :
    visits step s (es ++ fs) = visits step s es ++ visits step t fs := by
  induction es generalizing s with
  | nil =>
    obtain rfl := Option.some.inj h
    rfl
  | cons e es ih =>
    obtain ⟨u, hu, hrest⟩ := run_cons.mp h
    rw [List.cons_append, visits, visits, hu]
    exact congrArg _ (ih hrest)

theorem visits_concat (h : run step s es = some t) (e : ε) :
    visits step s (es ++ [e]) = visits step s es ++ [(t, e)] := by
  rw [visits_append h, visits]
  cases step t e with
  | none => rfl
  | some u => rfl

/-- A run that is not stopped is offered all its events. -/
theorem visits_events (h : run step s es = some t) : (visits step s es).map (·.2) = es := by
  induction es generalizing s with
  | nil => rfl
  | cons e es ih =>
    obtain ⟨u, hu, hrest⟩ := run_cons.mp h
    rw [visits, hu, List.map_cons, ih hrest]

/-- **Invariant rule.** What every guarded step preserves holds wherever a guarded run leads. -/
theorem invariant_run (hstep : ∀ s e t, Inv s → guard s e → step s e = some t → Inv t) :
    ∀ {es : List ε} {s t : σ}, Guarded step guard s es → run step s es = some t → Inv s →
      Inv t := by
  intro es
  induction es with
  | nil =>
    intro s t _ hr hi
    have hst : s = t := Option.some.inj hr
    exact hst ▸ hi
  | cons e es ih =>
    intro s t hg hr hi
    obtain ⟨u, hu, hrest⟩ := run_cons.mp hr
    rw [Guarded, hu] at hg
    exact ih hg.2 hrest (hstep s e u hi hg.1 hu)

/-- **Relation rule.** A reflexive and transitive relation that holds across every guarded step
holds between the ends of a guarded run. The invariant may be used at each step. -/
theorem relation_run {R : σ → σ → Prop} (hrefl : ∀ s, R s s)
    (htrans : ∀ {s t u}, R s t → R t u → R s u)
    (hinv : ∀ s e t, Inv s → guard s e → step s e = some t → Inv t)
    (hstep : ∀ s e t, Inv s → guard s e → step s e = some t → R s t) :
    ∀ {es : List ε} {s t : σ}, Guarded step guard s es → run step s es = some t → Inv s →
      R s t := by
  intro es
  induction es with
  | nil =>
    intro s t _ hr _
    have hst : s = t := Option.some.inj hr
    exact hst ▸ hrefl s
  | cons e es ih =>
    intro s t hg hr hi
    obtain ⟨u, hu, hrest⟩ := run_cons.mp hr
    rw [Guarded, hu] at hg
    exact htrans (hstep s e u hi hg.1 hu) (ih hg.2 hrest (hinv s e u hi hg.1 hu))

theorem Guarded.imp {guard' : σ → ε → Prop} (h : ∀ s e, guard s e → guard' s e) :
    ∀ {es : List ε} {s : σ}, Guarded step guard s es → Guarded step guard' s es := by
  intro es
  induction es with
  | nil => exact fun {_} _ => trivial
  | cons e es ih =>
    intro s hg
    rw [Guarded] at hg ⊢
    refine ⟨h s e hg.1, ?_⟩
    cases hu : step s e with
    | none => trivial
    | some u =>
      rw [hu] at hg
      exact ih hg.2

/-- A guard that may look back: it is given the steps taken before, `past` and those of the run. -/
def HistoryGuarded (step : σ → ε → Option σ) (guard : List (σ × ε) → σ → ε → Prop) :
    List (σ × ε) → σ → List ε → Prop
  | _, _, [] => True
  | past, s, e :: es => guard past s e ∧
    match step s e with
    | none => True
    | some s' => HistoryGuarded step guard (past ++ [(s, e)]) s' es

instance decidableHistoryGuarded (step : σ → ε → Option σ) (guard : List (σ × ε) → σ → ε → Prop)
    [∀ past s e, Decidable (guard past s e)] :
    (past : List (σ × ε)) → (s : σ) → (es : List ε) →
      Decidable (HistoryGuarded step guard past s es)
  | _, _, [] => .isTrue trivial
  | past, s, e :: es =>
    have : Decidable (match step s e with
        | none => True
        | some s' => HistoryGuarded step guard (past ++ [(s, e)]) s' es) :=
      match step s e with
      | none => .isTrue trivial
      | some s' => decidableHistoryGuarded step guard (past ++ [(s, e)]) s' es
    inferInstanceAs (Decidable (_ ∧ _))

theorem Guarded.history :
    ∀ {es : List ε} {past : List (σ × ε)} {s : σ}, Guarded step guard s es →
      HistoryGuarded step (fun _ => guard) past s es := by
  intro es
  induction es with
  | nil => exact fun {_ _} _ => trivial
  | cons e es ih =>
    intro past s hg
    rw [Guarded] at hg
    rw [HistoryGuarded]
    cases hu : step s e with
    | none => exact ⟨hg.1, trivial⟩
    | some u =>
      rw [hu] at hg
      exact ⟨hg.1, ih hg.2⟩

theorem historyGuarded_append {guard : List (σ × ε) → σ → ε → Prop} {past : List (σ × ε)}
    (h : run step s es = some t) :
    HistoryGuarded step guard past s (es ++ fs) ↔
      HistoryGuarded step guard past s es
        ∧ HistoryGuarded step guard (past ++ visits step s es) t fs := by
  induction es generalizing past s with
  | nil =>
    obtain rfl := Option.some.inj h
    rw [visits, List.append_nil]
    exact (and_iff_right trivial).symm
  | cons e es ih =>
    obtain ⟨u, hu, hrest⟩ := run_cons.mp h
    rw [List.cons_append, HistoryGuarded, HistoryGuarded, visits, hu]
    refine (and_congr_right fun _ => ih hrest).trans ?_
    rw [List.append_assoc, List.singleton_append]
    exact and_assoc.symm

/-- **History rule.** An invariant may speak about the steps taken so far, and so may the guard. -/
theorem history_run {guard : List (σ × ε) → σ → ε → Prop} {Inv : List (σ × ε) → σ → Prop}
    (hstep : ∀ past s e t, Inv past s → guard past s e → step s e = some t →
      Inv (past ++ [(s, e)]) t) :
    ∀ {es : List ε} {past : List (σ × ε)} {s t : σ}, HistoryGuarded step guard past s es →
      run step s es = some t → Inv past s → Inv (past ++ visits step s es) t := by
  intro es
  induction es with
  | nil =>
    intro past s t _ hr hi
    have hst : s = t := Option.some.inj hr
    rw [visits, List.append_nil]
    exact hst ▸ hi
  | cons e es ih =>
    intro past s t hg hr hi
    obtain ⟨u, hu, hrest⟩ := run_cons.mp hr
    rw [HistoryGuarded, hu] at hg
    rw [visits, hu, List.append_cons]
    exact ih hg.2 hrest (hstep past s e u hi hg.1 hu)

/-- Every step of a guarded run is offered in a state with the invariant and meets the guard. -/
theorem forall_visits (hstep : ∀ s e t, Inv s → guard s e → step s e = some t → Inv t) :
    ∀ {es : List ε} {s : σ}, Guarded step guard s es → Inv s →
      ∀ visit ∈ visits step s es, Inv visit.1 ∧ guard visit.1 visit.2 := by
  intro es
  induction es with
  | nil =>
    intro s _ _ visit hvisit
    exact absurd hvisit (by simp [visits])
  | cons e es ih =>
    intro s hg hi visit hvisit
    rw [Guarded] at hg
    rw [visits] at hvisit
    rcases List.mem_cons.mp hvisit with rfl | hlater
    · exact ⟨hi, hg.1⟩
    cases hu : step s e with
    | none =>
      rw [hu] at hlater
      exact absurd hlater (by simp)
    | some u =>
      rw [hu] at hlater hg
      exact ih hg.2 (hstep s e u hi hg.1 hu) visit hlater

/-- **Loss rule.** Something is kept by the steps that are guarded and lost for good by any other.
Then a run of allowed events ends with it exactly if the whole run is guarded. -/
theorem kept_or_lost {guard : σ → ε → Prop} {Kept Lost : σ → Prop}
    (hkeep : ∀ s e t, Kept s → allowed s e → guard s e → step s e = some t → Kept t)
    (hlose : ∀ s e t, Kept s → allowed s e → ¬guard s e → step s e = some t → Lost t)
    (hlost : ∀ s e t, Lost s → allowed s e → step s e = some t → Lost t) :
    ∀ {es : List ε} {s t : σ}, Guarded step allowed s es → run step s es = some t → Kept s →
      (Guarded step guard s es → Kept t) ∧ (¬Guarded step guard s es → Lost t) := by
  intro es
  induction es with
  | nil =>
    intro s t _ hr hs
    obtain rfl := Option.some.inj hr
    exact ⟨fun _ => hs, fun h => absurd trivial h⟩
  | cons e es ih =>
    intro s t ha hr hs
    obtain ⟨u, hu, hrest⟩ := run_cons.mp hr
    rw [Guarded, hu] at ha
    rw [Guarded, hu]
    by_cases hg : guard s e
    · obtain ⟨hkept, hother⟩ := ih ha.2 hrest (hkeep s e u hs ha.1 hg hu)
      exact ⟨fun h => hkept h.2, fun h => hother fun hlater => h ⟨hg, hlater⟩⟩
    · refine ⟨fun h => absurd h.1 hg, fun _ => ?_⟩
      exact invariant_run hlost ha.2 hrest (hlose s e u hs ha.1 hg hu)

/-- A machine that no guarded event stops runs to the end. -/
theorem run_total (htotal : ∀ s e, guard s e → (step s e).isSome) :
    ∀ {es : List ε} {s : σ}, Guarded step guard s es → ∃ t, run step s es = some t := by
  intro es
  induction es with
  | nil => exact fun {s} _ => ⟨s, rfl⟩
  | cons e es ih =>
    intro s hg
    obtain ⟨u, hu⟩ := Option.isSome_iff_exists.mp (htotal s e hg.1)
    rw [Guarded, hu] at hg
    obtain ⟨t, ht⟩ := ih hg.2
    exact ⟨t, run_cons.mpr ⟨u, hu, ht⟩⟩

/-- **Exactness rule.** Among the events that are allowed, a property survives a step exactly if the
step is guarded, and no other event stops the machine. Then the property holds in every state of a
run of such events exactly if the run is guarded. -/
theorem forall_reached_iff_guarded {guard : σ → ε → Prop} {P : σ → Prop}
    (hinv : ∀ s e t, Inv s → allowed s e → step s e = some t → Inv t)
    (hstep : ∀ s e t, Inv s → P s → allowed s e → step s e = some t → (P t ↔ guard s e))
    (hstop : ∀ s e, Inv s → P s → allowed s e → step s e = none → guard s e) :
    ∀ {es : List ε} {s : σ}, Inv s → P s → Guarded step allowed s es →
      ((∀ done t, done <+: es → run step s done = some t → P t) ↔ Guarded step guard s es) := by
  intro es
  induction es with
  | nil =>
    intro s _ hs _
    refine ⟨fun _ => trivial, fun _ done t hdone ht => ?_⟩
    rw [List.prefix_nil.mp hdone] at ht
    exact Option.some.inj ht ▸ hs
  | cons e es ih =>
    intro s hi hs hallowed
    rw [Guarded] at hallowed ⊢
    cases hu : step s e with
    | none =>
      refine ⟨fun _ => ⟨hstop s e hi hs hallowed.1 hu, trivial⟩, fun _ done t hdone ht => ?_⟩
      cases done with
      | nil => exact Option.some.inj ht ▸ hs
      | cons d done =>
        obtain ⟨rfl, _⟩ := List.cons_prefix_cons.mp hdone
        obtain ⟨v, hv, _⟩ := run_cons.mp ht
        exact absurd (hu.symm.trans hv) (by simp)
    | some u =>
      rw [hu] at hallowed
      have hi' := hinv s e u hi hallowed.1 hu
      rw [← hstep s e u hi hs hallowed.1 hu]
      constructor
      · intro h
        have hnext : P u :=
          h [e] u ((List.prefix_cons_inj e).mpr List.nil_prefix) (run_cons.mpr ⟨u, hu, rfl⟩)
        refine ⟨hnext, (ih hi' hnext hallowed.2).mp fun done t hdone ht => ?_⟩
        exact h (e :: done) t ((List.prefix_cons_inj e).mpr hdone) (run_cons.mpr ⟨u, hu, ht⟩)
      · rintro ⟨hnext, hrest⟩ done t hdone ht
        cases done with
        | nil => exact Option.some.inj ht ▸ hs
        | cons d done =>
          obtain ⟨rfl, htail⟩ := List.cons_prefix_cons.mp hdone
          obtain ⟨v, hv, hdone'⟩ := run_cons.mp ht
          obtain rfl := Option.some.inj (hu.symm.trans hv)
          exact (ih hi' hnext hallowed.2).mpr hrest done t htail hdone'

end

theorem run_some (next : σ → ε → σ) (s : σ) (es : List ε) :
    run (fun s e => some (next s e)) s es = some (es.foldl next s) := by
  induction es generalizing s with
  | nil => rfl
  | cons e es ih => exact ih (next s e)

theorem guarded_iff_forall_split {next : σ → ε → σ} {guard : σ → ε → Prop} :
    Guarded (fun s e => some (next s e)) guard s es
      ↔ ∀ done e rest, es = done ++ e :: rest → guard (done.foldl next s) e := by
  refine guarded_iff_forall_offered.trans ⟨fun h done e rest hsplit => ?_, ?_⟩
  · exact h done e rest _ hsplit (run_some next s done)
  · intro h done e rest t hsplit ht
    rw [run_some] at ht
    exact Option.some.inj ht ▸ h done e rest hsplit

/-- The exactness rule for a machine that never stops. -/
theorem forall_prefix_iff_guarded {next : σ → ε → σ} {guard : σ → ε → Prop} {P : σ → Prop}
    (hstep : ∀ s e, P s → allowed s e → (P (next s e) ↔ guard s e)) (hs : P s)
    (hallowed : Guarded (fun s e => some (next s e)) allowed s es) :
    (∀ done, done <+: es → P (done.foldl next s))
      ↔ Guarded (fun s e => some (next s e)) guard s es := by
  have hnext : ∀ s e t, True → P s → allowed s e → some (next s e) = some t →
      (P t ↔ guard s e) := by
    intro s e t _ hs hallowed ht
    rw [← Option.some.inj ht]
    exact hstep s e hs hallowed
  rw [← forall_reached_iff_guarded (fun _ _ _ _ _ _ => trivial) hnext
    (fun _ _ _ _ _ hstop => absurd hstop (by simp)) trivial hs hallowed]
  constructor
  · intro h done t hdone ht
    rw [run_some] at ht
    exact Option.some.inj ht ▸ h done hdone
  · intro h done hdone
    exact h done _ hdone (run_some next s done)

/-- Without a restriction every run is one of allowed events. -/
theorem guarded_true {step : σ → ε → Option σ} :
    ∀ {es : List ε} {s : σ}, Guarded step (fun _ _ => True) s es := by
  intro es
  induction es with
  | nil => exact fun {_} => trivial
  | cons e es ih =>
    intro s
    rw [Guarded]
    refine ⟨trivial, ?_⟩
    split
    · trivial
    · exact ih

/-- **A part that has events of its own.** If every step either leaves the part alone or moves it by
one event of its own, a run moves it by its own events, in their order. -/
theorem part_run {α β : Type} {next : σ → ε → σ} {guard : σ → ε → Prop} (part : σ → Option α)
    {own : ε → Option β} {step : α → β → Option α} (hstep : ∀ s e, guard s e →
      part (next s e) = (own e).elim (part s) fun b => (part s).bind (step · b)) {es : List ε}
    {s : σ} (h : Guarded (fun s e => some (next s e)) guard s es) :
    part (es.foldl next s) = (part s).bind fun a => run step a (es.filterMap own) := by
  induction es generalizing s with
  | nil => exact (Option.bind_fun_some (part s)).symm
  | cons e es ih =>
    rw [List.foldl_cons, ih h.2, hstep s e h.1]
    cases hown : own e with
    | none => rw [List.filterMap_cons_none hown, Option.elim_none]
    | some b =>
      rw [List.filterMap_cons_some hown, Option.elim_some, Option.bind_assoc]
      congr 1
      funext a
      rw [run]
      cases step a b <;> rfl

end NetplayRelay.Lib
