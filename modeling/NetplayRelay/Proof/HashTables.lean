import NetplayRelay.Lib.Span
import NetplayRelay.Proof.Histories
import NetplayRelay.Proof.SideSteps
import NetplayRelay.Proof.StateHashes

/-!
# How long state hashes are kept

When every connected player has reported a frame, the hashes of all frames more than 600 below it
are dropped. A report that is still waiting for the other player's drops nothing. So the table stays
within the retention window exactly as long as nobody reports a frame that is too far from what is
kept: too far below when the frame is judged, too far on either side when it is not. One player
alone can fill the table with frames the other one never reports.
-/

namespace NetplayRelay.Proof

open Lib Protocol Rooms Registry NetplayRoom

variable {relay : Relay} {r r' : NetplayRoom}

/-! ## The frames in the table -/

/-- The frames that some hash is kept for. -/
def keptFrames (r : NetplayRoom) : Set Nat := {frame | frame ∈ r.stateHashes}

/-- No two frames in the table are further apart than the retention window. -/
def TableInWindow (r : NetplayRoom) : Prop := Spans stateHashRetainFrames (keptFrames r)

theorem keptFrames_store (p : PlayerIndex) (report : StateHashReport) :
    keptFrames (r.storeStateHash p report) = insert report.frame (keptFrames r) := by
  ext frame
  exact AList.mem_insert _

theorem mem_retainFrom {table : AList fun _ : Nat => PlayerMap Text} {least frame : Nat} :
    frame ∈ retainFrom table least ↔ frame ∈ table ∧ least ≤ frame := by
  rw [AList.mem_keys, AList.mem_keys, AList.keys, AList.keys, List.mem_keys, List.mem_keys]
  simp only [retainFrom, List.mem_filter, decide_eq_true_eq]
  exact ⟨fun ⟨hashes, hmem, hle⟩ => ⟨⟨hashes, hmem⟩, hle⟩,
    fun ⟨⟨hashes, hmem⟩, hle⟩ => ⟨hashes, hmem, hle⟩⟩

theorem keptFrames_judged (p : PlayerIndex) (report : StateHashReport) :
    keptFrames (judgedRoom r p report)
      = {frame ∈ insert report.frame (keptFrames r)
          | report.frame - stateHashRetainFrames ≤ frame} := by
  rw [← keptFrames_store p report]
  ext frame
  exact mem_retainFrom

/-- A table that spans the window has at most 601 frames. -/
theorem TableInWindow.length_le (h : TableInWindow r) : r.stateHashes.entries.length ≤ 601 := by
  have hkeys : (r.stateHashes.keys.toFinset : Set Nat) = keptFrames r := by
    ext frame
    rw [List.coe_toFinset]
    exact AList.mem_keys.symm
  have hcard : r.stateHashes.keys.toFinset.card ≤ stateHashRetainFrames + 1 :=
    Spans.card_le (by rw [hkeys]; exact h)
  have hnodup : r.stateHashes.keys.Nodup := r.stateHashes.nodupKeys
  rw [List.toFinset_card_of_nodup hnodup, AList.keys, List.keys, List.length_map] at hcard
  exact hcard

theorem tableInWindow_of_empty (h : r.stateHashes = ∅) : TableInWindow r := by
  refine spans_empty.mono fun frame hframe => ?_
  rw [keptFrames, h] at hframe
  exact absurd hframe (by simp)

/-! ## One report -/

/-- The report ends a legacy session, and with it the table. -/
def resyncs (r : NetplayRoom) (order : HashOrder) (p : PlayerIndex) (report : StateHashReport) :
    Bool :=
  completesMismatch r p report && r.stateDigestMode order = .authoritative
    && !r.usesStrictControllerInput

/-- The calls that take the table out of the window: a report that is stored too far from a frame
that is kept. -/
def stretches (r : NetplayRoom) : RoomOp → Bool
  | .recordStateHash order c report _ => (reporter r order c report).any fun p =>
    !resyncs r order p report && r.stateHashes.keys.any fun frame =>
      decide (report.frame + stateHashRetainFrames < frame)
        || !frameComplete r p report && decide (frame + stateHashRetainFrames < report.frame)
  | _ => false

/-- A repair in a strict room leaves the table and the link alone. -/
theorem beginAuthoritativeRecovery_strict (hstrict : r.usesStrictControllerInput)
    (mismatch : StateHashMismatchView) (now : Instant) :
    (r.beginAuthoritativeRecovery mismatch now).2.stateHashes = r.stateHashes
      ∧ (r.beginAuthoritativeRecovery mismatch now).2.linkCableState = r.linkCableState := by
  unfold beginAuthoritativeRecovery beginV5StateRecovery
  rw [if_pos hstrict]
  by_cases hopen : r.stateRecovery.isSome
  · rw [if_pos (by simp [hopen])]
    exact ⟨rfl, rfl⟩
  rw [if_neg (by simp [hopen, hstrict])]
  dsimp only
  by_cases hattempts : (r.openStateRecovery mismatch now).stateRecoveryStartedAt.length
      ≥ stateRecoveryMaxAttempts
  · rw [if_pos hattempts]
    exact ⟨rfl, rfl⟩
  · rw [if_neg hattempts]
    exact ⟨rfl, rfl⟩

/-- The legacy repair empties the table and forgets the link. -/
theorem beginAuthoritativeRecovery_legacy (hlegacy : r.usesStrictControllerInput = false)
    (mismatch : StateHashMismatchView) (now : Instant) :
    (r.beginAuthoritativeRecovery mismatch now).2.stateHashes = ∅
      ∧ (r.beginAuthoritativeRecovery mismatch now).2.linkCableState = .default := by
  unfold beginAuthoritativeRecovery
  rw [if_neg (by simp [hlegacy])]
  exact ⟨rfl, rfl⟩

theorem any_far_eq_false {frames : List Nat} {new : Nat} {complete : Bool} :
    (frames.any fun frame => decide (new + stateHashRetainFrames < frame)
        || !complete && decide (frame + stateHashRetainFrames < new)) = false
      ↔ ∀ frame ∈ frames, frame ≤ new + stateHashRetainFrames
        ∧ (complete = false → new ≤ frame + stateHashRetainFrames) := by
  rw [List.any_eq_false]
  refine forall_congr' fun frame => imp_congr_right fun _ => ?_
  cases complete <;> simp

/-- A judged frame leaves the table in the window unless it is too far below a frame that is
kept. -/
theorem judgedRoom_inWindow_iff (h : TableInWindow r) (p : PlayerIndex)
    (report : StateHashReport) : TableInWindow (judgedRoom r p report)
      ↔ ∀ frame ∈ keptFrames r, frame ≤ report.frame + stateHashRetainFrames := by
  rw [TableInWindow, keptFrames_judged]
  exact spans_insert_above h

theorem recordStateHash_inWindow_iff {order : HashOrder} {c : ConnectionId}
    {report : StateHashReport} {now : Instant} (h : TableInWindow r) :
    TableInWindow (r.acceptStateHash order c report now).2
      ↔ stretches r (.recordStateHash order c report now) = false := by
  have hverdict := acceptStateHash_verdicts (r := r) order c report now
  generalize r.acceptStateHash order c report now = outcome at hverdict ⊢
  cases hverdict with
  | unheard hnone => simp only [stretches, reporter_eq_none hnone, Option.any_none, h]
  | @stored p htaken hmissing =>
    have hresyncs : resyncs r order p report = false := by
      rw [resyncs, completesMismatch_eq, hmissing]
      rfl
    simp only [stretches, reporter_eq_some.mpr htaken, Option.any_some, hresyncs, Bool.not_false,
      Bool.true_and]
    rw [any_far_eq_false, TableInWindow, keptFrames_store, spans_insert,
      and_iff_right (show Spans _ _ from h),
      hmissing]
    exact forall₂_congr fun frame _ => by simp [and_comm]
  | @matched p htaken hall hsame =>
    have hresyncs : resyncs r order p report = false := by
      rw [resyncs, completesMismatch_eq, hsame, Bool.and_false]
      rfl
    simp only [stretches, reporter_eq_some.mpr htaken, Option.any_some, hresyncs, Bool.not_false,
      Bool.true_and]
    rw [any_far_eq_false, hall]
    refine (judgedRoom_inWindow_iff h p report).trans ?_
    exact forall₂_congr fun frame _ => by simp
  | @told p mismatch result htaken hdiffer hmode =>
    have hall : frameComplete r p report = true := by
      rw [completesMismatch_eq, Bool.and_eq_true] at hdiffer
      exact hdiffer.1
    have hresyncs : resyncs r order p report = false := by simp [resyncs, hmode]
    simp only [stretches, reporter_eq_some.mpr htaken, Option.any_some, hresyncs, Bool.not_false,
      Bool.true_and]
    rw [any_far_eq_false, hall]
    refine (judgedRoom_inWindow_iff h p report).trans ?_
    exact forall₂_congr fun frame _ => by simp
  | @judged p nearby htaken hdiffer hmode =>
    have hall : frameComplete r p report = true := by
      rw [completesMismatch_eq, Bool.and_eq_true] at hdiffer
      exact hdiffer.1
    have hkept := (judgedRoom_same (r := r) p report).usesStrictControllerInput
    by_cases hstrict : r.usesStrictControllerInput
    · have hresyncs : resyncs r order p report = false := by simp [resyncs, hstrict]
      simp only [stretches, reporter_eq_some.mpr htaken, Option.any_some, hresyncs,
        Bool.not_false, Bool.true_and]
      rw [any_far_eq_false, hall, TableInWindow, keptFrames,
        (beginAuthoritativeRecovery_strict (hkept.trans hstrict) _ _).1]
      refine (judgedRoom_inWindow_iff h p report).trans ?_
      exact forall₂_congr fun frame _ => by simp
    · have hresyncs : resyncs r order p report = true := by
        simp [resyncs, hdiffer, hmode, hstrict]
      simp only [stretches, reporter_eq_some.mpr htaken, Option.any_some, hresyncs, Bool.not_true,
        Bool.false_and, iff_true]
      exact tableInWindow_of_empty (beginAuthoritativeRecovery_legacy
        (hkept.trans (by simpa using hstrict)) _ _).1

/-! ## All other calls -/

def isStateHash : RoomOp → Bool
  | .recordStateHash _ _ _ _ => true
  | _ => false

/-- No other call adds a hash. -/
theorem effect_stateHashes {op : RoomOp} (hop : isStateHash op = false) (h : Effect relay r op r') :
    r'.stateHashes = r.stateHashes ∨ r'.stateHashes = ∅ := by
  cases effect_side h with
  | aside haside =>
    cases haside with
    | kept h | romGranted _ _ _ h | romWentOn _ _ h | romEnded h | fileGranted _ h
    | packetTaken h =>
      exact .inl (congrArg (·.stateHashes) h)
    | hashNoted => exact absurd hop (by simp [isStateHash])
  | fresh hside | resumed hside => exact .inr (congrArg (·.stateHashes) hside)
  | rejected hside | linked hside => exact .inl (congrArg (·.stateHashes) hside)

theorem step_inWindow_iff {op : RoomOp} (h : TableInWindow r) :
    TableInWindow (applyOp relay r op) ↔ stretches r op = false := by
  cases hop : isStateHash op with
  | true =>
    cases op with
    | recordStateHash order c report now => exact recordStateHash_inWindow_iff h
    | _ => exact absurd hop (by simp [isStateHash])
  | false =>
    have hquiet : stretches r op = false := by
      cases op with
      | recordStateHash => exact absurd hop (by simp [isStateHash])
      | _ => rfl
    refine iff_of_true ?_ hquiet
    rcases effect_stateHashes hop (applyOp_effect relay r op) with hsame | hempty
    · rw [TableInWindow, keptFrames, hsame]
      exact h
    · exact tableInWindow_of_empty hempty

/-! ## Whole runs -/

/-- **In every state of a history the table is within the retention window, and has no more than 601
frames, exactly if no report of the history is stored too far from what is kept.** -/
theorem hash_table_bounded_iff {roomId key c session version resume input now voice ops}
    (hadmissible : Guarded (StoredRoom.step relay) (fun s op => Admissible s.room op)
      (createRoom roomId key c session version resume input now voice) ops) :
    (∀ done s, done <+: ops → run (StoredRoom.step relay)
        (createRoom roomId key c session version resume input now voice) done = some s →
      TableInWindow s.room ∧ s.room.stateHashes.entries.length ≤ 601)
      ↔ Guarded (StoredRoom.step relay) (fun s op => stretches s.room op = false)
        (createRoom roomId key c session version resume input now voice) ops := by
  have hstep : ∀ (s : StoredRoom) (op : RoomOp) (t : StoredRoom), True → TableInWindow s.room →
      Admissible s.room op → s.step relay op = some t →
      (TableInWindow t.room ↔ stretches s.room op = false) := by
    intro s op t _ hs _ hstep
    rw [step_room hstep]
    exact step_inWindow_iff hs
  have hstop : ∀ (s : StoredRoom) (op : RoomOp), True → TableInWindow s.room →
      Admissible s.room op → s.step relay op = none → stretches s.room op = false := by
    intro s op _ _ _ hstop
    cases op with
    | recordStateHash => exact absurd hstop (by simp [StoredRoom.step, StoredRoom.removedBy])
    | _ => rfl
  have hnew : TableInWindow
      (createRoom roomId key c session version resume input now voice).room := by
    refine tableInWindow_of_empty ?_
    cases voice <;> rfl
  rw [← forall_reached_iff_guarded
    (fun _ _ _ _ _ _ => trivial) hstep hstop trivial hnew hadmissible]
  refine forall₄_congr fun done s _ _ => ?_
  exact and_iff_left_of_imp TableInWindow.length_le

/-- Both players of a legacy session report the same states. -/
def matchingReports : List RoomOp :=
  [.recordStateHash .stored hostSocket ⟨0, sampleHash⟩ 0,
    .recordStateHash .stored guestSocket ⟨0, sampleHash⟩ 0,
    .recordStateHash .stored hostSocket ⟨500, sampleHash⟩ 0,
    .recordStateHash .stored guestSocket ⟨500, sampleHash⟩ 0,
    .recordStateHash .stored hostSocket ⟨600, sampleHash⟩ 0]

theorem hash_table_bounded_matching : ∃ s, run (StoredRoom.step sampleRelay) (sampleRoom 4)
      (seating false ++ handshake 4 0 ++ matchingReports) = some s
    ∧ s.room.stateHashes.keys = [600, 500, 0] ∧ TableInWindow s.room := by
  have hfacts :
      Possible sampleRelay (sampleRoom 4) (seating false ++ handshake 4 0 ++ matchingReports)
      ∧ Guarded (StoredRoom.step sampleRelay) (fun s op => stretches s.room op = false)
        (sampleRoom 4)
        (seating false ++ handshake 4 0 ++ matchingReports)
      ∧ (after sampleRelay (sampleRoom 4)
        (seating false ++ handshake 4 0 ++ matchingReports)).room.stateHashes.keys
          = [600, 500, 0] := by
    decide +kernel
  obtain ⟨hpossible, hclose, hkeys⟩ := hfacts
  exact ⟨_, hpossible.run_eq, hkeys, ((hash_table_bounded_iff hpossible.1).mpr hclose _ _
    (List.prefix_refl _) hpossible.run_eq).1⟩

/-- The host reports two frames that the guest has not reached. -/
def aheadReports : List RoomOp :=
  [.recordStateHash .stored hostSocket ⟨0, sampleHash⟩ 0,
    .recordStateHash .stored hostSocket ⟨601, sampleHash⟩ 0]

def outgrownRoom : StoredRoom :=
  after sampleRelay (sampleRoom 4) (seating false ++ handshake 4 0 ++ aheadReports)

/-- Both stay in the table, 601 frames apart. -/
theorem hash_table_outgrows_window :
    Reachable sampleRelay outgrownRoom ∧ ¬TableInWindow outgrownRoom.room := by
  have hkeys : outgrownRoom.room.stateHashes.keys = [601, 0] := by decide +kernel
  have hkept : ∀ frame ∈ [601, 0], frame ∈ keptFrames outgrownRoom.room := by
    intro frame hframe
    rw [← hkeys] at hframe
    exact AList.mem_keys.mpr hframe
  refine ⟨reachable_after (by decide +kernel), fun hwindow => ?_⟩
  have hclose := hwindow 0 (hkept 0 (by simp)) 601 (hkept 601 (by simp))
  exact absurd hclose (by decide)

end NetplayRelay.Proof
