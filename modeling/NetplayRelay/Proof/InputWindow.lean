import NetplayRelay.Proof.Frames

/-!
# The input window

A version 5 room takes input for at most 96 frames beyond the frame it releases next. The check is
made on each batch, against the release cursor of that moment. That the bound holds in every state
afterwards needs more: the release cursor never falls behind the start of the session, it only goes
back when all input cursors are forgotten, and an input cursor that is forgotten counts from the
start of the session.
-/

namespace NetplayRelay.Proof

open Lib Protocol Rooms Registry NetplayRoom

variable {relay : Relay} {r r' : NetplayRoom} {core core' : SessionCore}

/-- Nobody is more than the window ahead of the release. -/
structure InWindow (core : SessionCore) : Prop where
  cursor : ∀ p frame, core.nextInputFrames.lookup p = some frame →
    frame ≤ core.nextReleaseFrame + v5MaxFutureFrameDistance + 1
  /-- Frames are released from the start on. -/
  behind : core.syncStartFrame ≤ core.nextReleaseFrame
  /-- Only a strict room holds an open, and only for the next release. -/
  pending : ∀ frame, core.pendingHostFrameOpen = some frame →
    core.usesStrict ∧ frame = core.nextReleaseFrame

namespace InWindow

theorem expectedFrame_le (h : InWindow (sessionCore r)) (p : PlayerIndex) :
    r.expectedFrame p ≤ r.nextReleaseFrame + v5MaxFutureFrameDistance + 1 := by
  rw [expectedFrame]
  cases hp : r.nextInputFrames.lookup p with
  | none =>
    have hbehind : r.syncStartFrame ≤ r.nextReleaseFrame := h.behind
    rw [Option.getD_none]
    omega
  | some frame => exact h.cursor p frame hp

theorem of_restart (hpending : core.pendingHostFrameOpen = none)
    (hrelease : core.nextReleaseFrame = core.syncStartFrame) (hcursor : core.nextInputFrames = ∅) :
    InWindow core where
  cursor := by
    rw [hcursor]
    intro p frame h
    exact absurd h (by simp)
  behind := hrelease.ge
  pending := fun _ h => absurd (hpending.symm.trans h) (by simp)

/-- The release goes forward or stays, and no input cursor moves. -/
theorem of_forward (h : InWindow core) (hstrict : core'.usesStrict = core.usesStrict)
    (hforward : core.nextReleaseFrame ≤ core'.nextReleaseFrame)
    (hstart : core'.syncStartFrame = core.syncStartFrame)
    (hcursor : ∀ p frame, core'.nextInputFrames.lookup p = some frame →
      core.nextInputFrames.lookup p = some frame) (hpending : core'.pendingHostFrameOpen = none
      ∨ core'.pendingHostFrameOpen = core.pendingHostFrameOpen
        ∧ core'.nextReleaseFrame = core.nextReleaseFrame) : InWindow core' where
  cursor := by
    intro p frame hp
    have := h.cursor p frame (hcursor p frame hp)
    omega
  behind := by
    rw [hstart]
    exact h.behind.trans hforward
  pending := by
    intro frame hframe
    rcases hpending with hnone | ⟨hsame, hrelease⟩
    · exact absurd (hnone.symm.trans hframe) (by simp)
    · rw [hstrict, hrelease]
      exact h.pending frame (hsame.symm.trans hframe)

/-- Input cursors may have been forgotten, the rest of the frame data is as before. -/
theorem of_forgotten (h : InWindow core) (hstrict : core'.usesStrict = core.usesStrict)
    (hpending : core'.pendingHostFrameOpen = core.pendingHostFrameOpen)
    (hrelease : core'.nextReleaseFrame = core.nextReleaseFrame)
    (hstart : core'.syncStartFrame = core.syncStartFrame)
    (hcursor : ∀ p frame, core'.nextInputFrames.lookup p = some frame →
      core.nextInputFrames.lookup p = some frame) : InWindow core' :=
  h.of_forward hstrict hrelease.ge hstart hcursor (.inr ⟨hpending, hrelease⟩)

theorem of_same (h : InWindow (sessionCore r)) (hsame : SameSession r r') :
    InWindow (sessionCore r') := by
  rw [hsame.core]
  exact h

end InWindow

theorem Negotiated.window (hr : Negotiated r r') (h : InWindow (sessionCore r)) :
    InWindow (sessionCore r') := by
  obtain ⟨_, hcore⟩ := hr.core
  rw [hcore]
  exact h.of_forgotten rfl rfl rfl rfl fun _ _ => id

theorem detachInputSocket_window {c : ConnectionId} {p : PlayerIndex} {now : Instant}
    (h : InWindow (sessionCore r)) : InWindow (sessionCore (r.detachInputSocket c p now)) :=
  h.of_forgotten rfl rfl rfl rfl fun _ _ => lookup_erase_some

theorem controlLoss_window {c : ConnectionId} {now : Instant} {grace : Duration}
    (hinv : InWindow (sessionCore r)) (h : ControlLoss r c now grace r') :
    InWindow (sessionCore r') := by
  cases h with
  | unknown _ h => exact hinv.of_same h
  | alsoLost hr₁ =>
    exact (hinv.of_same hr₁).of_forgotten rfl rfl rfl rfl fun _ _ => lookup_erase_some
  | handoffKept | recovery | hostGone | guestGone => exact .of_restart rfl rfl rfl

theorem OpenAllowed.usesStrict {c : ConnectionId} {frameOpen : HostFrameOpen}
    (h : OpenAllowed r c frameOpen) : r.usesStrictControllerInput := by
  by_contra hlegacy
  have hsender := h.sender
  rw [validateHostFrameSender, if_pos (by simpa using hlegacy)] at hsender
  exact absurd hsender (by simp)

/-- Every call that is no legacy input keeps everybody in the window. -/
theorem effect_window {op : RoomOp} (hnolegacy : fromInputSocket r op = false)
    (hframes : FrameInv (sessionCore r)) (hinv : InWindow (sessionCore r))
    (h : Effect relay r op r') : InWindow (sessionCore r') := by
  cases h with
  | bookkeeping h => exact hinv.of_same h
  | joined | reconnected | exited | restartedByLast | restarted | resynced | pinned =>
    exact .of_restart rfl rfl rfl
  | handoffReconnected | inputAttached => exact hinv
  | controlLost h => exact controlLoss_window hinv h
  | inputLost => exact detachInputSocket_window hinv
  | inputAndControlLost _ _ _ h => exact controlLoss_window (detachInputSocket_window hinv) h
  | pinTimedOut => exact hinv.of_forward rfl le_rfl rfl (fun _ _ => id) (.inl rfl)
  | handoffsLapsed hcleared =>
    rw [hcleared.core]
    exact .of_restart rfl rfl rfl
  | heartbeatsStopped _ hdropped =>
    rw [hdropped.core]
    exact .of_restart rfl rfl rfl
  | hostAttached | fingerprintRejected | fingerprintStored | fingerprintsDiffer | fingerprintsAgree
  | linkRejected | linkStored | linksDiffer | linksAgree | snapshotCompleted | sampleStored
  | voteCounted | pauseOpened | pauseNoted | paused | pauseEndedByLast | pauseEnded =>
    exact hinv.of_forgotten rfl rfl rfl rfl fun _ _ => id
  | becameReady _ h =>
    obtain ⟨_, hcore⟩ := h.core
    rw [hcore]
    exact hinv.of_forgotten rfl rfl rfl rfl fun _ _ => id
  | startedNow _ hr₁ | startFixedBySample hr₁ | startFixedByVote hr₁ =>
    have hinv₁ := hr₁.window (hinv.of_forgotten rfl rfl rfl rfl fun _ _ => id)
    exact hinv₁.of_forgotten rfl rfl rfl rfl fun _ _ => id
  | @inputAccepted _ batch last next _ _ _ _ hwindow =>
    refine ⟨fun p frame hp => ?_, hinv.behind, hinv.pending⟩
    have hp' : (r.nextInputFrames.insert batch.playerIndex next).lookup p = some frame := hp
    by_cases h : p = batch.playerIndex
    · rw [h, AList.lookup_insert] at hp'
      exact Option.some.inj hp' ▸ hwindow
    · rw [AList.lookup_insert_ne h] at hp'
      exact hinv.cursor p frame hp'
  | openHeld _ _ _ hnext _ hallowed =>
    refine ⟨hinv.cursor, hinv.behind, fun frame hframe => ?_⟩
    obtain rfl := Option.some.inj hframe
    exact ⟨hallowed.usesStrict, hnext⟩
  | frameReleased _ hnext | openedByHost _ hnext =>
    refine hinv.of_forward rfl ?_ rfl (fun _ _ => id) (.inl rfl)
    exact hnext ▸ le_satAdd hframes.release
  | openedByTimer _ hpending =>
    refine hinv.of_forward rfl ?_ rfl (fun _ _ => id) (.inl rfl)
    obtain ⟨_, rfl⟩ := hinv.pending _ hpending
    exact le_satAdd hframes.release
  | legacyInput _ hsender => exact absurd (hnolegacy.symm.trans hsender) (by simp)
  | legacyTick hlegacy h =>
    have hnone : r.pendingHostFrameOpen = none := by
      cases hpending : r.pendingHostFrameOpen with
      | none => rfl
      | some frame =>
        have hstrict := (hinv.pending frame hpending).1
        exact absurd (hlegacy.symm.trans hstrict) (by simp)
    rw [h.core]
    exact hinv.of_forward rfl (h.forward hframes.release) rfl (fun _ _ => id) (.inl hnone)
  | recoveryPrepared hr₁ | recoveryLimited hr₁ =>
    exact (hinv.of_same hr₁).of_forward rfl le_rfl rfl (fun _ _ => id) (.inl rfl)

/-- What the transport lets through: the input session of a version 5 room decodes version 5
messages only, and the legacy input message of the control socket does not come in on an input
socket. -/
def Routed (r : NetplayRoom) (op : RoomOp) : Prop :=
  5 ≤ r.protocolVersion → fromInputSocket r op = false

instance (r : NetplayRoom) (op : RoomOp) : Decidable (Routed r op) :=
  inferInstanceAs (Decidable (_ → _))

/-- **In every version 5 room, whatever happened before, no player's accepted input is more than the
window ahead of the next release.** -/
theorem input_within_window {roomId key c session version resume input now voice ops s}
    (hguarded : Guarded (StoredRoom.step relay)
      (fun s op => Admissible s.room op ∧ Routed s.room op)
      (createRoom roomId key c session version resume input now voice) ops)
    (hrun : run (StoredRoom.step relay)
      (createRoom roomId key c session version resume input now voice) ops = some s)
    (hversion : 5 ≤ s.room.protocolVersion) (p : PlayerIndex) :
    s.room.expectedFrame p ≤ s.room.nextReleaseFrame + 97 := by
  let Inv : StoredRoom → Prop := fun s => Reachable relay s
    ∧ (5 ≤ s.room.protocolVersion → InWindow (sessionCore s.room))
  have hkeep : ∀ s op t, Inv s → Admissible s.room op ∧ Routed s.room op →
      s.step relay op = some t → Inv t := by
    intro s op t hs hcall hstep
    refine ⟨reachable_step hs.1 hcall.1 hstep, fun hversion => ?_⟩
    have heffect := applyOp_effect relay s.room op
    rw [step_room hstep] at hversion ⊢
    rw [(effect_terms heffect).protocolVersion] at hversion
    exact effect_window (hcall.2 hversion) (frames_reachable hs.1) (hs.2 hversion) heffect
  have hnew : Inv (createRoom roomId key c session version resume input now voice) := by
    refine ⟨reachable_createRoom, ?_⟩
    intro _
    cases voice <;> exact .of_restart rfl rfl rfl
  exact ((invariant_run hkeep hguarded hrun hnew).2 hversion).expectedFrame_le p

/-- The host sends two frames of input in the first session. -/
theorem input_within_window_playing :
    ∃ s, run (StoredRoom.step sampleRelay) (sampleRoom 5) (seating false ++ handshake 5 0
          ++ [.relayStrictInputBatch hostInput (sampleBatch .one 0)]) = some s
      ∧ s.room.expectedFrame .one = 2
        ∧ s.room.expectedFrame .one ≤ s.room.nextReleaseFrame + 97 := by
  have hfacts : Guarded (StoredRoom.step sampleRelay)
        (fun s op => Admissible s.room op ∧ Routed s.room op) (sampleRoom 5)
        (seating false ++ handshake 5 0
          ++ [.relayStrictInputBatch hostInput (sampleBatch .one 0)])
      ∧ ∃ s ∈ run (StoredRoom.step sampleRelay) (sampleRoom 5) (seating false ++ handshake 5 0
          ++ [.relayStrictInputBatch hostInput (sampleBatch .one 0)]),
        s.room.expectedFrame .one = 2 ∧ 5 ≤ s.room.protocolVersion := by
    decide +kernel
  obtain ⟨hguarded, s, hs, hframe, hversion⟩ := hfacts
  exact ⟨s, hs, hframe, input_within_window hguarded hs hversion .one⟩

end NetplayRelay.Proof
