import NetplayRelay.Proof.EpochRuns
import NetplayRelay.Proof.Frames

/-!
# Cursors only move forward

Within one session epoch the frame a player's input is expected from and the frame that is released
next never go back: whatever resets them also moves the epoch on, or finds nothing to reset. This
fails for the calls of `rewinds`. They reset a room whose cursors have moved on the epochs it has:
the loss of a control socket outside a running session or under an armed handoff, the loss of an
input socket outside a running session, an exit, and the sweep of a lapsed handoff.
-/

namespace NetplayRelay.Proof

open Lib Protocol Rooms Registry NetplayRoom

/-- Input has been accepted or a frame released beyond frame zero. -/
def moved (r : NetplayRoom) : Bool :=
  0 < r.nextReleaseFrame || r.nextInputFrames.entries.any fun cursor => 0 < cursor.2

/-- The calls that take a cursor back on the same epochs. -/
def rewinds (r : NetplayRoom) : RoomOp → Bool
  | .disconnect c now => moved r
    && (r.slotForConnection c).any fun slot => handoffArmed slot now || !r.status.isRecoverable
  | .disconnectInputSocket c now => (r.slotForInputConnection c).any fun slot =>
    if r.status.inputLossIsRecoverable then moved r && handoffArmed slot now
    else r.syncStartFrame < r.expectedFrame slot.playerIndex
  | .playerExited c _ => moved r && (r.playerIndexForConnection c).isSome
  | .sweep now => moved r && !r.stateRecoveryPinExpired now
    && (hostHandoffLapsed r now || guestHandoffLapsed r now)
  | _ => false

/-- No cursor goes back unless the session epoch has moved on. -/
structure Onward (r r' : NetplayRoom) : Prop where
  epoch : r.sessionEpoch ≤ r'.sessionEpoch
  cursor : r'.sessionEpoch = r.sessionEpoch → ∀ p, r.expectedFrame p ≤ r'.expectedFrame p
  release : r'.sessionEpoch = r.sessionEpoch → r.nextReleaseFrame ≤ r'.nextReleaseFrame

variable {relay : Relay} {r r' r'' r₁ : NetplayRoom} {c : ConnectionId} {now : Instant}
  {grace : Duration}

namespace Onward

theorem refl (r : NetplayRoom) : Onward r r := ⟨le_rfl, fun _ _ => le_rfl, fun _ => le_rfl⟩

/-- Epochs only grow, so a run that ends on the epoch it began with never left it. -/
theorem trans (h : Onward r r') (h' : Onward r' r'') : Onward r r'' where
  epoch := h.epoch.trans h'.epoch
  cursor := by
    intro heq p
    have hmid : r'.sessionEpoch = r.sessionEpoch := by
      have := h.epoch
      have := h'.epoch
      omega
    exact (h.cursor hmid p).trans (h'.cursor (heq.trans hmid.symm) p)
  release := by
    intro heq
    have hmid : r'.sessionEpoch = r.sessionEpoch := by
      have := h.epoch
      have := h'.epoch
      omega
    exact (h.release hmid).trans (h'.release (heq.trans hmid.symm))

theorem of_bump (hbound : r.sessionEpoch < u64Max)
    (h : r'.sessionEpoch = satAdd u64Max r.sessionEpoch 1) : Onward r r' := by
  have hlt := lt_satAdd_one hbound
  rw [← h] at hlt
  exact ⟨hlt.le, fun heq => absurd heq (by omega), fun heq => absurd heq (by omega)⟩

/-- Input cursors as before, and the release cursor not behind. -/
theorem of_cursors (hepoch : r'.sessionEpoch = r.sessionEpoch)
    (hcursors : r'.nextInputFrames = r.nextInputFrames)
    (hstart : r'.syncStartFrame = r.syncStartFrame)
    (hrelease : r.nextReleaseFrame ≤ r'.nextReleaseFrame) : Onward r r' := by
  refine ⟨hepoch.ge, fun _ p => ?_, fun _ => hrelease⟩
  rw [NetplayRoom.expectedFrame, NetplayRoom.expectedFrame, hcursors, hstart]

theorem of_same (h : SameSession r r') : Onward r r' :=
  ⟨h.sessionEpoch.ge, fun _ p => (h.expectedFrame p).ge, fun _ => h.nextReleaseFrame.ge⟩

end Onward

/-- Where nothing has moved every cursor is at frame zero. -/
theorem unmoved {r : NetplayRoom} (hinv : FrameInv (sessionCore r))
    (hstrict : r.usesStrictControllerInput) (h : moved r = false) :
    r.nextReleaseFrame = 0 ∧ ∀ p, r.expectedFrame p = 0 := by
  simp only [moved, Bool.or_eq_false_iff, decide_eq_false_iff_not, not_lt, Nat.le_zero,
    List.any_eq_false] at h
  obtain ⟨hrelease, hcursors⟩ := h
  refine ⟨hrelease, fun p => ?_⟩
  rw [NetplayRoom.expectedFrame]
  cases hp : r.nextInputFrames.lookup p with
  | none =>
    have hbehind : r.syncStartFrame ≤ r.nextReleaseFrame := hinv.behind hstrict
    rw [Option.getD_none]
    omega
  | some frame =>
    have hzero := hcursors _ (AList.mem_lookup_iff.mp hp)
    rw [Option.getD_some]
    simpa using hzero

theorem Onward.of_unmoved (hinv : FrameInv (sessionCore r)) (hstrict : r.usesStrictControllerInput)
    (h : moved r = false) (hepoch : r'.sessionEpoch = r.sessionEpoch) : Onward r r' := by
  obtain ⟨hrelease, hcursor⟩ := unmoved hinv hstrict h
  exact ⟨hepoch.ge, fun _ p => hcursor p ▸ Nat.zero_le _, fun _ => hrelease ▸ Nat.zero_le _⟩

/-- Nothing moves while a player is waited for. -/
theorem Idle.unmoved (h : Idle (sessionCore r)) : moved r = false := by
  have hcursors : r.nextInputFrames = ∅ := h.noInput
  have hrelease : r.nextReleaseFrame = 0 := h.release
  rw [moved, hcursors, hrelease]
  rfl

/-- An unarmed loss in a running session moves the epoch on. -/
theorem controlLoss_bumps {slot : PlayerSlot} (hslot : r.slotForConnection c = some slot)
    (hunarmed : handoffArmed slot now = false) (hrunning : r.status.isRecoverable)
    (hfirst : r.status ≠ .recovering) (h : ControlLoss r c now grace r') :
    r'.sessionEpoch = satAdd u64Max r.sessionEpoch 1 := by
  cases h with
  | unknown hnone => exact absurd (hnone.symm.trans hslot) (by simp)
  | handoffKept hslot' harmed =>
    obtain rfl := Option.some.inj (hslot.symm.trans hslot')
    exact absurd (harmed.symm.trans hunarmed) (by simp)
  | alsoLost _ _ _ _ hstatus => exact absurd hstatus hfirst
  | recovery hr₁ => simp [detachControl, markSlotReconnecting, hr₁.sessionEpoch]
  | hostGone _ _ _ _ _ hstatus | guestGone _ _ _ _ _ hstatus =>
    exact absurd (hstatus.symm.trans hrunning) (by simp)

/-- Without an input socket the cursor of its player is back at the start. -/
theorem expectedFrame_detachInputSocket {p q : PlayerIndex} :
    (r.detachInputSocket c p now).expectedFrame q
      = if q = p then r.syncStartFrame else r.expectedFrame q := by
  rw [NetplayRoom.expectedFrame, NetplayRoom.expectedFrame,
    detachInputSocket_nextInputFrames, detachInputSocket_syncStartFrame,
    updateSlot_syncStartFrame]
  split
  · rename_i h
    rw [h, AList.lookup_erase, Option.getD_none]
  · rename_i h
    rw [AList.lookup_erase_ne h]

/-- **No call that is not one of `rewinds` takes a cursor back within an epoch.** -/
theorem effect_onward {op : RoomOp} (hseats : Seats r) (hwaited : Waited r → Idle (sessionCore r))
    (hinv : FrameInv (sessionCore r)) (hstrict : r.usesStrictControllerInput)
    (hbound : r.sessionEpoch < u64Max) (hkept : rewinds r op = false)
    (h : Effect relay r op r') : Onward r r' := by
  -- with nothing to take back, only the epoch matters
  have hloss : ∀ {r₀ : NetplayRoom} {c now grace}, ControlLoss r₀ c now grace r' →
      r₀.sessionEpoch = r.sessionEpoch → moved r = false → Onward r r' := by
    intro r₀ c now grace h hepoch hunmoved
    rcases (controlLoss_epochs h).bumped.2 with hsame | hbump
    · exact .of_unmoved hinv hstrict hunmoved (hsame.trans hepoch)
    · exact .of_bump hbound (hepoch ▸ hbump)
  cases h with
  | bookkeeping h => exact .of_same h
  | joined | restartedByLast | restarted | pinned => exact .of_bump hbound rfl
  | hostAttached | handoffReconnected | inputAttached | pinTimedOut
  | fingerprintRejected | fingerprintStored | fingerprintsDiffer | fingerprintsAgree | linkRejected
  | linkStored | linksDiffer | linksAgree | snapshotCompleted | sampleStored | voteCounted
  | pauseOpened | pauseNoted | paused | pauseEndedByLast | pauseEnded | openHeld =>
    exact .of_cursors rfl rfl rfl le_rfl
  | reconnected _ hreturns _ hdeadline =>
    -- nothing is left of the session the player comes back to
    have hidle := hwaited (.inr ⟨_, List.mem_of_find?_eq_some hreturns.found, hdeadline⟩)
    exact .of_unmoved hinv hstrict hidle.unmoved rfl
  | exited hp =>
    refine .of_unmoved hinv hstrict ?_ rfl
    simpa [rewinds, hp] using hkept
  | @controlLost c now _ h =>
    cases hslot : r.slotForConnection c with
    | none =>
      cases h with
      | unknown _ h => exact .of_same h
      | handoffKept hslot' => exact absurd (hslot.symm.trans hslot') (by simp)
      | alsoLost _ hslot' | recovery _ hslot' | hostGone _ hslot' | guestGone _ hslot' =>
        exact absurd (hslot.symm.trans hslot') (by simp)
    | some slot =>
      simp only [rewinds, hslot, Option.any_some, Bool.and_eq_false_iff,
        Bool.or_eq_false_iff, Bool.not_eq_false'] at hkept
      rcases hkept with hunmoved | ⟨hunarmed, hrunning⟩
      · exact hloss h rfl hunmoved
      · by_cases hstatus : r.status = .recovering
        · exact hloss h rfl (hwaited (.inl hstatus)).unmoved
        · exact .of_bump hbound (controlLoss_bumps hslot hunarmed hrunning hstatus h)
  | @inputLost c now slot hslot hstatus =>
    have hcontrol := hseats.controlOfInput hslot
    have hstatus' : r.status.inputLossIsRecoverable = false := by
      by_contra hrec
      rw [hstatus (by simpa using hrec)] at hcontrol
      exact absurd hcontrol (by simp)
    simp only [rewinds, hslot, Option.any_some, hstatus', Bool.false_eq_true, if_false,
      decide_eq_false_iff_not, not_lt] at hkept
    refine ⟨le_rfl, fun _ p => ?_, fun _ => le_rfl⟩
    rw [expectedFrame_detachInputSocket]
    split
    · rename_i hp
      exact hp ▸ hkept
    · exact le_rfl
  | @inputAndControlLost c control now slot _ hslot hstatus hcontrol h =>
    simp only [rewinds, hslot, Option.any_some, hstatus, if_true, Bool.and_eq_false_iff] at hkept
    rcases hkept with hunmoved | hunarmed
    · exact hloss h (by simp) hunmoved
    by_cases hfirst : r.status = .recovering
    · exact hloss h (by simp) (hwaited (.inl hfirst)).unmoved
    have hrunning : r.status.isRecoverable := by
      cases hs : r.status <;> simp_all [RoomStatus.inputLossIsRecoverable, RoomStatus.isRecoverable]
    have hbump := controlLoss_bumps (slotForConnection_detachInputSocket hseats hslot hcontrol)
      hunarmed (by simpa using hrunning) (by simpa using hfirst) h
    exact .of_bump hbound (by simpa using hbump)
  | @handoffsLapsed now _ _ _ hcleared _ _ hpin hhandoffs =>
    -- a seat was given up, so there was nothing to take back
    have hanswer := expireRunnerHandoffs_answer r now
    rw [hhandoffs] at hanswer
    refine .of_unmoved hinv hstrict ?_ (congrArg (·.sessionEpoch) hcleared.core)
    simp only [rewinds, hpin, Bool.not_false, Bool.and_true, Bool.and_eq_false_iff,
      Bool.or_eq_false_iff] at hkept
    refine hkept.resolve_right fun hlapsed => ?_
    rw [hlapsed.1, hlapsed.2] at hanswer
    exact absurd hanswer (by simp)
  | heartbeatsStopped hr₁ hdropped =>
    have hbump := congrArg (·.sessionEpoch) hdropped.core
    exact .of_bump hbound (hr₁.sessionEpoch ▸ hbump)
  | becameReady _ h =>
    obtain ⟨_, hcore⟩ := h.core
    exact .of_cursors (congrArg (·.sessionEpoch) hcore)
      (congrArg (·.nextInputFrames) hcore) (congrArg (·.syncStartFrame) hcore)
      (congrArg (·.nextReleaseFrame) hcore).ge
  | startedNow _ hr₁ | startFixedBySample hr₁ | startFixedByVote hr₁ =>
    exact .of_cursors hr₁.sessionEpoch hr₁.nextInputFrames hr₁.syncStartFrame
      hr₁.nextReleaseFrame.ge
  | @inputAccepted _ batch last next _ _ hforward =>
    refine ⟨le_rfl, fun _ p => ?_, fun _ => le_rfl⟩
    rw [expectedFrame_recordInput]
    split
    · rename_i hp
      rw [hp]
      exact hforward.le
    · exact le_rfl
  | frameReleased _ hnext | openedByHost _ hnext =>
    refine .of_cursors rfl rfl rfl ?_
    have hrelease : r.nextReleaseFrame ≤ satAdd u64Max r.nextReleaseFrame 1 :=
      le_satAdd hinv.release
    rwa [← hnext] at hrelease ⊢
  | openedByTimer _ hpending =>
    obtain ⟨rfl, _⟩ := hinv.pending hstrict _ hpending
    exact .of_cursors rfl rfl rfl (le_satAdd hinv.release)
  | legacyInput h =>
    exact ⟨(congrArg (·.sessionEpoch) h.core).ge, fun _ => h.forward,
      fun _ => (congrArg (·.nextReleaseFrame) h.core).ge⟩
  | legacyTick hlegacy | resynced _ _ hlegacy => exact absurd (hlegacy.symm.trans hstrict) (by simp)
  | recoveryPrepared hr₁ | recoveryLimited hr₁ =>
    exact (Onward.of_same hr₁).trans (.of_cursors rfl rfl rfl le_rfl)

/-! ## The listed calls do take a cursor back -/

/-- On the same epochs some cursor is behind where it was. -/
structure TakesBack (r r' : NetplayRoom) : Prop where
  roomEpoch : r'.roomEpoch = r.roomEpoch
  sessionEpoch : r'.sessionEpoch = r.sessionEpoch
  behind : (∃ p, r'.expectedFrame p < r.expectedFrame p) ∨ r'.nextReleaseFrame < r.nextReleaseFrame

/-- A room that has moved is taken back by every reset. -/
theorem TakesBack.of_reset {status : RoomStatus} (hmoved : moved r)
    (h : sessionCore r' = { (sessionCore r).reset 0 with status := status }) : TakesBack r r' := by
  have hrelease : r'.nextReleaseFrame = 0 := congrArg (·.nextReleaseFrame) h
  have hcursor : ∀ p, r'.expectedFrame p = 0 := by
    intro p
    have hinput : r'.nextInputFrames = ∅ := congrArg (·.nextInputFrames) h
    have hstart : r'.syncStartFrame = 0 := congrArg (·.syncStartFrame) h
    rw [NetplayRoom.expectedFrame, hinput, hstart]
    rfl
  refine ⟨congrArg (·.roomEpoch) h, congrArg (·.sessionEpoch) h, ?_⟩
  simp only [moved, Bool.or_eq_true, decide_eq_true_eq, List.any_eq_true] at hmoved
  rcases hmoved with hmoved | ⟨⟨p, frame⟩, hmem, hframe⟩
  · exact .inr (hrelease ▸ hmoved)
  · refine .inl ⟨p, ?_⟩
    rw [hcursor, NetplayRoom.expectedFrame, AList.mem_lookup_iff.mpr hmem, Option.getD_some]
    exact hframe

theorem controlLoss_takesBack {r₀ : NetplayRoom} {slot : PlayerSlot} (hmoved : moved r)
    (hcore : (sessionCore r₀).reset 0 = (sessionCore r).reset 0)
    (hslot : r₀.slotForConnection c = some slot)
    (hcall : handoffArmed slot now ∨ r₀.status.isRecoverable = false)
    (h : ControlLoss r₀ c now grace r') : TakesBack r r' := by
  -- an armed handoff keeps the seat, so the other branches know that there is none
  have hidle : handoffArmed slot now = false → r₀.status.isRecoverable = false := by
    intro hunarmed
    exact hcall.resolve_left (by simp [hunarmed])
  cases h with
  | unknown hnone => exact absurd (hnone.symm.trans hslot) (by simp)
  | handoffKept => exact .of_reset hmoved (by rw [← hcore]; rfl)
  | alsoLost _ hslot₀ hunarmed _ hstatus =>
    obtain rfl := Option.some.inj (hslot.symm.trans hslot₀)
    exact absurd (hstatus ▸ hidle hunarmed) (by decide)
  | recovery _ hslot₀ hunarmed _ hstatus =>
    obtain rfl := Option.some.inj (hslot.symm.trans hslot₀)
    exact absurd (hstatus.symm.trans (hidle hunarmed)) (by simp)
  | hostGone hr₁ | guestGone hr₁ => exact .of_reset hmoved (by rw [← hcore, ← hr₁.core]; rfl)

/-- **Each call of `rewinds` takes a cursor back without moving the epochs on.** -/
theorem rewinds_takesBack {op : RoomOp} (hseats : Seats r) (h : rewinds r op) :
    TakesBack r (applyOp relay r op) := by
  cases op with
  | disconnect c now =>
    obtain ⟨hmoved, hcall⟩ := Bool.and_eq_true_iff.mp h
    obtain ⟨slot, hslot, hcall⟩ := (Option.any_eq_true _ _).mp hcall
    exact controlLoss_takesBack hmoved rfl hslot (by simpa using hcall)
      (disconnectWithRecovery_loss r c now relay.recovery.reconnectGrace)
  | disconnectInputSocket c now =>
    obtain ⟨slot, hslot, hcall⟩ := (Option.any_eq_true _ _).mp h
    rw [applyOp]
    by_cases hrunning : r.status.inputLossIsRecoverable
    · -- the control socket of the seat goes as well
      simp only [hrunning, if_true, Bool.and_eq_true] at hcall
      have hinput : slot.inputConnectionId = some c := by simpa using List.find?_some hslot
      obtain ⟨control, hcontrol⟩ := Option.isSome_iff_exists.mp
        ((hseats.seated slot (List.mem_of_find?_eq_some hslot)).input (by rw [hinput]; rfl))
      rw [disconnectInputSocket_running hslot hcontrol hrunning]
      have hloss := disconnectWithRecovery_loss (r.detachInputSocket c slot.playerIndex now)
        control now relay.recovery.reconnectGrace
      refine controlLoss_takesBack hcall.1 ?_
        (slotForConnection_detachInputSocket hseats hslot hcontrol) (.inl hcall.2) hloss
      rfl
    · simp only [hrunning, Bool.false_eq_true, if_false, decide_eq_true_eq] at hcall
      simp only [disconnectInputSocket, hslot, hrunning, Bool.false_eq_true, if_false]
      refine ⟨rfl, rfl, .inl ⟨slot.playerIndex, ?_⟩⟩
      rw [expectedFrame_detachInputSocket, if_pos rfl]
      exact hcall
  | playerExited c now =>
    obtain ⟨hmoved, hcall⟩ := Bool.and_eq_true_iff.mp h
    obtain ⟨p, hp⟩ := Option.isSome_iff_exists.mp hcall
    have hcore : sessionCore (applyOp relay r (.playerExited c now))
        = { (sessionCore r).reset 0 with status := .closed } := by
      simp only [applyOp, Registry.playerExited, NetplayRoom.playerExited, hp]
      rfl
    exact .of_reset hmoved hcore
  | sweep now =>
    simp only [rewinds, Bool.and_eq_true, Bool.not_eq_true'] at h
    obtain ⟨⟨hmoved, hpin⟩, hlapsed⟩ := h
    exact .of_reset hmoved (sweepRoom_lapsed relay hpin (by simpa using hlapsed)).1.core
  | _ => exact absurd h (by simp [rewinds])

/-- **These calls are exactly those** that take a cursor back without moving the epochs on. -/
theorem takesBack_iff_rewinds {s : StoredRoom} (h : Reachable relay s)
    (hstrict : s.room.usesStrictControllerInput) (hbound : s.room.sessionEpoch < u64Max)
    (op : RoomOp) : TakesBack s.room (applyOp relay s.room op) ↔ rewinds s.room op := by
  have hseats := seats_reachable h
  refine ⟨fun hback => ?_, rewinds_takesBack hseats⟩
  by_contra hkept
  have honward := effect_onward hseats (waited_reachable h) (frames_reachable h) hstrict hbound
    (by simpa using hkept) (applyOp_effect relay s.room op)
  rcases hback.behind with ⟨p, hp⟩ | hrelease
  · exact absurd (honward.cursor hback.sessionEpoch p) (Nat.not_le.mpr hp)
  · exact absurd (honward.release hback.sessionEpoch) (Nat.not_le.mpr hrelease)

/-- A released frame is taken back when the guest leaves. -/
theorem takesBack_iff_rewinds_exit :
    let s := after sampleRelay playingRoom [.relayStrictInputBatch hostInput (sampleBatch .one 0)]
    rewinds s.room (.playerExited guestSocket 1)
      ∧ TakesBack s.room (applyOp sampleRelay s.room (.playerExited guestSocket 1)) := by
  intro s
  have hfacts : Possible sampleRelay playingRoom
        [.relayStrictInputBatch hostInput (sampleBatch .one 0)]
      ∧ s.room.usesStrictControllerInput ∧ s.room.sessionEpoch < u64Max
      ∧ rewinds s.room (.playerExited guestSocket 1) := by
    decide +kernel
  obtain ⟨hpossible, hstrict, hbound, hrewinds⟩ := hfacts
  have hs := reachable_run playingRoom_reachable hpossible.1 hpossible.run_eq
  exact ⟨hrewinds, (takesBack_iff_rewinds hs hstrict hbound _).mpr hrewinds⟩

/-! ## Whole runs -/

/-- **Over a run of calls none of which rewinds, no cursor goes back within an epoch.** -/
theorem cursors_neverGoBack {s t : StoredRoom} {ops : List RoomOp} (h : Reachable relay s)
    (hstrict : s.room.usesStrictControllerInput) (hguarded : Guarded (StoredRoom.step relay)
      (fun s op => Admissible s.room op ∧ s.room.sessionEpoch < u64Max
        ∧ rewinds s.room op = false) s ops) (hrun : run (StoredRoom.step relay) s ops = some t)
    (hsession : t.room.sessionEpoch = s.room.sessionEpoch) :
    (∀ p, s.room.expectedFrame p ≤ t.room.expectedFrame p)
      ∧ s.room.nextReleaseFrame ≤ t.room.nextReleaseFrame := by
  have honward : Onward s.room t.room := by
    have hkeep : ∀ s op t, StrictReachable relay s → (Admissible s.room op
        ∧ s.room.sessionEpoch < u64Max ∧ rewinds s.room op = false) →
        s.step relay op = some t → StrictReachable relay t :=
      fun _ _ _ hs hcall => strictReachable_step hs hcall.1
    refine relation_run (R := fun s t => Onward s.room t.room) (fun s => .refl s.room) Onward.trans
      hkeep ?_ hguarded hrun ⟨h, hstrict⟩
    intro s op t hs hcall hstep
    rw [step_room hstep]
    exact effect_onward (seats_reachable hs.1) (waited_reachable hs.1) (frames_reachable hs.1) hs.2
      hcall.2.1 hcall.2.2 (applyOp_effect relay s.room op)
  exact ⟨honward.cursor hsession, honward.release hsession⟩

/-- Input and a released frame in the first session. -/
theorem cursors_neverGoBack_playing :
    (∀ p, playingRoom.room.expectedFrame p ≤ (after sampleRelay playingRoom
        [.relayStrictInputBatch hostInput (sampleBatch .one 0),
          .relayHostFrameOpen hostInput ⟨2, 2, 0⟩ 5]).room.expectedFrame p)
      ∧ playingRoom.room.nextReleaseFrame ≤ (after sampleRelay playingRoom
        [.relayStrictInputBatch hostInput (sampleBatch .one 0),
          .relayHostFrameOpen hostInput ⟨2, 2, 0⟩ 5]).room.nextReleaseFrame := by
  have hfacts : playingRoom.room.usesStrictControllerInput
      ∧ Guarded (StoredRoom.step sampleRelay)
        (fun s op => Admissible s.room op ∧ s.room.sessionEpoch < u64Max
          ∧ rewinds s.room op = false) playingRoom
        [.relayStrictInputBatch hostInput (sampleBatch .one 0),
          .relayHostFrameOpen hostInput ⟨2, 2, 0⟩ 5]
      ∧ (run (StoredRoom.step sampleRelay) playingRoom
        [.relayStrictInputBatch hostInput (sampleBatch .one 0),
          .relayHostFrameOpen hostInput ⟨2, 2, 0⟩ 5]).map (·.room.sessionEpoch)
        = some playingRoom.room.sessionEpoch := by
    decide +kernel
  obtain ⟨hstrict, hguarded, hepoch⟩ := hfacts
  obtain ⟨t, ht, hsession⟩ := Option.map_eq_some_iff.mp hepoch
  rw [after, ht, Option.getD_some]
  exact cursors_neverGoBack playingRoom_reachable hstrict hguarded ht hsession

/-- The host sends input before the guest is ready. -/
def earlyInputRoom : StoredRoom :=
  after sampleRelay (sampleRoom 5) (seating false ++ (handshake 5 0).dropLast
    ++ [.relayStrictInputBatch hostInput (sampleBatch .one 0)])

/-- The host's input socket is lost before the start: the two frames that were acknowledged are
asked for again, on the same epochs. -/
theorem acknowledgedInput_askedForAgain :
    Reachable sampleRelay earlyInputRoom
      ∧ earlyInputRoom.room.usesStrictControllerInput
      ∧ earlyInputRoom.room.expectedFrame .one = 2
      ∧ (earlyInputRoom.step sampleRelay (.disconnectInputSocket hostInput 1)).map
          (fun s => (s.room.roomEpoch, s.room.sessionEpoch, s.room.expectedFrame .one))
        = some (earlyInputRoom.room.roomEpoch, earlyInputRoom.room.sessionEpoch, 0) :=
  ⟨reachable_after (by decide +kernel), by decide +kernel⟩

end NetplayRelay.Proof
