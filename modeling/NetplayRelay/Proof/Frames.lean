import NetplayRelay.Proof.Waiting

/-!
# Frame numbers

Every frame number the room keeps fits its type. In a version 5 room the open that a host sent
before the scheduled start is held for the very frame that is released next, and for the start it
waits for: whatever moves the release cursor or the start drops the held open.
-/

namespace NetplayRelay.Proof

open Lib Protocol Rooms Registry NetplayRoom

def SessionCore.usesStrict (core : SessionCore) : Bool :=
  core.protocolVersion ≥ 5 && core.session.mode = .controllerNetplay

structure FrameInv (core : SessionCore) : Prop where
  /-- A held open is for the next release and for the scheduled start. -/
  pending : core.usesStrict → ∀ frame, core.pendingHostFrameOpen = some frame →
    frame = core.nextReleaseFrame
      ∧ ∃ start, core.scheduledStart = some start ∧ start.startFrame = frame
  /-- Frames are released from the start on. -/
  behind : core.usesStrict → core.syncStartFrame ≤ core.nextReleaseFrame
  release : core.nextReleaseFrame ≤ u64Max
  start : core.syncStartFrame ≤ u64Max
  cursor : ∀ p frame, core.nextInputFrames.lookup p = some frame → frame ≤ u64Max
  repair : ∀ transaction, core.stateRecovery = some transaction → transaction.repairFrame ≤ u64Max

variable {relay : Relay} {r r' r₁ : NetplayRoom} {core core' : SessionCore}

theorem FrameInv.expectedFrame_le (h : FrameInv (sessionCore r)) (p : PlayerIndex) :
    r.expectedFrame p ≤ u64Max := by
  rw [expectedFrame]
  cases hp : r.nextInputFrames.lookup p with
  | none => exact h.start
  | some frame => exact h.cursor p frame hp

/-! ## How frame data changes -/

namespace FrameInv

theorem of_same (h : FrameInv (sessionCore r)) (hsame : SameSession r r') :
    FrameInv (sessionCore r') := by
  rw [hsame.core]
  exact h

theorem of_restart {frame : Nat} (hframe : frame ≤ u64Max)
    (hpending : core.pendingHostFrameOpen = none) (hrelease : core.nextReleaseFrame = frame)
    (hstart : core.syncStartFrame = frame) (hcursor : core.nextInputFrames = ∅)
    (hrepair : ∀ transaction, core.stateRecovery = some transaction →
      transaction.repairFrame ≤ u64Max) : FrameInv core where
  pending := fun _ _ h => absurd (hpending.symm.trans h) (by simp)
  behind := fun _ => (hstart.trans hrelease.symm).le
  release := hrelease ▸ hframe
  start := hstart ▸ hframe
  cursor := by
    rw [hcursor]
    intro p frame h
    exact absurd h (by simp)
  repair := hrepair

/-- The terms of the session, its frame cursors and its start are as before; input cursors or a
recovery may have been forgotten. -/
theorem of_forgotten (h : FrameInv core) (hstrict : core'.usesStrict = core.usesStrict)
    (hpending : core'.pendingHostFrameOpen = core.pendingHostFrameOpen)
    (hrelease : core'.nextReleaseFrame = core.nextReleaseFrame)
    (hscheduled : core'.scheduledStart = core.scheduledStart)
    (hstart : core'.syncStartFrame = core.syncStartFrame)
    (hcursor : ∀ p frame, core'.nextInputFrames.lookup p = some frame →
      core.nextInputFrames.lookup p = some frame)
    (hrepair : ∀ transaction, core'.stateRecovery = some transaction →
      core.stateRecovery = some transaction) : FrameInv core' where
  pending := by
    rw [hstrict, hpending, hrelease, hscheduled]
    exact h.pending
  behind := by
    rw [hstrict, hstart, hrelease]
    exact h.behind
  release := hrelease ▸ h.release
  start := hstart ▸ h.start
  cursor := fun p frame hp => h.cursor p frame (hcursor p frame hp)
  repair := fun transaction ht => h.repair transaction (hrepair transaction ht)

/-- The held open has been granted or dropped. -/
theorem of_opened (h : FrameInv core) (hstrict : core'.usesStrict = core.usesStrict)
    (hpending : core'.pendingHostFrameOpen = none)
    (hforward : core.usesStrict → core.nextReleaseFrame ≤ core'.nextReleaseFrame)
    (hrelease : core'.nextReleaseFrame ≤ u64Max)
    (hstart : core'.syncStartFrame = core.syncStartFrame)
    (hcursor : core'.nextInputFrames = core.nextInputFrames)
    (hrepair : ∀ transaction, core'.stateRecovery = some transaction →
      transaction.repairFrame ≤ u64Max) : FrameInv core' where
  pending := fun _ _ h => absurd (hpending.symm.trans h) (by simp)
  behind := by
    rw [hstrict, hstart]
    exact fun hs => (h.behind hs).trans (hforward hs)
  release := hrelease
  start := hstart ▸ h.start
  cursor := hcursor ▸ h.cursor
  repair := hrepair

end FrameInv

theorem detachInputSocket_frames {c : ConnectionId} {p : PlayerIndex} {now : Instant}
    (h : FrameInv (sessionCore r)) : FrameInv (sessionCore (r.detachInputSocket c p now)) :=
  h.of_forgotten rfl rfl rfl rfl rfl (fun _ _ => lookup_erase_some) fun _ => id

/-- The negotiated input delay is no frame number. -/
theorem Negotiated.frames (hr : Negotiated r r') (h : FrameInv (sessionCore r)) :
    FrameInv (sessionCore r') := by
  obtain ⟨_, hcore⟩ := hr.core
  rw [hcore]
  exact h.of_forgotten rfl rfl rfl rfl rfl (fun _ _ => id) fun _ => id

/-- Fixing a start while none is fixed: no open is held either. -/
theorem scheduleStart_frames {t : Nat} (h : FrameInv (sessionCore r))
    (hnone : r.scheduledStart = none) : FrameInv (sessionCore (scheduleStart r t)) := by
  refine ⟨fun hstrict frame hframe => ?_, h.behind, h.release, h.start, h.cursor, h.repair⟩
  obtain ⟨_, start, hstart, _⟩ := h.pending hstrict frame hframe
  exact absurd (hnone.symm.trans hstart) (by simp)

theorem controlLoss_frames {c : ConnectionId} {now : Instant} {grace : Duration}
    (hinv : FrameInv (sessionCore r)) (h : ControlLoss r c now grace r') :
    FrameInv (sessionCore r') := by
  cases h with
  | unknown _ h => exact hinv.of_same h
  | alsoLost hr₁ =>
    exact (hinv.of_same hr₁).of_forgotten rfl rfl rfl rfl rfl (fun _ _ => lookup_erase_some)
      fun _ => id
  | handoffKept | recovery | hostGone | guestGone =>
    exact .of_restart (Nat.zero_le _) rfl rfl rfl rfl (by simp [sessionCore])

/-! ## Every reachable room -/

/-- Every call keeps frame numbers in range. -/
theorem effect_frames {op : RoomOp} (hadmissible : Admissible r op)
    (hinv : FrameInv (sessionCore r)) (h : Effect relay r op r') : FrameInv (sessionCore r') := by
  cases h with
  | bookkeeping h => exact hinv.of_same h
  | joined | reconnected | exited =>
    exact .of_restart (Nat.zero_le _) rfl rfl rfl rfl
      (by simp [sessionCore, resetSyncForCheckingCompatibility])
  | handoffReconnected | inputAttached => exact hinv
  | controlLost h => exact controlLoss_frames hinv h
  | inputLost => exact detachInputSocket_frames hinv
  | inputAndControlLost _ _ _ h => exact controlLoss_frames (detachInputSocket_frames hinv) h
  | pinTimedOut => exact hinv.of_opened rfl rfl (fun _ => le_rfl) hinv.release rfl rfl hinv.repair
  | handoffsLapsed hcleared =>
    rw [hcleared.core]
    exact .of_restart (Nat.zero_le _) rfl rfl rfl rfl (by simp [SessionCore.reset])
  | heartbeatsStopped _ hdropped =>
    rw [hdropped.core]
    exact .of_restart (Nat.zero_le _) rfl rfl rfl rfl
      (by simp [SessionCore.recover, SessionCore.reset])
  | hostAttached | fingerprintRejected | fingerprintStored | fingerprintsDiffer | fingerprintsAgree
  | linkRejected | linkStored | linksDiffer | linksAgree | snapshotCompleted | sampleStored
  | voteCounted | pauseOpened | pauseNoted | paused | pauseEndedByLast | pauseEnded =>
    exact hinv.of_forgotten rfl rfl rfl rfl rfl (fun _ _ => id) fun _ => id
  | becameReady _ h =>
    obtain ⟨_, hcore⟩ := h.core
    rw [hcore]
    exact hinv.of_forgotten rfl rfl rfl rfl rfl (fun _ _ => id) fun _ => id
  | startedNow _ hr₁ =>
    have hinv₁ := hr₁.frames (hinv.of_forgotten rfl rfl rfl rfl rfl (fun _ _ => id) fun _ => id)
    exact hinv₁.of_forgotten rfl rfl rfl rfl rfl (fun _ _ => id) (by simp [sessionCore])
  | startFixedBySample hr₁ _ hnone | startFixedByVote hr₁ _ hnone =>
    exact scheduleStart_frames
      (hr₁.frames (hinv.of_forgotten rfl rfl rfl rfl rfl (fun _ _ => id) fun _ => id))
      ((hr₁.read SessionCore.scheduledStart fun _ _ => rfl).trans hnone)
  | restartedByLast | restarted => exact .of_restart satAdd_le_limit rfl rfl rfl rfl hinv.repair
  | @inputAccepted _ batch last next _ _ _ hbound =>
    refine ⟨hinv.pending, hinv.behind, hinv.release, hinv.start, fun p frame hp => ?_,
      hinv.repair⟩
    have hp' : (r.nextInputFrames.insert batch.playerIndex next).lookup p = some frame := hp
    by_cases h : p = batch.playerIndex
    · rw [h, AList.lookup_insert] at hp'
      exact Option.some.inj hp' ▸ hbound
    · rw [AList.lookup_insert_ne h] at hp'
      exact hinv.cursor p frame hp'
  | openHeld _ hstart hframe hnext =>
    refine ⟨fun _ frame h => ?_, hinv.behind, hinv.release, hinv.start, hinv.cursor, hinv.repair⟩
    obtain rfl := Option.some.inj h
    exact ⟨hnext, _, hstart, hframe.symm⟩
  | frameReleased _ hnext =>
    refine hinv.of_opened rfl rfl (fun _ => ?_) satAdd_le_limit rfl rfl hinv.repair
    exact hnext ▸ le_satAdd hinv.release
  | openedByHost _ hnext =>
    refine hinv.of_opened rfl rfl (fun _ => ?_) satAdd_le_limit rfl rfl (by simp [sessionCore])
    exact hnext ▸ le_satAdd hinv.release
  | openedByTimer _ hpending =>
    refine hinv.of_opened rfl rfl (fun hs => ?_) satAdd_le_limit rfl rfl (by simp [sessionCore])
    obtain ⟨rfl, _⟩ := hinv.pending hs _ hpending
    exact le_satAdd hinv.release
  | legacyInput h =>
    rw [h.core]
    refine ⟨hinv.pending, hinv.behind, hinv.release, hinv.start, fun p frame hp => ?_,
      hinv.repair⟩
    rcases h.bounded p frame hp with hold | hbound
    · exact hinv.cursor p frame hold
    · exact hbound
  | legacyTick hlegacy h =>
    rw [h.core]
    have hnever : ¬(sessionCore r).usesStrict := by
      intro hstrict
      exact absurd (hlegacy.symm.trans hstrict) (by simp)
    refine ⟨fun hstrict => absurd hstrict hnever, fun hstrict => absurd hstrict hnever, ?_,
      hinv.start, hinv.cursor, hinv.repair⟩
    · rcases h.bounded with hsame | hbound
      · exact hsame ▸ hinv.release
      · exact hbound
  | @resynced _ _ report =>
    have hframe : report.frame ≤ u64Max := by simpa [Admissible] using hadmissible
    exact .of_restart hframe rfl rfl rfl rfl (by simp [sessionCore])
  | @recoveryPrepared _ _ report _ _ mismatch hr₁ _ _ _ hrepair
  | @recoveryLimited _ _ report _ _ mismatch hr₁ _ _ _ hrepair =>
    have hframe : report.frame ≤ u64Max := by simpa [Admissible] using hadmissible
    have hinv₁ := hinv.of_same hr₁
    refine hinv₁.of_opened rfl rfl (fun _ => le_rfl) hinv₁.release rfl rfl fun transaction ht => ?_
    obtain rfl := Option.some.inj ht
    exact hrepair.trans_le hframe
  | @pinned _ _ _ _ transaction _ _ _ htransaction =>
    have hframe := hinv.repair transaction htransaction
    refine .of_restart hframe rfl rfl rfl rfl fun transaction' ht => ?_
    obtain rfl := Option.some.inj ht
    exact hframe

/-- **Frame numbers are in range in every reachable room.** -/
theorem frames_reachable {s : StoredRoom} (h : Reachable relay s) :
    FrameInv (sessionCore s.room) := by
  refine reachable_inv (fun r => FrameInv (sessionCore r)) ?_ ?_ h
  · intro roomId key c session version resume input now voice
    cases voice <;>
      exact .of_restart (Nat.zero_le _) rfl rfl rfl rfl
        (by simp [sessionCore, createRoom, newWithProtocolAndResume])
  · intro s op _ hinv hadmissible
    exact effect_frames hadmissible hinv (applyOp_effect relay s.room op)

end NetplayRelay.Proof
