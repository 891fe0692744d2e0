import NetplayRelay.Proof.Attempts
import NetplayRelay.Proof.Frames
import NetplayRelay.Proof.Sweeps

/-!
# Repairing a diverged session

A state recovery goes through two phases. It is preparing until the host pins a snapshot of the
repair frame; the pin commits it, moves the session to its next epoch and restarts the handshake.
From then on the pinned manifest is the only one the room takes for a complete snapshot, until play
resumes or a reset forgets the recovery.

Pins may be repeated, because the host cannot tell a lost pin from a lost answer. A repeated pin
still names the epoch in which the recovery was prepared.
-/

namespace NetplayRelay.Proof

open Lib Protocol Rooms Registry NetplayRoom

/-! ## The transaction and its room -/

/-- What holds of a room while recovery `transaction` is committed to `manifest`. -/
structure Committed (core : SessionCore) (transaction : StateRecoveryTransaction)
    (manifest : SnapshotManifest) : Prop where
  snapshot : core.hostSnapshotCompleted → core.completedSnapshotManifest = some manifest
  valid : (manifest.validate .default).isOk
  frame : manifest.repairFrame = transaction.repairFrame
  noPause : core.pauseState = none
  notPlaying : core.status ≠ .playing ∧ core.status ≠ .paused ∧ core.status ≠ .repairingState
  roomEpoch : core.roomEpoch = transaction.preparingRoomEpoch
  sessionEpoch : core.sessionEpoch = satAdd u64Max transaction.preparingSessionEpoch 1

structure RepairInv (core : SessionCore) : Prop where
  strict : core.stateRecovery.isSome → core.usesStrict
  /-- As long as the room is frozen for the pin, it is on the epochs of the recovery. -/
  repairing : ∀ transaction, core.stateRecovery = some transaction →
    core.status = .repairingState →
      core.roomEpoch = transaction.preparingRoomEpoch
        ∧ core.sessionEpoch = transaction.preparingSessionEpoch
  committed : ∀ transaction manifest, core.stateRecovery = some transaction →
    transaction.pinnedSnapshot = some manifest → Committed core transaction manifest

variable {relay : Relay} {r r' : NetplayRoom} {core core' : SessionCore} {op : RoomOp}
  {c : ConnectionId}

/-- Statuses other than those of a running session and of a repair. -/
def isResting : RoomStatus → Bool
  | .playing | .paused | .repairingState => false
  | _ => true

namespace RepairInv

theorem of_none (h : core.stateRecovery = none) : RepairInv core where
  strict := by simp [h]
  repairing := by simp [h]
  committed := by simp [h]

theorem of_same (h : RepairInv (sessionCore r)) (hsame : SameSession r r') :
    RepairInv (sessionCore r') := by
  rw [hsame.core]
  exact h

/-- Neither the recovery nor what it depends on was touched; the status may be one of those in which
nobody plays. -/
theorem carry (h : RepairInv core) (hrecovery : core'.stateRecovery = core.stateRecovery)
    (hstrict : core'.usesStrict = core.usesStrict)
    (hcompleted : core'.hostSnapshotCompleted = core.hostSnapshotCompleted)
    (hmanifest : core'.completedSnapshotManifest = core.completedSnapshotManifest)
    (hpause : core'.pauseState = core.pauseState) (hroom : core'.roomEpoch = core.roomEpoch)
    (hsession : core'.sessionEpoch = core.sessionEpoch)
    (hstatus : core'.status = core.status ∨ isResting core'.status) : RepairInv core' where
  strict := by
    rw [hrecovery, hstrict]
    exact h.strict
  repairing := by
    rw [hrecovery, hroom, hsession]
    intro transaction htransaction hrepairing
    rcases hstatus with hsame | hresting
    · exact h.repairing transaction htransaction (hsame ▸ hrepairing)
    · exact absurd hresting (by simp [hrepairing, isResting])
  committed := by
    rw [hrecovery]
    intro transaction manifest htransaction hpinned
    have hbefore := h.committed transaction manifest htransaction hpinned
    refine ⟨?_, hbefore.valid, hbefore.frame, hpause.trans hbefore.noPause, ?_,
      hroom.trans hbefore.roomEpoch, hsession.trans hbefore.sessionEpoch⟩
    · rw [hcompleted, hmanifest]
      exact hbefore.snapshot
    rcases hstatus with hsame | hresting
    · rw [hsame]
      exact hbefore.notPlaying
    · cases hcase : core'.status <;> simp_all [isResting]

/-- A recovery that is still preparing, on its own epochs where the room is frozen for it. -/
theorem of_preparing (hstrict : core.usesStrict)
    (hpreparing : ∀ transaction, core.stateRecovery = some transaction →
      transaction.pinnedSnapshot = none)
    (hepochs : ∀ transaction, core.stateRecovery = some transaction →
      core.status = .repairingState → core.roomEpoch = transaction.preparingRoomEpoch
        ∧ core.sessionEpoch = transaction.preparingSessionEpoch) : RepairInv core where
  strict := fun _ => hstrict
  repairing := hepochs
  committed := fun transaction manifest htransaction hpinned =>
    absurd ((hpreparing transaction htransaction).symm.trans hpinned) (by simp)

/-- While a pause is open the recovery is not committed. -/
theorem preparing_of_pause (h : RepairInv core) (hpause : core.pauseState.isSome)
    {transaction : StateRecoveryTransaction}
    (htransaction : core.stateRecovery = some transaction) :
    transaction.pinnedSnapshot = none := by
  cases hpinned : transaction.pinnedSnapshot with
  | none => rfl
  | some manifest =>
    rw [(h.committed transaction manifest htransaction hpinned).noPause] at hpause
    exact absurd hpause (by simp)

/-- An open pause goes on, or ends, on the same recovery; a new status is not that of a repair. -/
theorem of_pause (h : RepairInv core) (hpause : core.pauseState.isSome)
    (hrecovery : core'.stateRecovery = core.stateRecovery)
    (hstrict : core'.usesStrict = core.usesStrict)
    (hstatus : core'.status ≠ .repairingState ∨ core'.status = core.status
      ∧ core'.roomEpoch = core.roomEpoch ∧ core'.sessionEpoch = core.sessionEpoch) :
    RepairInv core' := by
  refine ⟨?_, ?_, ?_⟩
  · rw [hrecovery, hstrict]
    exact h.strict
  · rw [hrecovery]
    intro transaction htransaction hrepairing
    rcases hstatus with hother | ⟨hsame, hroom, hsession⟩
    · exact absurd hrepairing hother
    · rw [hroom, hsession]
      exact h.repairing transaction htransaction (hsame ▸ hrepairing)
  · rw [hrecovery]
    intro transaction manifest htransaction hpinned
    exact absurd ((h.preparing_of_pause hpause htransaction).symm.trans hpinned) (by simp)

end RepairInv

/-- The negotiated input delay has nothing to do with a recovery. -/
theorem Negotiated.repairs (hr : Negotiated r r') (h : RepairInv (sessionCore r)) :
    RepairInv (sessionCore r') := by
  obtain ⟨_, hcore⟩ := hr.core
  rw [hcore]
  exact h.carry rfl rfl rfl rfl rfl rfl rfl (.inl rfl)

theorem controlLoss_repairs {now : Instant} {grace : Duration} (hinv : RepairInv (sessionCore r))
    (h : ControlLoss r c now grace r') : RepairInv (sessionCore r') := by
  cases h with
  | unknown _ h => exact hinv.of_same h
  | alsoLost hr₁ => exact (hinv.of_same hr₁).carry rfl rfl rfl rfl rfl rfl rfl (.inl rfl)
  | handoffKept | recovery | hostGone | guestGone => exact .of_none rfl

theorem effect_repairs (hinv : RepairInv (sessionCore r)) (h : Effect relay r op r') :
    RepairInv (sessionCore r') := by
  cases h with
  | bookkeeping h => exact hinv.of_same h
  | joined | reconnected | exited | startedNow | openedByHost | openedByTimer | resynced =>
    exact .of_none rfl
  | handoffReconnected | inputAttached => exact hinv
  | hostAttached | inputLost | fingerprintStored | linkStored | sampleStored | voteCounted
  | inputAccepted | openHeld | frameReleased =>
    exact hinv.carry rfl rfl rfl rfl rfl rfl rfl (.inl rfl)
  | pinTimedOut | fingerprintRejected | fingerprintsDiffer | fingerprintsAgree | linkRejected
  | linksDiffer | linksAgree => exact hinv.carry rfl rfl rfl rfl rfl rfl rfl (.inr rfl)
  | controlLost h => exact controlLoss_repairs hinv h
  | @inputAndControlLost c _ now slot _ _ _ _ h =>
    have hdetached : RepairInv (sessionCore (r.detachInputSocket c slot.playerIndex now)) :=
      hinv.carry rfl rfl rfl rfl rfl rfl rfl (.inl rfl)
    exact controlLoss_repairs hdetached h
  | handoffsLapsed hcleared =>
    rw [hcleared.core]
    exact .of_none rfl
  | heartbeatsStopped _ hdropped =>
    rw [hdropped.core]
    exact .of_none rfl
  | @snapshotCompleted _ manifest _ _ _ _ _ hpinned =>
    refine ⟨hinv.strict, hinv.repairing, fun transaction pinned htransaction hcommitted => ?_⟩
    have hbefore := hinv.committed transaction pinned htransaction hcommitted
    have hsame : pinned = manifest := by
      refine hpinned pinned ?_
      rw [show r.stateRecovery = some transaction from htransaction]
      exact hcommitted
    exact ⟨fun _ => by rw [hsame]; rfl, hbefore.valid, hbefore.frame, hbefore.noPause,
      hbefore.notPlaying, hbefore.roomEpoch, hbefore.sessionEpoch⟩
  | becameReady _ h =>
    obtain ⟨_, hcore⟩ := h.core
    rw [hcore]
    exact hinv.carry rfl rfl rfl rfl rfl rfl rfl (.inr rfl)
  | startFixedBySample hr₁ | startFixedByVote hr₁ =>
    have hbefore := hr₁.repairs (hinv.carry rfl rfl rfl rfl rfl rfl rfl (.inl rfl))
    exact hbefore.carry rfl rfl rfl rfl rfl rfl rfl (.inr rfl)
  | pauseOpened hstatus =>
    refine ⟨hinv.strict, hinv.repairing, fun transaction manifest htransaction hpinned => ?_⟩
    have hbefore := (hinv.committed transaction manifest htransaction hpinned).notPlaying
    exact absurd hstatus (not_or.mpr ⟨hbefore.1, hbefore.2.1⟩)
  | pauseNoted hpause =>
    exact hinv.of_pause (by simp [sessionCore, hpause]) rfl rfl (.inr ⟨rfl, rfl, rfl⟩)
  | paused _ hpause | pauseEndedByLast _ hpause | restartedByLast _ hpause
  | pauseEnded _ hpause | restarted _ hpause =>
    exact hinv.of_pause (by simp [sessionCore, hpause]) rfl rfl (.inl RoomStatus.noConfusion)
  | legacyInput h =>
    rw [h.core]
    exact hinv.carry rfl rfl rfl rfl rfl rfl rfl (.inl rfl)
  | legacyTick hlegacy h =>
    -- recoveries are for strict rooms only
    rw [h.core]
    refine .of_none ?_
    cases hrecovery : r.stateRecovery with
    | none => exact hrecovery
    | some transaction =>
      have hstrict := hinv.strict (by simp [sessionCore, hrecovery])
      exact absurd (hlegacy.symm.trans hstrict) (by simp)
  | recoveryPrepared hr₁ _ hstrict | recoveryLimited hr₁ _ hstrict =>
    refine .of_preparing ?_ ?_ ?_
    · exact (hr₁.usesStrictControllerInput.trans hstrict)
    · intro transaction htransaction
      obtain rfl := Option.some.inj htransaction
      rfl
    · intro transaction htransaction _
      obtain rfl := Option.some.inj htransaction
      exact ⟨rfl, rfl⟩
  | @pinned c roomEpoch sessionEpoch pin transaction hstatus hstrict hpin htransaction =>
    obtain ⟨hroom, hsession⟩ := hinv.repairing transaction htransaction hstatus
    simp only [pinMatches, htransaction, Option.any_some, Bool.and_eq_true, decide_eq_true_eq]
      at hpin
    refine ⟨fun _ => hstrict, fun _ _ h => RoomStatus.noConfusion h, ?_⟩
    intro transaction' manifest htransaction' hpinned
    obtain rfl := Option.some.inj htransaction'
    obtain rfl := Option.some.inj hpinned
    exact ⟨fun h => Bool.noConfusion h, hpin.1.2, hpin.2.2.symm, rfl, by simp [sessionCore],
      hroom, congrArg (fun epoch => satAdd u64Max epoch 1) hsession⟩

theorem repairs_reachable {s : StoredRoom} (h : Reachable relay s) :
    RepairInv (sessionCore s.room) := by
  refine reachable_inv (fun r => RepairInv (sessionCore r)) ?_ ?_ h
  · intro roomId key c session version resume input now voice
    cases voice <;> exact .of_none rfl
  · intro s op _ hinv _
    exact effect_repairs hinv (applyOp_effect relay s.room op)

/-! ## Pins -/

variable {transaction transaction' : StateRecoveryTransaction} {manifest : SnapshotManifest}

/-- The host repeats its pin, on the epochs of the preparation: it gets the same answer. -/
theorem pin_repeated (hinv : RepairInv (sessionCore r))
    (htransaction : r.stateRecovery = some transaction)
    (hpinned : transaction.pinnedSnapshot = some manifest)
    (hrole : r.roleForConnection c = some .host) :
    r.acceptV5StateRecoveryPinForEpoch c transaction.preparingRoomEpoch
        transaction.preparingSessionEpoch ⟨transaction.recoveryId, manifest⟩ .default
      = (.ok transaction.view, r) := by
  have hcommitted := hinv.committed transaction manifest htransaction hpinned
  have hstrict : r.usesStrictControllerInput := hinv.strict (by simp [sessionCore, htransaction])
  have hepochs : transaction.acceptsMessageEpoch transaction.preparingRoomEpoch
      transaction.preparingSessionEpoch := by simp [StateRecoveryTransaction.acceptsMessageEpoch]
  have hpreparing : transaction.isPreparing = false := by
    simp [StateRecoveryTransaction.isPreparing, hpinned]
  simp [acceptV5StateRecoveryPinForEpoch, hstrict, hrole, hcommitted.valid,
    htransaction, hepochs, hcommitted.frame, hpreparing, hpinned]

/-- Any other pin is refused, whoever sends it and on whatever epochs. -/
theorem pin_other {roomEpoch sessionEpoch : Nat} {pin : StateRecoveryPin} {limits : SnapshotLimits}
    (htransaction : r.stateRecovery = some transaction)
    (hpinned : transaction.pinnedSnapshot = some manifest)
    (hother : pin ≠ ⟨transaction.recoveryId, manifest⟩) :
    ∃ error, r.acceptV5StateRecoveryPinForEpoch c roomEpoch sessionEpoch pin limits
      = (.error error, r) := by
  have hpreparing : transaction.isPreparing = false := by
    simp [StateRecoveryTransaction.isPreparing, hpinned]
  unfold acceptV5StateRecoveryPinForEpoch
  split
  · exact ⟨_, rfl⟩
  split
  · exact ⟨_, rfl⟩
  · exact ⟨_, rfl⟩
  split
  · exact ⟨_, rfl⟩
  rw [htransaction]
  dsimp only
  split
  · exact ⟨_, rfl⟩
  split
  · exact ⟨_, rfl⟩
  rename_i hsame
  rw [not_or, not_not] at hsame
  -- the identifier is right, so the manifest is not
  have hmanifest : transaction.pinnedSnapshot ≠ some pin.manifest := by
    rw [hpinned]
    intro h
    apply hother
    rw [hsame.1, Option.some.inj h]
  rw [hpreparing, Bool.not_false, if_pos rfl, if_neg hmanifest]
  exact ⟨_, rfl⟩

/-- A pin that commits is answered with the view of what it committed. -/
theorem pin_commits {roomEpoch sessionEpoch : Nat} {pin : StateRecoveryPin}
    (hstrict : r.usesStrictControllerInput) (hpin : pinMatches r c roomEpoch sessionEpoch pin)
    (htransaction : r.stateRecovery = some transaction) (hpreparing : transaction.isPreparing)
    (hstatus : r.status = .repairingState) :
    r.acceptV5StateRecoveryPinForEpoch c roomEpoch sessionEpoch pin .default
      = (.ok (transaction.commit pin.manifest).view,
        r.commitStateRecovery transaction pin.manifest) := by
  simp only [pinMatches, htransaction, Option.any_some, Bool.and_eq_true, decide_eq_true_eq] at hpin
  simp [acceptV5StateRecoveryPinForEpoch, hstrict, hpin, htransaction, hpreparing, hstatus]

/-! ## From the preparation to the end -/

/-- The last ready report starts a session that needs no common start. -/
def startsByReport (r : NetplayRoom) (c : ConnectionId) : Bool :=
  (r.status = .syncingState || r.status = .ready)
    && r.hostSnapshotCompleted && r.connectedPlayersHaveInputSockets
    && (r.playerIndexForConnection c).any (fun p => (countReady r p).connectedPlayersAreReady)
    && !r.connectedPlayersSupportScheduledStart

/-- The host opens the first frame of a session whose start is due. -/
def startsByOpen (r : NetplayRoom) (c : ConnectionId) (frameOpen : HostFrameOpen)
    (serverTimeMs : Nat) : Bool :=
  (r.validateHostFrameSender c).isOk
    && frameOpen.roomEpoch = r.roomEpoch && frameOpen.sessionEpoch = r.sessionEpoch
    && r.status = .startScheduled
    && frameOpen.frame = r.nextReleaseFrame && r.hostInputCovers frameOpen.frame
    && r.pauseState.all (fun pause => frameOpen.frame ≤ pause.pauseAtFrame)
    && r.scheduledStart.any fun start =>
      frameOpen.frame = start.startFrame && start.serverTimeMs ≤ serverTimeMs

/-- The timer of a held open releases the first frame of a session. -/
def startsByTimer (r : NetplayRoom) (roomEpoch sessionEpoch frame serverTimeMs : Nat) : Bool :=
  r.roomEpoch = roomEpoch && r.sessionEpoch = sessionEpoch && r.status = .startScheduled
    && r.pendingHostFrameOpen = some frame
    && r.scheduledStart.any fun start => start.serverTimeMs ≤ serverTimeMs

/-- Calls that end a recovery: play begins, or a reset forgets everything negotiated. -/
def endsRecovery (relay : Relay) (r : NetplayRoom) : RoomOp → Bool
  | .joinGuest .. => r.status ≠ .closed && r.players.any (·.isEmpty)
  | .reconnectPlayer request =>
    (r.slotForPlayer request.playerIndex).any (·.reconnectDeadline.isSome)
  | .disconnect c _ | .playerExited c _ => (r.playerIndexForConnection c).isSome
  | .disconnectInputSocket c _ =>
    r.status.inputLossIsRecoverable && (r.playerIndexForInputConnection c).isSome
  | .sweep now => hostHandoffLapsed r now || guestHandoffLapsed r now || heartbeatLost relay r now
  | .markReady c _ _ => startsByReport r c
  | .relayHostFrameOpen c frameOpen now => startsByOpen r c frameOpen (relay.serverTimeMsAt now)
  | .releaseScheduledV5HostFrame roomEpoch sessionEpoch frame now =>
    startsByTimer r roomEpoch sessionEpoch frame (relay.serverTimeMsAt now)
  | .recordStateHash .. => !r.usesStrictControllerInput
  | _ => false

/-- What a call does to the recovery of a room. -/
inductive RecoveryChange (relay : Relay) (r : NetplayRoom) (op : RoomOp) (r' : NetplayRoom) : Prop
  | kept (h : r'.stateRecovery = r.stateRecovery)
  | ended (hends : endsRecovery relay r op) (h : r'.stateRecovery = none)
  | opened {mismatch : StateHashMismatchView} {now : Instant} (hnone : r.stateRecovery = none)
      (h : r'.stateRecovery = some (nextRecovery r mismatch now))
      (hid : r'.nextStateRecoveryId = satAdd u64Max r.nextStateRecoveryId 1)
  | pinned {c : ConnectionId} {roomEpoch sessionEpoch : Nat} {pin : StateRecoveryPin}
      {transaction : StateRecoveryTransaction}
      (hop : op = .pinStateRecovery c roomEpoch sessionEpoch pin)
      (hbefore : r.stateRecovery = some transaction)
      (h : r'.stateRecovery = some (transaction.commit pin.manifest))
      (hstatus : r.status = .repairingState) (hstrict : r.usesStrictControllerInput)
      (hpin : pinMatches r c roomEpoch sessionEpoch pin) (hpreparing : transaction.isPreparing)

/-- There was no recovery, or the call is one of those that end it. -/
theorem RecoveryChange.of_gone (hends : r.stateRecovery.isSome → endsRecovery relay r op)
    (h : r'.stateRecovery = none) : RecoveryChange relay r op r' := by
  cases hrecovery : r.stateRecovery with
  | none => exact .kept (h.trans hrecovery.symm)
  | some transaction => exact .ended (hends (by simp [hrecovery])) h

theorem controlLoss_recovery {now : Instant} {grace : Duration} (h : ControlLoss r c now grace r') :
    r'.stateRecovery = r.stateRecovery
      ∨ (r.playerIndexForConnection c).isSome ∧ r'.stateRecovery = none := by
  cases h with
  | unknown _ h => exact .inl h.stateRecovery
  | alsoLost hr₁ => exact .inl hr₁.stateRecovery
  | handoffKept hslot | recovery _ hslot | hostGone _ hslot | guestGone _ hslot =>
    exact .inr ⟨by simp [playerIndexForConnection, hslot], rfl⟩

/-- The sweep ends a recovery when it gives up a seat or drops a player. -/
theorem sweepRoom_recovery (relay : Relay) (r : NetplayRoom) (now : Instant) :
    RecoveryChange relay r (.sweep now) (sweepRoom relay r now) := by
  cases hpin : r.stateRecoveryPinExpired now with
  | true =>
    refine .kept ?_
    simp [sweepRoom, closeExpiredStateRecovery, hpin, closeStateRecoveryRoom]
  | false =>
    by_cases hlapsed : hostHandoffLapsed r now ∨ guestHandoffLapsed r now
    · refine .ended ?_ ?_
      · rcases hlapsed with h | h <;> simp [endsRecovery, h]
      · exact congrArg (·.stateRecovery) (sweepRoom_lapsed relay hpin hlapsed).1.core
    · simp only [not_or, Bool.not_eq_true] at hlapsed
      have hcore :=
        congrArg (·.stateRecovery) (sweepRoom_core relay hpin hlapsed.1 hlapsed.2)
      by_cases hlost : heartbeatLost relay r now
      · rw [if_pos hlost] at hcore
        exact .ended (by simp [endsRecovery, hlost]) hcore
      · rw [if_neg hlost] at hcore
        exact .kept hcore

theorem effect_recovery (hinv : RepairInv (sessionCore r)) (h : Effect relay r op r')
    (hop : ∀ now, op ≠ .sweep now) : RecoveryChange relay r op r' := by
  -- only strict rooms have recoveries
  have hmode : r.stateRecovery.isSome → r.session.mode = .controllerNetplay := by
    intro hsome
    have hstrict : r.usesStrictControllerInput := hinv.strict hsome
    simp only [usesStrictControllerInput, Bool.and_eq_true, decide_eq_true_eq] at hstrict
    exact hstrict.2
  cases h with
  | bookkeeping h => exact .kept h.stateRecovery
  | joined hstatus hempty =>
    refine .ended ?_ rfl
    rw [List.find?_isSome] at hempty
    simpa [endsRecovery, hstatus] using hempty
  | reconnected _ hreturns _ hdeadline =>
    exact .ended (by simp [endsRecovery, hreturns.found, hdeadline]) rfl
  | exited hp => exact .ended (by simp [endsRecovery, hp]) rfl
  | @startedNow c _ _ p _ hstatus _ hmay hall hp hunscheduled =>
    refine .of_gone (fun hsome => ?_) rfl
    have hcontroller := hmode hsome
    simp [endsRecovery, startsByReport, hstatus, hmay.snapshot hcontroller,
      hmay.sockets hcontroller, hp, hall, hunscheduled]
  | openedByHost hstatus hnext hcovers hstart hframe hdue hallowed =>
    refine .ended ?_ rfl
    have hpause : r.pauseState.all (fun pause => r.nextReleaseFrame ≤ pause.pauseAtFrame) := by
      rw [Option.all_eq_true]
      intro pause hpause
      exact decide_eq_true (hnext ▸ hallowed.pause pause hpause)
    simp_all [endsRecovery, startsByOpen, hallowed.sender, hallowed.epochs, Except.isOk,
      Except.toBool]
  | openedByTimer hstatus hpending hstart hdue hepochs =>
    exact .ended (by simp [endsRecovery, startsByTimer, hepochs, hstatus, hpending, hstart, hdue])
      rfl
  | resynced _ _ hlegacy => exact .ended (by simp [endsRecovery, hlegacy]) rfl
  | hostAttached | handoffReconnected | inputAttached | inputLost | pinTimedOut
  | fingerprintRejected | fingerprintStored | fingerprintsDiffer | fingerprintsAgree | linkRejected
  | linkStored | linksDiffer | linksAgree | snapshotCompleted | sampleStored | voteCounted
  | pauseOpened | pauseNoted | paused | pauseEndedByLast | restartedByLast | pauseEnded | restarted
  | inputAccepted | openHeld | frameReleased => exact .kept rfl
  | controlLost h =>
    rcases controlLoss_recovery h with h | ⟨hp, h⟩
    · exact .kept h
    · exact .ended hp h
  | @inputAndControlLost c _ now slot _ hslot hstatus _ h =>
    rcases controlLoss_recovery h with h | ⟨_, h⟩
    · exact .kept h
    · exact .ended (by simp [endsRecovery, hstatus, playerIndexForInputConnection, hslot]) h
  | handoffsLapsed | heartbeatsStopped => exact absurd rfl (hop _)
  | becameReady _ h =>
    obtain ⟨_, hcore⟩ := h.core
    exact .kept (congrArg (·.stateRecovery) hcore)
  | startFixedBySample hr₁ | startFixedByVote hr₁ =>
    have hnegotiated := hr₁.read SessionCore.stateRecovery fun _ _ => rfl
    exact .kept hnegotiated
  | legacyInput h | legacyTick _ h => exact .kept (congrArg (·.stateRecovery) h.core)
  | @recoveryPrepared _ _ _ now _ mismatch hr₁ _ _ hnone
  | @recoveryLimited _ _ _ now _ mismatch hr₁ _ _ hnone =>
    refine @RecoveryChange.opened _ _ _ _ mismatch now hnone ?_ ?_
    · exact congrArg (fun core : SessionCore => some (StateRecoveryTransaction.preparing
        core.nextStateRecoveryId mismatch core.roomEpoch core.sessionEpoch now)) hr₁.core
    · exact congrArg (fun core : SessionCore => satAdd u64Max core.nextStateRecoveryId 1) hr₁.core
  | pinned hstatus hstrict hpin htransaction hpreparing =>
    exact .pinned rfl htransaction rfl hstatus hstrict hpin hpreparing

theorem applyOp_recovery (relay : Relay) (hinv : RepairInv (sessionCore r)) (op : RoomOp) :
    RecoveryChange relay r op (applyOp relay r op) := by
  have heffect := applyOp_effect relay r op
  cases op with
  | sweep now => exact sweepRoom_recovery relay r now
  | _ => exact effect_recovery hinv heffect (fun _ h => RoomOp.noConfusion h)

/-- A call that leaves a recovery active leaves it as it is, or it is the pin that commits it. -/
theorem applyOp_transaction (hinv : RepairInv (sessionCore r))
    (hbefore : r.stateRecovery = some transaction)
    (hafter : (applyOp relay r op).stateRecovery = some transaction') :
    transaction' = transaction
      ∨ ∃ c roomEpoch sessionEpoch pin, op = .pinStateRecovery c roomEpoch sessionEpoch pin
        ∧ transaction' = transaction.commit pin.manifest ∧ r.status = .repairingState
        ∧ r.usesStrictControllerInput ∧ pinMatches r c roomEpoch sessionEpoch pin
        ∧ transaction.isPreparing := by
  cases applyOp_recovery relay hinv op with
  | kept h => exact .inl (Option.some.inj (hafter.symm.trans (h.trans hbefore)))
  | ended _ h => exact absurd (h.symm.trans hafter) (by simp)
  | opened hnone => exact absurd (hnone.symm.trans hbefore) (by simp)
  | pinned hop htransaction h hstatus hstrict hpin hpreparing =>
    obtain rfl := Option.some.inj (hbefore.symm.trans htransaction)
    exact .inr ⟨_, _, _, _, hop, Option.some.inj (hafter.symm.trans h), hstatus, hstrict, hpin,
      hpreparing⟩

/-- The session epoch goes up with this call. -/
def raisesSessionEpoch (relay : Relay) (visit : StoredRoom × RoomOp) : Bool :=
  visit.1.room.sessionEpoch < (applyOp relay visit.1.room visit.2).sessionEpoch

/-- The call is a pin that committed the recovery to `manifest`. -/
def CommittedBy (transaction : StateRecoveryTransaction) (manifest : SnapshotManifest)
    (visit : StoredRoom × RoomOp) : Prop :=
  ∃ c roomEpoch sessionEpoch,
    visit.2 = .pinStateRecovery c roomEpoch sessionEpoch ⟨transaction.recoveryId, manifest⟩
      ∧ (visit.1.room.acceptV5StateRecoveryPinForEpoch c roomEpoch sessionEpoch
          ⟨transaction.recoveryId, manifest⟩ .default).1 = .ok (transaction.commit manifest).view

/-- Where a recovery stands that was preparing when the history began, with room `r₀`. -/
inductive Progress (relay : Relay) (transaction : StateRecoveryTransaction) (r₀ : NetplayRoom)
    (past : List (StoredRoom × RoomOp)) (r : NetplayRoom) : Prop
  | frozen (hbegan : r₀.status = .repairingState) (hrecovery : r.stateRecovery = some transaction)
      (hstatus : r.status = .repairingState)
      (hraised : past.countP (raisesSessionEpoch relay) = 0)
  /-- The room has left the repair without a pin; no pin is taken any more. -/
  | abandoned (hrecovery : r.stateRecovery = some transaction)
      (hstatus : r.status ≠ .repairingState)
  | committed {manifest : SnapshotManifest} (hbegan : r₀.status = .repairingState)
      (hrecovery : r.stateRecovery = some (transaction.commit manifest))
      (hraised : past.countP (raisesSessionEpoch relay)
        = if transaction.preparingSessionEpoch < u64Max then 1 else 0)
      (hpin : ∃ visit ∈ past, CommittedBy transaction manifest visit)

theorem progress_step {r₀ : NetplayRoom} {past : List (StoredRoom × RoomOp)} {s t : StoredRoom}
    (hpreparing : transaction.isPreparing) (hinv : RepairInv (sessionCore s.room))
    (hactive : (applyOp relay s.room op).stateRecovery.isSome) (hstep : s.step relay op = some t)
    (h : Progress relay transaction r₀ past s.room) :
    Progress relay transaction r₀ (past ++ [(s, op)]) t.room := by
  have heffect := applyOp_effect relay s.room op
  have hinv' := effect_repairs hinv heffect
  obtain ⟨transaction', hafter⟩ := Option.isSome_iff_exists.mp hactive
  -- a repair cannot begin while the recovery is active
  have hnew : s.room.stateRecovery.isSome → (applyOp relay s.room op).status = .repairingState →
      s.room.status = .repairingState := by
    intro hsome hstatus
    cases applyOp_attempts relay s.room op with
    | quiet _ _ _ _ h => exact h hstatus
    | started _ _ hnone => exact absurd hsome (by simp [hnone])
    | refused _ _ _ _ _ hclosed => exact absurd (hclosed.symm.trans hstatus) (by simp)
  rw [step_room hstep]
  cases h with
  | frozen hbegan hrecovery hstatus hraised =>
    obtain ⟨_, hepoch⟩ := hinv.repairing transaction hrecovery hstatus
    rcases applyOp_transaction hinv hrecovery hafter with
      rfl | ⟨c, roomEpoch, sessionEpoch, pin, rfl, rfl, _, hstrict, hpin, _⟩
    · by_cases hstill : (applyOp relay s.room op).status = .repairingState
      · obtain ⟨_, hepoch'⟩ := hinv'.repairing _ hafter hstill
        have hsame : raisesSessionEpoch relay (s, op) = false :=
          decide_eq_false (Nat.not_lt.mpr (hepoch'.trans hepoch.symm).le)
        refine .frozen hbegan hafter hstill ?_
        rw [List.countP_append, hraised, List.countP_singleton, hsame]
        rfl
      · exact .abandoned hafter hstill
    · have hid : pin = ⟨transaction.recoveryId, pin.manifest⟩ := by
        simp only [pinMatches, hrecovery, Option.any_some, Bool.and_eq_true,
          decide_eq_true_eq] at hpin
        rw [hpin.2.1.2]
      have hcommitted := hinv'.committed _ pin.manifest hafter rfl
      have hup : raisesSessionEpoch relay (s, .pinStateRecovery c roomEpoch sessionEpoch pin)
          = decide (transaction.preparingSessionEpoch < u64Max) := by
        have hnext : (applyOp relay s.room (.pinStateRecovery c roomEpoch sessionEpoch
            pin)).sessionEpoch = satAdd u64Max transaction.preparingSessionEpoch 1 :=
          hcommitted.sessionEpoch
        have hbefore : s.room.sessionEpoch = transaction.preparingSessionEpoch := hepoch
        rw [raisesSessionEpoch, hnext, hbefore, satAdd]
        exact decide_eq_decide.mpr (by omega)
      refine .committed hbegan hafter ?_ ⟨_, List.mem_append_right _ (List.mem_singleton_self _),
        c, roomEpoch, sessionEpoch, congrArg _ hid, ?_⟩
      · rw [List.countP_append, hraised, List.countP_singleton, hup]
        simp
      · rw [← hid]
        exact congrArg Prod.fst (pin_commits hstrict hpin hrecovery hpreparing hstatus)
  | abandoned hrecovery hstatus =>
    rcases applyOp_transaction hinv hrecovery hafter with rfl | ⟨_, _, _, _, _, _, hrepairing, _⟩
    · exact .abandoned hafter fun h => hstatus (hnew (by simp [hrecovery]) h)
    · exact absurd hrepairing hstatus
  | @committed manifest hbegan hrecovery hraised hpin =>
    rcases applyOp_transaction hinv hrecovery hafter with rfl | ⟨_, _, _, _, _, _, _, _, _, h⟩
    · have hepoch := (hinv.committed _ manifest hrecovery rfl).sessionEpoch
      have hepoch' := (hinv'.committed _ manifest hafter rfl).sessionEpoch
      have hsame : raisesSessionEpoch relay (s, op) = false :=
        decide_eq_false (Nat.not_lt.mpr (hepoch'.trans hepoch.symm).le)
      obtain ⟨visit, hvisit, hcommitted⟩ := hpin
      refine .committed hbegan hafter ?_ ⟨visit, List.mem_append_left _ hvisit, hcommitted⟩
      rw [List.countP_append, hraised, List.countP_singleton, hsame]
      rfl
    · exact absurd h (by simp [StateRecoveryTransaction.isPreparing,
        StateRecoveryTransaction.commit])

/-- **A recovery is committed once, to one snapshot.** While it is committed, a snapshot is complete
only with the pinned manifest; the host may repeat its pin and gets the same view; any other pin is
refused; neither changes the room. And as long as a recovery that was preparing stays active, the
session epoch goes up once: with the pin that commits it. -/
theorem recovery_committedOnce {s : StoredRoom} (h : Reachable relay s) :
    (∀ transaction manifest, s.room.stateRecovery = some transaction →
      transaction.pinnedSnapshot = some manifest →
        (s.room.hostSnapshotCompleted → s.room.completedSnapshotManifest = some manifest)
          ∧ (∀ c, s.room.roleForConnection c = some .host →
            s.room.acceptV5StateRecoveryPinForEpoch c transaction.preparingRoomEpoch
                transaction.preparingSessionEpoch ⟨transaction.recoveryId, manifest⟩ .default
              = (.ok transaction.view, s.room))
          ∧ ∀ c roomEpoch sessionEpoch pin, pin ≠ ⟨transaction.recoveryId, manifest⟩ →
            ∃ error, s.room.acceptV5StateRecoveryPinForEpoch c roomEpoch sessionEpoch pin .default
              = (.error error, s.room))
      ∧ ∀ ops t preparing committed manifest, s.room.stateRecovery = some preparing →
        preparing.isPreparing →
        Guarded (StoredRoom.step relay) (fun s op => Admissible s.room op
          ∧ (applyOp relay s.room op).stateRecovery.isSome) s ops →
        run (StoredRoom.step relay) s ops = some t → t.room.stateRecovery = some committed →
        committed.pinnedSnapshot = some manifest →
          committed = preparing.commit manifest
            ∧ t.room.sessionEpoch = satAdd u64Max s.room.sessionEpoch 1
            ∧ (s.room.sessionEpoch < u64Max →
              (visits (StoredRoom.step relay) s ops).countP (raisesSessionEpoch relay) = 1)
            ∧ ∃ visit ∈ visits (StoredRoom.step relay) s ops,
              CommittedBy preparing manifest visit := by
  have hinv := repairs_reachable h
  refine ⟨fun transaction manifest htransaction hpinned => ⟨?_, ?_, ?_⟩, ?_⟩
  · exact (hinv.committed transaction manifest htransaction hpinned).snapshot
  · exact fun c hrole => pin_repeated hinv htransaction hpinned hrole
  · exact fun c roomEpoch sessionEpoch pin hother => pin_other htransaction hpinned hother
  · intro ops t preparing committed manifest hprepared hpreparing hguarded hrun hafter hpinned
    have hstep : ∀ past u op v, Reachable relay u ∧ Progress relay preparing s.room past u.room →
        (Admissible u.room op ∧ (applyOp relay u.room op).stateRecovery.isSome) →
        u.step relay op = some v →
        Reachable relay v ∧ Progress relay preparing s.room (past ++ [(u, op)]) v.room := by
      intro past u op v hu hguard hv
      exact ⟨reachable_step hu.1 hguard.1 hv,
        progress_step hpreparing (repairs_reachable hu.1) hguard.2 hv hu.2⟩
    have hbegin : Progress relay preparing s.room [] s.room := by
      by_cases hstatus : s.room.status = .repairingState
      · exact .frozen hstatus hprepared hstatus rfl
      · exact .abandoned hprepared hstatus
    obtain ⟨ht, hprogress⟩ := history_run hstep hguarded.history hrun ⟨h, hbegin⟩
    rw [List.nil_append] at hprogress
    have hlater : committed ≠ preparing := by
      rintro rfl
      simp [StateRecoveryTransaction.isPreparing, hpinned] at hpreparing
    cases hprogress with
    | frozen _ hrecovery | abandoned hrecovery =>
        exact absurd (Option.some.inj (hafter.symm.trans hrecovery)) hlater
    | @committed manifest' hbegan hrecovery hraised hpin =>
        obtain rfl := Option.some.inj (hafter.symm.trans hrecovery)
        obtain rfl := Option.some.inj hpinned
        -- the pin was taken on the epochs of the preparation, and so on those of `s`
        have hepoch : s.room.sessionEpoch = preparing.preparingSessionEpoch :=
          (hinv.repairing preparing hprepared hbegan).2
        refine ⟨rfl, ?_, fun hbelow => ?_, hpin⟩
        · rw [hepoch]
          exact ((repairs_reachable ht).committed _ _ hafter rfl).sessionEpoch
        · rw [hraised, if_pos (hepoch ▸ hbelow)]

/-- The host pins the state of frame 600, the handshake runs again up to the snapshot, and a late
repetition of the pin arrives. -/
theorem recovery_committedOnce_repairing :
    let ops : List RoomOp := (repair 1 600).take 5
      ++ [.pinStateRecovery hostSocket 2 2 ⟨1, sampleManifest 600⟩]
    (run (StoredRoom.step sampleRelay) repairingRoom ops).map (·.room.sessionEpoch) = some 3
      ∧ (visits (StoredRoom.step sampleRelay) repairingRoom ops).countP
        (raisesSessionEpoch sampleRelay) = 1 := by
  intro ops
  have hfacts : repairingRoom.room.stateRecovery.map (·.isPreparing) = some true
      ∧ repairingRoom.room.sessionEpoch = 2
      ∧ Guarded (StoredRoom.step sampleRelay) (fun s op => Admissible s.room op
        ∧ (applyOp sampleRelay s.room op).stateRecovery.isSome) repairingRoom ops
      ∧ (run (StoredRoom.step sampleRelay) repairingRoom ops).map (fun t =>
          (t.room.hostSnapshotCompleted, t.room.stateRecovery.map (·.pinnedSnapshot)))
        = some (true, some (some (sampleManifest 600))) := by
    decide +kernel
  obtain ⟨hpreparing, hepoch, hguarded, hcommitted⟩ := hfacts
  obtain ⟨preparing, hprepared, hphase⟩ := Option.map_eq_some_iff.mp hpreparing
  obtain ⟨t, hrun, ht⟩ := Option.map_eq_some_iff.mp hcommitted
  obtain ⟨committed, hafter, hpinned⟩ := Option.map_eq_some_iff.mp (Prod.mk.inj ht).2
  obtain ⟨_, hend, hraised, _⟩ := (recovery_committedOnce repairingRoom_reachable).2 ops t preparing
    committed (sampleManifest 600) hprepared hphase hguarded hrun hafter hpinned
  rw [hepoch] at hend hraised
  rw [hrun, Option.map_some, hend]
  exact ⟨rfl, hraised (by decide)⟩

end NetplayRelay.Proof
