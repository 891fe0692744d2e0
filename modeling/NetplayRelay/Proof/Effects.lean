import NetplayRelay.Proof.Effect

/-!
# Every call has one of the effects

The operations are unfolded here, branch by branch, and nowhere else: one lemma for each call, and
`applyOp_effect` for all of them.
-/

namespace NetplayRelay.Proof

open Lib Protocol Rooms Registry
open NetplayRoom hiding playerExited markReady

variable {relay : Relay} {r : NetplayRoom} {c : ConnectionId} {now : Instant}
  {frame t sequence : Nat} {network : Option ClientNetworkQualityReport} {p : PlayerIndex}
  {input : ResumeTokenHash} {order : HashOrder} {r₁ r' : NetplayRoom} {op : RoomOp}
  {report : StateHashReport} {manifest : SnapshotManifest}
  {capabilities : ClientTransportCapabilities}

/-! ## Calls that only keep books -/

/-- A call that is refused, or finds nothing to do, leaves the room as it was. -/
theorem Effect.unchanged : Effect relay r op r := .bookkeeping (.refl r)

theorem armRunnerHandoff_effect :
    Effect relay r (.armRunnerHandoff c now)
      (r.armRunnerHandoff c now relay.recovery.runnerHandoffGrace).2 := by
  unfold armRunnerHandoff
  split
  · exact .unchanged
  split
  · exact .unchanged
  · refine .bookkeeping (.updateSlot fun slot hslot => .of_connected rfl ?_ id)
    simp [of_decide_eq_true hslot]

theorem cancelRunnerHandoff_effect :
    Effect relay r (.cancelRunnerHandoff c) (r.cancelRunnerHandoff c).2 := by
  unfold cancelRunnerHandoff
  split
  · exact .unchanged
  · refine .bookkeeping (.updateSlot fun slot hslot => .of_connected rfl ?_ id)
    simp [of_decide_eq_true hslot]

theorem recordHeartbeat_effect {frame : Option Nat} {state : ClientRuntimeState} :
    Effect relay r (.recordHeartbeat c frame network state now)
      (r.recordHeartbeat c now frame network state).2 := by
  unfold recordHeartbeat
  split
  · exact .unchanged
  · exact .bookkeeping (.updateSlot fun _ _ => .of_edit rfl rfl rfl rfl)

theorem refreshVoiceToken_effect {identity token expiresAt : Text} :
    Effect relay r (.refreshVoiceToken c identity token expiresAt)
      (r.refreshVoiceGrant c identity token expiresAt).2 := by
  unfold NetplayRoom.refreshVoiceGrant
  split
  · exact .unchanged
  · exact .unchanged
  split
  · exact .unchanged
  · split
    · exact .unchanged
    · exact .bookkeeping (.of_core rfl rfl)

theorem relaySnapshotChunk_effect {chunk : SnapshotChunk} :
    Effect relay r (.relaySnapshotChunk c chunk)
      (r.acceptSnapshotChunk relay.sha256 c chunk .default).2 := by
  unfold acceptSnapshotChunk
  split
  · exact .unchanged
  split
  · split
    · exact .unchanged
    · exact .unchanged
  · exact .bookkeeping (.of_core rfl rfl)

/-- A packet does not touch the reports. -/
theorem acceptPacket_state {state : LinkCableRoomState} {packet : LinkCablePacket} {limit : Nat} :
    (state.acceptPacket p packet limit).2 = { state with
      lastSequences := (state.acceptPacket p packet limit).2.lastSequences } := by
  fun_cases LinkCableRoomState.acceptPacket state p packet limit <;> rfl

theorem relayLinkCablePacket_effect {packet : LinkCablePacket} :
    Effect relay r (.relayLinkCablePacket c packet) (r.acceptLinkCablePacket c packet).2 := by
  unfold acceptLinkCablePacket
  split
  · exact .unchanged
  split
  · exact .unchanged
  · refine .bookkeeping (.of_core rfl rfl) (.packetTaken ?_)
    exact congrArg (fun state => { sideData r with linkCable := state }) acceptPacket_state

/-! ## Joining, leaving and coming back -/

/-- An input socket may be attached to the seat. -/
structure MayAttach (r : NetplayRoom) (p : PlayerIndex) (roomEpoch sessionEpoch : Nat)
    (input : ResumeTokenHash) (slot : PlayerSlot) : Prop where
  found : r.slotForPlayer p = some slot
  control : slot.connectionId.isSome
  issuedTo : slot.inputSocketControlConnectionId = slot.connectionId
  token : slot.inputSocketTokenHash = some input
  epochs : r.roomEpoch = roomEpoch ∧ r.sessionEpoch = sessionEpoch

theorem joinGuest_effect {key : Text} {resume : ResumeTokenHash} :
    Effect relay r (.joinGuest key c resume input now capabilities)
      (r.joinGuestWithResume key c resume input now capabilities).2 := by
  unfold joinGuestWithResume
  split
  · exact .unchanged
  rename_i hstatus
  split
  · exact .unchanged
  · rename_i hempty
    exact .joined hstatus (by rw [hempty]; rfl)

theorem connectHost_effect {key : Text} {resume : ResumeTokenHash} :
    Effect relay r (.connectHost key c resume input now capabilities)
      (r.attachHostWithResume key c resume input now capabilities).2 := by
  unfold attachHostWithResume
  split
  · exact .unchanged
  rename_i hstatus
  split
  · exact .unchanged
  rename_i slot hslot
  split
  · exact .unchanged
  · rename_i hkey
    exact .hostAttached hstatus hslot (not_not.mp hkey)

/-- A request to come back fails, or its player may return. -/
theorem reconnectPlayer_cases (r : NetplayRoom) (request : PlayerReconnectRequest) :
    (∃ error r', r.reconnectPlayer request = (.error error, r') ∧ SameSession r r'
        ∧ sideData r' = sideData r)
      ∨ (r.status ≠ .closed ∧ ∃ slot, Returns r request slot) := by
  unfold NetplayRoom.reconnectPlayer
  split
  · exact .inl ⟨_, _, rfl, .refl r, rfl⟩
  rename_i hstatus
  split
  · exact .inl ⟨_, _, rfl, .refl r, rfl⟩
  rename_i slot hslot
  dsimp only
  split
  · exact .inl ⟨_, _, rfl, .refl r, rfl⟩
  rename_i htoken
  split
  · exact .inl ⟨_, _, rfl, .refl r, rfl⟩
  rename_i hmayReturn
  split
  · exact .inl ⟨_, _, rfl, .refl r, rfl⟩
  rename_i hepoch
  split
  · -- the slot has a resume token, so it is not vacant
    refine .inl ⟨_, _, rfl, .updateSlot (fun _ _ => .enter (by simp)) ?_, rfl⟩
    intro slot' hslot' hvacant
    obtain rfl := Option.some.inj (hslot.symm.trans hslot')
    exact absurd (hvacant.resume.symm.trans (not_not.mp htoken)) (by simp)
  · rename_i hexpired
    have hawaited : slot.runnerHandoffDeadline.isSome
        ∨ (slot.connectionId = none ∧ slot.reconnectDeadline.isSome) := by
      by_cases hhandoff : slot.runnerHandoffDeadline.isSome
      · exact .inl hhandoff
      -- without a handoff only a slot under a deadline gets here
      right
      simpa [hhandoff, PlayerSlot.isConnected, Option.isSome_iff_ne_none]
        using hmayReturn
    have hinTime : (slot.reconnectDeadline.all (request.now < ·))
        ∧ slot.runnerHandoffDeadline.all (request.now < ·) := by
      rw [Bool.or_eq_true, not_or] at hexpired
      constructor
      · cases h : slot.reconnectDeadline <;> simp_all
      · cases h : slot.runnerHandoffDeadline <;> simp_all
    exact .inr ⟨hstatus, slot, hslot, not_not.mp htoken, hawaited, by tauto, hinTime⟩

/-- A player who may come back is let in. -/
theorem reconnectPlayer_returns {request : PlayerReconnectRequest} {slot : PlayerSlot}
    (hstatus : r.status ≠ .closed) (h : Returns r request slot) :
    r.reconnectPlayer request = (.ok (),
      if slot.runnerHandoffDeadline.isSome then
        r.updateSlot (·.playerIndex = request.playerIndex) (·.reconnect request)
      else (r.updateSlot (·.playerIndex = request.playerIndex)
        (·.reconnect request)).restoreCheckingCompatibilityAfterRecovery) := by
  have hawaited : ¬(!slot.runnerHandoffDeadline.isSome
      && (slot.isConnected || slot.reconnectDeadline.isNone)) := by
    rcases h.awaited with hhandoff | ⟨habsent, hdeadline⟩
    · simp [hhandoff]
    · simp [PlayerSlot.isConnected, habsent, Option.isSome_iff_ne_none.mp hdeadline]
  have hepoch : ¬(request.roomEpoch ≠ slot.reconnectRoomEpoch.getD r.roomEpoch
      ∧ request.roomEpoch ≠ r.roomEpoch) := by
    have := h.epoch
    tauto
  have hinTime : ¬(slot.reconnectDeadline.any (request.now ≥ ·)
      || slot.runnerHandoffDeadline.any (request.now ≥ ·)) := by
    have hdeadline := h.inTime.1
    have hhandoff := h.inTime.2
    cases hd : slot.reconnectDeadline <;> cases hh : slot.runnerHandoffDeadline <;> simp_all
  rw [NetplayRoom.reconnectPlayer, if_neg hstatus, h.found]
  dsimp only
  rw [if_neg (not_not.mpr h.token), if_neg hawaited, if_neg hepoch, if_neg hinTime]

theorem reconnectPlayer_effect {request : PlayerReconnectRequest} :
    Effect relay r (.reconnectPlayer request) (r.reconnectPlayer request).2 := by
  rcases reconnectPlayer_cases r request with
    ⟨_, _, hfailed, hsame, hside⟩ | ⟨hstatus, slot, hreturns⟩
  · rw [hfailed]
    exact .bookkeeping hsame (.kept hside)
  rw [reconnectPlayer_returns hstatus hreturns]
  by_cases hhandoff : slot.runnerHandoffDeadline.isSome
  · rw [if_pos hhandoff]
    exact .handoffReconnected hstatus hreturns hhandoff
  · rw [if_neg hhandoff]
    exact .reconnected hstatus hreturns (by simpa using hhandoff)
      (hreturns.awaited.resolve_left hhandoff).2

/-- An input socket is refused, or may be attached and is. -/
theorem attachInputSocket_cases (r : NetplayRoom) (p : PlayerIndex) (roomEpoch sessionEpoch : Nat)
    (input : ResumeTokenHash) (c : ConnectionId) (now : Instant) :
    (∃ error, r.attachInputSocket p roomEpoch sessionEpoch input c now = (.error error, r))
      ∨ ((∃ slot, MayAttach r p roomEpoch sessionEpoch input slot)
        ∧ r.attachInputSocket p roomEpoch sessionEpoch input c now
          = (.ok (), r.updateSlot (·.playerIndex = p) fun slot =>
            { slot with
              inputSocketTokenHash := none
              inputSocketControlConnectionId := none
              inputConnectionId := some c
              lastSeenAt := some now })) := by
  unfold attachInputSocket
  split
  · exact .inl ⟨_, rfl⟩
  split
  · exact .inl ⟨_, rfl⟩
  rename_i hroom
  split
  · exact .inl ⟨_, rfl⟩
  rename_i hsession
  split
  · exact .inl ⟨_, rfl⟩
  rename_i slot hslot
  split
  · exact .inl ⟨_, rfl⟩
  rename_i htoken
  split
  · exact .inl ⟨_, rfl⟩
  rename_i control hcontrol
  split
  · exact .inl ⟨_, rfl⟩
  rename_i hfree
  simp only [not_or, not_not] at hfree htoken hroom hsession
  exact .inr ⟨⟨slot, hslot, by rw [hcontrol]; rfl, hfree.1.trans hcontrol.symm, htoken,
    hroom, hsession⟩, rfl⟩

theorem connectInputSocket_effect {roomEpoch sessionEpoch : Nat} :
    Effect relay r (.connectInputSocket p roomEpoch sessionEpoch input c now)
      (r.attachInputSocket p roomEpoch sessionEpoch input c now).2 := by
  rcases attachInputSocket_cases r p roomEpoch sessionEpoch input c now with
    ⟨_, hfailed⟩ | ⟨⟨slot, h⟩, hattached⟩
  · rw [hfailed]
    exact .unchanged
  · rw [hattached]
    exact .inputAttached h.found h.control h.issuedTo h.token h.epochs

theorem playerExited_effect : Effect relay r (.playerExited c now) (playerExited r c now).2 := by
  unfold playerExited NetplayRoom.playerExited
  cases hp : r.playerIndexForConnection c with
  | none => exact .unchanged
  | some p => exact .exited hp

theorem disconnectInputSocket_effect :
    Effect relay r (.disconnectInputSocket c now)
      (r.disconnectInputSocket c now relay.recovery.reconnectGrace).2 := by
  unfold disconnectInputSocket
  cases hslot : r.slotForInputConnection c with
  | none => exact .unchanged
  | some slot =>
    dsimp only
    by_cases hstatus : r.status.inputLossIsRecoverable
    · rw [if_pos hstatus]
      cases hcontrol : slot.connectionId with
      | none => exact .inputLost hslot fun _ => hcontrol
      | some control =>
        have hloss := disconnectWithRecovery_loss (r.detachInputSocket c slot.playerIndex now)
          control now relay.recovery.reconnectGrace
        refine .inputAndControlLost hslot hstatus hcontrol ?_
        dsimp only
        -- whatever the disconnect answers, the room is the one it left
        revert hloss
        rcases (r.detachInputSocket c slot.playerIndex now).disconnectWithRecovery control now
          relay.recovery.reconnectGrace with ⟨_ | _, r'⟩ <;> exact id
    · rw [if_neg hstatus]
      exact .inputLost hslot fun h => absurd h hstatus

/-- Marking silent players leaves the session alone. -/
theorem markStaleConnections_same (r : NetplayRoom) (now : Instant) (stale disconnect : Duration) :
    SameSession r (r.markStaleConnections now stale disconnect).2
      ∧ sideData (r.markStaleConnections now stale disconnect).2 = sideData r := by
  unfold markStaleConnections
  split
  · exact ⟨.refl _, rfl⟩
  · exact ⟨.updateWhere fun _ => .of_edit rfl rfl rfl rfl, rfl⟩

theorem sweep_effect : Effect relay r (.sweep now) (sweepRoom relay r now) := by
  unfold sweepRoom closeExpiredStateRecovery
  by_cases hpin : r.stateRecoveryPinExpired now
  · simp only [hpin, Bool.not_true, Bool.false_eq_true, if_false]
    exact .pinTimedOut hpin
  simp only [hpin, Bool.not_false, if_true]
  have houtcome := expireRunnerHandoffs_outcome r now
  have hexpired := expireRunnerHandoffs_side r now
  rcases hhandoffs : r.expireRunnerHandoffs now with ⟨closed, r₁⟩
  rw [hhandoffs] at houtcome hexpired
  have hmarked := markStaleConnections_same r₁ now relay.recovery.heartbeatStale
    relay.recovery.heartbeatDisconnect
  have hbeats := recoverStaleConnections_outcome
    (r₁.markStaleConnections now relay.recovery.heartbeatStale
      relay.recovery.heartbeatDisconnect).2 now
    relay.recovery.heartbeatDisconnect relay.recovery.reconnectGrace
  cases closed with
  | none =>
    have hsame := SameSession.trans houtcome hmarked.1
    rcases hbeats with hkept | hdropped
    · rw [hkept]
      exact .bookkeeping hsame (.kept (hmarked.2.trans hexpired))
    · exact .heartbeatsStopped hsame hdropped
  | some closed =>
    have hcleared := houtcome.1.same hmarked.1
    have hstatus := hmarked.1.status.trans houtcome.2
    rcases hbeats with hkept | hdropped
    · rw [hkept]
      exact .handoffsLapsed hcleared hstatus (hmarked.2.trans hexpired) (by simpa using hpin)
        hhandoffs hmarked.1
    · -- a room that has lost a seat is not watched any more
      have hwatched := hdropped.watched
      rw [hstatus] at hwatched
      cases closed <;> exact absurd hwatched (by decide)

/-! ## Compatibility and readiness -/

/-- The seat's client can do the same for a scheduled start. -/
structure SameSupport (slot slot' : PlayerSlot) : Prop where
  playerIndex : slot'.playerIndex = slot.playerIndex
  scheduledStart : slot'.supportsScheduledStart = slot.supportsScheduledStart
  clockSync : slot'.supportsClockSync = slot.supportsClockSync

theorem setCompatibility_effect {fp : CompatibilityFingerprint} :
    Effect relay r (.setCompatibility order c fp)
      (r.setCompatibilityForConnection order c fp).2 := by
  unfold setCompatibilityForConnection
  split
  · exact .unchanged
  rename_i hmode
  have hmode : r.session.mode = .controllerNetplay := by simpa using hmode
  split
  · exact .unchanged
  rename_i hstatus
  split
  · exact .unchanged
  rename_i p hp
  split
  · rename_i hfp
    exact .fingerprintRejected hmode hstatus hp (by simpa using hfp)
  rename_i hfp
  have hfp : r.fingerprintMatchesSession fp := by simpa using hfp
  dsimp only
  split
  · rename_i hall
    exact .fingerprintStored hmode hstatus hp hfp (by simpa using hall)
  rename_i hall
  have hall : (r.storeFingerprint p fp).connectedPlayersHaveFingerprints := by
    simpa using hall
  split
  · rename_i hdiff
    exact .fingerprintsDiffer hmode hstatus hp hfp hall hdiff
  · rename_i hsame
    exact .fingerprintsAgree hmode hstatus hp hfp hall (by simpa using hsame)

theorem storeLinkCompatibility_keeps (p : PlayerIndex) (state : LinkCableRoomState) :
    List.Forall₂ Keeps r.players (r.storeLinkCompatibility p state).players :=
  setPlayerStatus_keeps r (by simp)

theorem setLinkCableCompatibility_effect {compatibility : LinkCableCompatibility} :
    Effect relay r (.setLinkCableCompatibility order c compatibility)
      (r.setLinkCableCompatibilityForConnection order c compatibility).2 := by
  unfold setLinkCableCompatibilityForConnection linkDescriptor
  split
  · exact .unchanged
  rename_i hclosed
  split
  · exact .unchanged
  rename_i hplaying
  split
  · exact .unchanged
  rename_i p hp
  split
  · exact .unchanged
  rename_i link hlink
  have hmode : r.session.mode = .linkCable := by
    by_contra hmode
    rw [if_pos hmode] at hlink
    exact absurd hlink (by simp)
  split
  · exact .linkRejected hmode hclosed hplaying hp
  split
  · exact .linkRejected hmode hclosed hplaying hp
  rename_i state hset
  dsimp only
  split
  · exact .linkStored hmode hclosed hplaying hp
  rename_i hall
  split
  · exact .linksDiffer hmode hclosed hplaying hp
  refine .linksAgree hmode hclosed hplaying ?_ hp
  simp only [LinkCableRoomState.connectedPlayersHaveCompatibility,
    connectedPlayerIndices_keeps (storeLinkCompatibility_keeps p state),
    Bool.not_eq_true, Bool.not_eq_false',
    Bool.and_eq_true, decide_eq_true_eq] at hall
  exact hall.1

/-- A ready report counts its player and may come with a network report. -/
theorem recordReady_counts (c : ConnectionId) (network : Option ClientNetworkQualityReport)
    (now : Instant) (hp : r.playerIndexForConnection c = some p) :
    SameSession (countReady r p) ((r.recordNetworkReport c none network now).recordReady p) := by
  have hreport : SameSession r (r.recordNetworkReport c none network now) := .recordNetworkReport
  refine ⟨rfl, forall₂_trans Keeps.trans hreport.players ?_, ?_⟩
  · exact setPlayerStatus_keeps _ (by simp)
  have hready : VacancyKept (r.recordNetworkReport c none network now)
      ((r.recordNetworkReport c none network now).recordReady p) :=
    .setPlayerStatus ((playerIndexForConnection_keeps hreport.players c).trans hp)
  exact hreport.vacant.trans hreport.players hready

/-- What a client can do is not touched by a ready report. -/
theorem recordReady_supportsScheduledStart (c : ConnectionId)
    (network : Option ClientNetworkQualityReport) (now : Instant)
    (hp : r.playerIndexForConnection c = some p) :
    ((r.recordNetworkReport c none network now).recordReady p).connectedPlayersSupportScheduledStart
      = r.connectedPlayersSupportScheduledStart := by
  have hreport :
      List.Forall₂ SameSupport r.players (r.recordNetworkReport c none network now).players :=
    forall₂_updateFirst (fun _ => ⟨rfl, rfl, rfl⟩) fun _ _ => ⟨rfl, rfl, rfl⟩
  have hready : List.Forall₂ SameSupport (r.recordNetworkReport c none network now).players
      ((r.recordNetworkReport c none network now).recordReady p).players :=
    forall₂_updateFirst (fun _ => ⟨rfl, rfl, rfl⟩) fun _ _ => ⟨rfl, rfl, rfl⟩
  have hsame : List.Forall₂ SameSupport r.players
      ((r.recordNetworkReport c none network now).recordReady p).players :=
    forall₂_trans (fun h h' => ⟨h'.1.trans h.1, h'.2.trans h.2, h'.3.trans h.3⟩) hreport hready
  have hindices := connectedPlayerIndices_keeps (recordReady_counts c network now hp).players
  have htest : ∀ q, (((r.recordNetworkReport c none network now).recordReady p).slotForPlayer
        q).any (fun slot => slot.supportsScheduledStart && slot.supportsClockSync)
      = (r.slotForPlayer q).any fun slot =>
        slot.supportsScheduledStart && slot.supportsClockSync := by
    intro q
    have hfound := find?_map_of_forall₂ (p := (decide <| ·.playerIndex = q))
      (k := fun slot : PlayerSlot => slot.supportsScheduledStart && slot.supportsClockSync) hsame
      (fun _ _ h => by rw [h.playerIndex]) fun _ _ h => by rw [h.scheduledStart, h.clockSync]
    have := congrArg (Option.any id) hfound
    rwa [Option.any_map, Option.any_map] at this
  rw [connectedPlayersSupportScheduledStart, connectedPlayersSupportScheduledStart, allConnected,
    allConnected, hindices]
  exact congrArg (_ && List.all _ ·) (funext htest)

/-- A ready report is refused, counted, or starts the session. -/
inductive ReadyOutcome (r : NetplayRoom) (c : ConnectionId) (now : Instant) : Outcome Bool → Prop
  | refused {error : RoomError} : ReadyOutcome r c now (.error error, r)
  | counted {p : PlayerIndex} {r₁ : NetplayRoom} (hmay : MayBeReady r)
      (hp : r.playerIndexForConnection c = some p) (hr₁ : SameSession (countReady r p) r₁)
      (hside : sideData r₁ = sideData r) : ReadyOutcome r c now (.ok false, r₁.enterReady)
  | started {p : PlayerIndex} {r₁ : NetplayRoom} (hmay : MayBeReady r)
      (hp : r.playerIndexForConnection c = some p) (hr₁ : SameSession (countReady r p) r₁)
      (hside : sideData r₁ = sideData r) (hall : r₁.connectedPlayersAreReady)
      (hunscheduled : r.connectedPlayersSupportScheduledStart = false) :
      ReadyOutcome r c now (.ok true, (r₁.applyInitialAdaptiveInputDelay now).enterPlaying)

theorem markReady_outcome (c : ConnectionId) (network : Option ClientNetworkQualityReport)
    (now : Instant) : ReadyOutcome r c now (r.markReady c network now) := by
  unfold NetplayRoom.markReady
  split
  · exact .refused
  rename_i hstatus
  split
  · exact .refused
  rename_i hsnapshot
  split
  · exact .refused
  rename_i hsockets
  split
  · exact .refused
  rename_i p hp
  have hmay : MayBeReady r :=
    ⟨by tauto, by simpa using hsnapshot, by simpa using hsockets⟩
  have hcounts := recordReady_counts c network now hp
  dsimp only
  split
  · exact .counted hmay hp hcounts rfl
  rename_i hall
  split
  · exact .counted hmay hp hcounts rfl
  · rename_i hunscheduled
    rw [recordReady_supportsScheduledStart c network now hp] at hunscheduled
    exact .started hmay hp hcounts rfl (by simpa using hall) (by simpa using hunscheduled)

/-- A clock request is opened, or an open one is repeated. -/
theorem requestClockSyncSample_core (serverTimeMs : Nat) :
    (r.requestClockSyncSample serverTimeMs).2 = r
      ∨ ∃ request, r.clockSyncRequest = none
        ∧ request.requestedSampleCount = clockSyncRequestedSampleCount
        ∧ sessionCore (r.requestClockSyncSample serverTimeMs).2
          = { sessionCore r with clockSyncRequest := some request } := by
  unfold requestClockSyncSample
  cases h : r.clockSyncRequest with
  | some active => exact .inl rfl
  | none => exact .inr ⟨_, rfl, rfl, rfl⟩

theorem requestClockSyncSample_side (serverTimeMs : Nat) :
    sideData (r.requestClockSyncSample serverTimeMs).2 = sideData r := by
  unfold requestClockSyncSample
  split <;> rfl

theorem applyInitialAdaptiveInputDelay_side (now : Instant) :
    sideData (r.applyInitialAdaptiveInputDelay now) = sideData r := by
  unfold applyInitialAdaptiveInputDelay
  split <;> rfl

theorem requestClockSyncSample_players (serverTimeMs : Nat) :
    (r.requestClockSyncSample serverTimeMs).2.players = r.players := by
  unfold requestClockSyncSample
  split <;> rfl

/-- What the relay asks of the room before it asks for clock samples. -/
theorem shouldRequestClockSyncSample_everybody (h : r.shouldRequestClockSyncSample) :
    r.connectedPlayerIndices.length = r.maxPlayers
      ∧ ∀ q ∈ r.connectedPlayerIndices, q ∈ r.readyPlayers := by
  simp only [shouldRequestClockSyncSample, Bool.and_eq_true,
    connectedPlayersSupportScheduledStart, allConnected,
    connectedPlayersAreReadyForStartSync, decide_eq_true_eq, List.all_eq_true] at h
  exact ⟨h.1.1.1.2.1, h.1.1.2⟩

/-- The relay asks for clock samples in a room that has become ready. -/
theorem requestClockSyncSample_ready (hr₁ : SameSession (countReady r p) r₁)
    (hside₁ : sideData r₁ = sideData r) (hasks : r₁.enterReady.shouldRequestClockSyncSample) :
    BecomesReady r p (r₁.enterReady.requestClockSyncSample t).2 := by
  have hready : sessionCore r₁.enterReady
      = { sessionCore (countReady r p) with status := .ready } :=
    congrArg (fun core : SessionCore => { core with status := .ready }) hr₁.core
  have hplayers :
      List.Forall₂ Keeps r.players (r₁.enterReady.requestClockSyncSample t).2.players := by
    rw [requestClockSyncSample_players]
    exact hr₁.players
  have hvacant : VacancyKept r (r₁.enterReady.requestClockSyncSample t).2 := by
    intro hnodup
    rw [requestClockSyncSample_players]
    exact hr₁.vacant hnodup
  have hside : sideData (r₁.enterReady.requestClockSyncSample t).2 = sideData r :=
    (requestClockSyncSample_side t).trans hside₁
  rcases requestClockSyncSample_core (r := r₁.enterReady) t with h | ⟨request, hnone, hcount, h⟩
  · refine ⟨⟨r.clockSyncRequest, ?_⟩, .inl ?_, hplayers, hvacant, hside⟩
    · rw [h]
      exact hready
    · rw [h]
      exact hr₁.clockSyncRequest
  · refine ⟨⟨some request, h.trans ?_⟩, .inr ⟨request, ?_, ?_⟩, hplayers, hvacant, hside⟩
    · rw [hready]
    · exact congrArg (·.clockSyncRequest) h
    obtain ⟨hfull, hall⟩ := shouldRequestClockSyncSample_everybody hasks
    have hindices :
        (countReady r p).connectedPlayerIndices = r₁.enterReady.connectedPlayerIndices :=
      (connectedPlayerIndices_keeps hr₁.players).symm
    have hcounted : r₁.readyPlayers = (countReady r p).readyPlayers :=
      congrArg (·.readyPlayers) hr₁.core
    refine ⟨hr₁.clockSyncRequest ▸ hnone, hcount, ?_, ?_⟩
    · rw [hindices, ← hr₁.maxPlayers]
      exact hfull
    · rw [hindices, ← hcounted]
      exact hall

theorem markReady_effect :
    Effect relay r (.markReady c network now) (markReady relay r c network now).2 := by
  unfold markReady
  have houtcome := markReady_outcome (r := r) c network now
  generalize r.markReady c network now = outcome at houtcome
  cases houtcome with
  | refused => exact .unchanged
  | counted hmay hp hr₁ hside =>
    dsimp only
    split
    · rename_i hasks
      exact .becameReady hmay.status (requestClockSyncSample_ready hr₁ hside hasks) hmay hp
    · refine .becameReady hmay.status ⟨⟨r.clockSyncRequest, ?_⟩, .inl hr₁.clockSyncRequest,
        hr₁.players, hr₁.vacant, hside⟩ hmay hp
      exact congrArg (fun core : SessionCore => { core with status := .ready }) hr₁.core
  | @started p r₁ hmay hp hr₁ hside hall hunscheduled =>
    refine .startedNow hmay.status (.adaptive hr₁ now) hmay ?_ hp hunscheduled
      ((applyInitialAdaptiveInputDelay_side now).trans hside)
    have hcounted : r₁.readyPlayers = (countReady r p).readyPlayers :=
      congrArg (·.readyPlayers) hr₁.core
    rw [NetplayRoom.connectedPlayersAreReady, allConnected,
      connectedPlayerIndices_keeps hr₁.players, hr₁.maxPlayers, hcounted] at hall
    exact hall

/-! ## The scheduled start -/

/-- No start is fixed, and nothing is missing for one. -/
structure MayStart (r : NetplayRoom) : Prop where
  unfixed : r.scheduledStart = none
  ready : r.connectedPlayersReadyForScheduling

theorem tryScheduleStart_fixes (h : MayStart r) (order : HashOrder) (now : Instant)
    (serverTimeMs : Nat) : (r.tryScheduleStart order now serverTimeMs).2
      = scheduleStart (r.applyInitialV5InputDelay order now) serverTimeMs := by
  unfold tryScheduleStart
  simp only [h.unfixed, h.ready, Bool.not_true, Bool.false_eq_true, if_false]
  rfl

/-- A start is fixed, or nothing happens. -/
theorem tryScheduleStart_cases (order : HashOrder) (now : Instant) (serverTimeMs : Nat) :
    (r.tryScheduleStart order now serverTimeMs).2 = r ∨ MayStart r := by
  cases hstart : r.scheduledStart with
  | some start =>
    unfold tryScheduleStart
    rw [hstart]
    exact .inl rfl
  | none =>
    by_cases hready : r.connectedPlayersReadyForScheduling
    · exact .inr ⟨hstart, hready⟩
    · unfold tryScheduleStart
      simp only [hstart, hready, Bool.not_false, if_true]
      exact .inl trivial

theorem applyInitialV5InputDelay_side (order : HashOrder) (now : Instant) :
    sideData (r.applyInitialV5InputDelay order now) = sideData r := by
  unfold applyInitialV5InputDelay
  split
  · rfl
  · dsimp only
    split <;> rfl

theorem recordClockSyncSample_effect {sample : ClockSyncSample} :
    Effect relay r (.recordClockSyncSample order c sample now)
      (r.acceptClockSyncSample order c sample now (relay.serverTimeMsAt now)).2 := by
  unfold acceptClockSyncSample
  by_cases hsupport : r.connectedPlayersSupportScheduledStart
  · simp only [hsupport, Bool.not_true, Bool.false_eq_true, if_false]
    cases hp : r.playerIndexForConnection c with
    | none => exact .unchanged
    | some p =>
      cases hrequest : r.clockSyncRequest with
      | none => exact .unchanged
      | some request =>
        by_cases hanswers :
            sampleAnswers request sample (relay.serverTimeMsAt now)
        · simp only [hanswers, Bool.not_true, Bool.false_eq_true, if_false]
          rcases tryScheduleStart_cases (r := withClockSample r p sample
            (relay.serverTimeMsAt now)) order now (relay.serverTimeMsAt now) with h | hmay
          · rw [← withClockSample, h]
            exact .sampleStored hp hrequest hanswers
          have hnone : r.scheduledStart = none := hmay.unfixed
          have hfixes : fixesStart r c sample (relay.serverTimeMsAt now) := by
            simp only [fixesStart, hp, hrequest, hsupport, hnone, hanswers, hmay.ready]
            rfl
          rw [← withClockSample, tryScheduleStart_fixes hmay]
          exact .startFixedBySample (.strict (.refl _) order now) hrequest hnone hfixes hp
            (applyInitialV5InputDelay_side order now)
        · simp only [hanswers, Bool.not_false, if_true]
          exact .unchanged
  · simp only [hsupport, Bool.not_false, if_true]
    exact .unchanged

/-- The last clock sample fixes a start, whatever the status was. -/
theorem recordClockSyncSample_fixes {sample : ClockSyncSample} (h : fixesStart r c sample t) :
    (r.acceptClockSyncSample order c sample now t).2.status = .startScheduled := by
  unfold fixesStart at h
  split at h
  · rename_i p request hp hrequest
    simp only [Bool.and_eq_true, Option.isNone_iff_eq_none] at h
    obtain ⟨⟨⟨hsupport, hnone⟩, hanswers⟩, hready⟩ := h
    unfold acceptClockSyncSample
    simp only [hsupport, hp, hrequest, hanswers, Bool.not_true, Bool.false_eq_true, if_false]
    have hmay : MayStart (withClockSample r p sample t) := ⟨hnone, hready⟩
    exact congrArg (·.status) (tryScheduleStart_fixes hmay order now t)
  · exact absurd h Bool.false_ne_true

theorem withVote_counts (c : ConnectionId) (p : PlayerIndex)
    (network : Option ClientNetworkQualityReport) (now : Instant) :
    SameSession (countVote r p) (withVote r c p network now) := by
  have hreport : SameSession r (r.recordNetworkReport c none network now) := .recordNetworkReport
  have hvote : SameSession (r.recordNetworkReport c none network now)
      ((r.recordNetworkReport c none network now).updateSlot (·.playerIndex = p)
        fun slot => { slot with runtimeState := .deterministicReady }) :=
    .updateSlot fun _ _ => .of_edit rfl rfl rfl rfl
  exact ⟨rfl, (hreport.trans hvote).players, (hreport.trans hvote).vacant⟩

/-- Whether a start can be fixed depends on the session alone. -/
theorem connectedPlayersReadyForScheduling_same (h : SameSession r r') :
    r'.connectedPlayersReadyForScheduling = r.connectedPlayersReadyForScheduling := by
  have hvotes : r'.deterministicReadyPlayers = r.deterministicReadyPlayers :=
    congrArg (·.deterministicReadyPlayers) h.core
  have hsamples : r'.clockSampleIndicesByPlayer = r.clockSampleIndicesByPlayer :=
    congrArg (·.clockSampleIndicesByPlayer) h.core
  simp only [connectedPlayersReadyForScheduling, allConnected,
    connectedPlayersHaveClockSamples, connectedPlayerIndices_keeps h.players,
    h.maxPlayers, hvotes, h.clockSyncRequest, hsamples]

theorem markDeterministicReady_effect :
    Effect relay r (.markDeterministicReady order c network now)
      (r.markDeterministicReady order c network now (relay.serverTimeMsAt now)).2 := by
  unfold markDeterministicReady
  split
  · exact .unchanged
  rename_i hstatus
  split
  · exact .unchanged
  rename_i hsupport
  split
  · exact .unchanged
  rename_i p hp
  have hsame := withVote_counts (r := r) c p network now
  rcases tryScheduleStart_cases (r := withVote r c p network now) order now
      (relay.serverTimeMsAt now) with h | hmay
  · rw [← withVote, h]
    exact .voteCounted (by tauto) hp
  rw [← withVote, tryScheduleStart_fixes hmay]
  have hready := hmay.ready
  rw [connectedPlayersReadyForScheduling_same hsame] at hready
  have hopen : r.status = .ready ∨ r.status = .startScheduled := by tauto
  have hnone : r.scheduledStart = none := hmay.unfixed
  refine .startFixedByVote (.strict hsame order now) hopen hnone hready ?_ hp
    (applyInitialV5InputDelay_side order now)
  simp only [fixesStartByVote, hp, hnone, hready, Bool.and_eq_true, Bool.or_eq_true,
    decide_eq_true_eq]
  exact ⟨⟨⟨hopen, by simpa using hsupport⟩, rfl⟩, trivial⟩

/-- The last vote fixes a start. -/
theorem markDeterministicReady_fixes (h : fixesStartByVote r c) :
    (r.markDeterministicReady order c network now t).2.status = .startScheduled := by
  unfold fixesStartByVote at h
  split at h
  · rename_i p hp
    simp only [Bool.and_eq_true, Bool.or_eq_true, decide_eq_true_eq, Option.isNone_iff_eq_none] at h
    obtain ⟨⟨⟨hstatus, hsupport⟩, hnone⟩, hready⟩ := h
    have hopen : ¬(r.status ≠ .ready ∧ r.status ≠ .startScheduled) := by tauto
    unfold markDeterministicReady
    simp only [hopen, hsupport, hp, Bool.not_true, Bool.false_eq_true, if_false]
    have hready' : (withVote r c p network now).connectedPlayersReadyForScheduling := by
      rwa [connectedPlayersReadyForScheduling_same (withVote_counts c p network now)]
    have hmay : MayStart (withVote r c p network now) := ⟨hnone, hready'⟩
    exact congrArg (·.status) (tryScheduleStart_fixes hmay order now t)
  · exact absurd h Bool.false_ne_true

/-! ## Pauses -/

theorem markSessionPauseReached_effect :
    Effect relay r (.markSessionPauseReached c sequence frame now)
      (r.markSessionPauseReachedWithOutcomeAt c sequence frame (relay.serverTimeMsAt now)).2 := by
  unfold markSessionPauseReachedWithOutcomeAt
  cases hp : r.playerIndexForConnection c with
  | none => exact .unchanged
  | some p =>
    cases hpause : r.pauseState with
    | none => exact .unchanged
    | some pause =>
      by_cases hvalid : r.pauseReportIsValid pause sequence frame
      · simp only [hvalid, Bool.not_true, Bool.false_eq_true, if_false]
        split
        · rename_i hall
          have hcompletes : completesPause r c sequence frame := by
            simp only [completesPause, hp, hpause, hvalid, hall, Bool.and_self]
          split
          · rename_i hfree
            split
            · rename_i hstrict
              exact .restartedByLast hp hpause hcompletes hstrict (by simpa using hfree)
            · rename_i hlegacy
              exact .pauseEndedByLast hp hpause hcompletes (by simpa using hlegacy)
          · rename_i hheld
            exact .paused hp hpause hcompletes (by simpa using hheld)
        · exact .pauseNoted hpause (.acknowledged hp hvalid)
      · simp only [hvalid, Bool.not_false, if_true]
        exact .unchanged

/-- The last acknowledgement pauses, resumes or restarts the session, whatever the status was. -/
theorem markSessionPauseReached_completes (h : completesPause r c sequence frame) :
    (r.markSessionPauseReachedWithOutcomeAt c sequence frame t).2.status = .paused
      ∨ (r.markSessionPauseReachedWithOutcomeAt c sequence frame t).2.status = .playing
      ∨ (r.markSessionPauseReachedWithOutcomeAt c sequence frame t).2.status = .startScheduled := by
  unfold completesPause at h
  split at h
  · rename_i p pause hp hpause
    obtain ⟨hvalid, hall⟩ := Bool.and_eq_true_iff.mp h
    unfold markSessionPauseReachedWithOutcomeAt
    simp only [hp, hpause, hvalid, hall, Bool.not_true, Bool.false_eq_true, if_false, if_true]
    split
    · split
      · exact .inr (.inr rfl)
      · exact .inr (.inl rfl)
    · exact .inl rfl
  · exact absurd h Bool.false_ne_true

theorem requestSessionResume_effect {id : Text} :
    Effect relay r (.requestSessionResume c id sequence now)
      (r.requestSessionResumeWithIdAt c id sequence (relay.serverTimeMsAt now)).2 := by
  unfold requestSessionResumeWithIdAt
  split
  · exact .unchanged
  rename_i p hp
  split
  · exact .unchanged
  rename_i pause hpause
  split
  · exact .unchanged
  rename_i hsequence
  dsimp only
  split
  · exact .pauseNoted hpause (.released hp (by simpa using hsequence))
  rename_i hdone
  simp only [Bool.or_eq_true, decide_eq_true_eq, not_or, not_not] at hdone
  split
  · rename_i hstrict
    exact .restarted hp hpause hdone.2 hstrict (by simpa using hdone.1)
  · rename_i hlegacy
    exact .pauseEnded hp hpause hdone.2 (by simpa using hlegacy)

/-! ## Input and frames -/

theorem LaneEffect.effect {events : List RoomInputEvent} (h : LaneEffect relay r op events r') :
    Effect relay r op r' := by
  cases h with
  | quiet => exact .unchanged
  | pauseHeld hp hpause => exact .pauseNoted hpause (.held hp)
  | pauseOpened hstatus hnone => exact .pauseOpened hstatus hnone
  | accepted hbatch =>
    obtain ⟨hstrict, hstatus, hgap, hnew, hbound, hwindow⟩ := hbatch
    exact .inputAccepted hstrict hstatus (by omega) hbound (Nat.succ_le_succ hwindow)
  | held hstatus hstart hframe hnext hcovers hallowed =>
    exact .openHeld hstatus hstart hframe hnext hcovers hallowed
  | opened hstatus hstart hframe hnext hcovers hdue hallowed =>
    exact .openedByHost hstatus hnext hcovers hstart hframe hdue hallowed
  | released hstatus hnext hcovers hallowed => exact .frameReleased hstatus hnext hcovers hallowed
  | woken hstatus hpending hstart hdue hepochs =>
    exact .openedByTimer hstatus hpending hstart hdue hepochs

/-! ### Legacy input -/

/-- Staging moved cursors forward, from the start frame of `r` for a player without one. -/
structure CursorsForward (r : NetplayRoom) (staged staged' : InputFrameCursorStage) : Prop where
  forward : ∀ p, (staged.nextInputFrames.lookup p).getD r.syncStartFrame
    ≤ (staged'.nextInputFrames.lookup p).getD r.syncStartFrame
  bounded : ∀ p frame, staged'.nextInputFrames.lookup p = some frame →
    staged.nextInputFrames.lookup p = some frame ∨ frame ≤ u64Max

theorem CursorsForward.refl (staged : InputFrameCursorStage) : CursorsForward r staged staged :=
  ⟨fun _ => Nat.le_refl _, fun _ _ => .inl⟩

theorem CursorsForward.trans {staged staged' staged'' : InputFrameCursorStage}
    (h : CursorsForward r staged staged') (h' : CursorsForward r staged' staged'') :
    CursorsForward r staged staged'' := by
  refine ⟨fun p => Nat.le_trans (h.forward p) (h'.forward p), fun p frame hframe => ?_⟩
  rcases h'.bounded p frame hframe with hframe | hframe
  · exact h.bounded p frame hframe
  · exact .inr hframe

/-- One staged frame moves its player's cursor forward. -/
theorem stageInputFrameCursor_forward {owned : PlayerIndex} {staged staged' : InputFrameCursorStage}
    {input : InputCursor} {acceptance : InputFrameAcceptance}
    (h : r.stageInputFrameCursor owned staged input = .ok (acceptance, staged')) :
    (r.status = .playing ∨ r.status = .paused) ∧ CursorsForward r staged staged' := by
  unfold stageInputFrameCursor at h
  split at h
  · exact absurd h (by simp)
  have hstatus : ∀ a, r.inputFrameAcceptance input.frame = .ok a →
      r.status = .playing ∨ r.status = .paused := by
    intro a ha
    unfold inputFrameAcceptance at ha
    split at ha
    · rename_i hplaying
      exact .inl hplaying
    · rename_i hpaused
      exact .inr hpaused
    · exact absurd ha (by simp)
  split at h
  · exact absurd h (by simp)
  · rename_i ha
    obtain ⟨_, rfl⟩ := Prod.mk.inj (Except.ok.inj h)
    exact ⟨hstatus _ ha, .refl _⟩
  · rename_i ha
    split at h
    · exact absurd h (by simp)
    rename_i hfuture
    split at h
    · obtain ⟨_, rfl⟩ := Prod.mk.inj (Except.ok.inj h)
      exact ⟨hstatus _ ha, .refl _⟩
    rename_i hnew
    obtain ⟨_, rfl⟩ := Prod.mk.inj (Except.ok.inj h)
    refine ⟨hstatus _ ha, fun p => ?_, fun p frame hf => ?_⟩
    · by_cases hp : p = input.playerIndex
      · subst hp
        rw [AList.lookup_insert, Option.getD_some]
        have hlt : input.frame < 2 ^ 64 :=
          Nat.lt_of_le_of_lt (Nat.le_of_not_lt hfuture) (Nat.mod_lt _ (by decide))
        exact Nat.le_trans (Nat.le_of_not_lt hnew) (le_satAdd (Nat.le_of_lt_succ hlt))
      · rw [AList.lookup_insert_ne hp]
    · by_cases hp : p = input.playerIndex
      · subst hp
        rw [AList.lookup_insert] at hf
        exact .inr (Option.some.inj hf ▸ satAdd_le_limit)
      · rw [AList.lookup_insert_ne hp] at hf
        exact .inl hf

/-- A staged batch moves cursors forward; a batch that stages anything was sent in play. -/
theorem stageInputFrameCursors_forward {owned : PlayerIndex} (inputs : List InputCursor) :
    ∀ {staged staged' : InputFrameCursorStage} {acceptances : List InputFrameAcceptance},
      r.stageInputFrameCursors owned staged inputs = .ok (acceptances, staged') →
      (staged' = staged ∨ r.status = .playing ∨ r.status = .paused)
        ∧ CursorsForward r staged staged' := by
  induction inputs with
  | nil =>
    intro staged staged' acceptances h
    obtain ⟨_, rfl⟩ := Prod.mk.inj (Except.ok.inj h)
    exact ⟨.inl rfl, .refl _⟩
  | cons input inputs ih =>
    intro staged staged' acceptances h
    rw [stageInputFrameCursors] at h
    split at h
    · exact absurd h (by simp)
    rename_i hfirst
    split at h
    · exact absurd h (by simp)
    rename_i hrest
    obtain ⟨_, rfl⟩ := Prod.mk.inj (Except.ok.inj h)
    obtain ⟨hstatus, hforward⟩ := stageInputFrameCursor_forward hfirst
    obtain ⟨_, hforward'⟩ := ih hrest
    exact ⟨.inr hstatus, hforward.trans hforward'⟩

theorem acceptInputFrameCursors_effect {op : RoomOp} {c : ConnectionId} (inputs : List InputCursor)
    (hop : legacySender op = some c) :
    Effect relay r op (r.acceptInputFrameCursors c inputs).2 := by
  unfold acceptInputFrameCursors
  split
  · exact .unchanged
  split
  · exact .unchanged
  rename_i owned howned
  split
  · exact .unchanged
  rename_i hstaged
  obtain ⟨hstatus, hforward⟩ := stageInputFrameCursors_forward inputs hstaged
  rcases hstatus with rfl | hstatus
  · exact .bookkeeping (.of_core rfl rfl)
  · exact .legacyInput ⟨hstatus, rfl, rfl, hforward.forward, hforward.bounded, rfl⟩
      (by simp [fromInputSocket, hop, howned])

theorem applyPendingInputDelayIfDue_core :
    sessionCore r.applyPendingInputDelayIfDue = { sessionCore r with
        session :=
          { r.session with controller := r.applyPendingInputDelayIfDue.session.controller } }
      ∧ r.applyPendingInputDelayIfDue.players = r.players := by
  unfold applyPendingInputDelayIfDue
  split
  · exact ⟨rfl, rfl⟩
  · split
    · exact ⟨rfl, rfl⟩
    · exact ⟨rfl, rfl⟩

theorem tickPlaying_side : sideData r.tickPlaying.2 = sideData r := by
  have hdelay : sideData r.applyPendingInputDelayIfDue = sideData r := by
    unfold applyPendingInputDelayIfDue
    split
    · rfl
    · split <;> rfl
  unfold tickPlaying
  dsimp only
  split <;> exact hdelay

/-- One tick of a playing room `r₁` that a legacy room `r` has become. -/
theorem tickPlaying_tick (hstatus : r.status = .startScheduled ∨ r.status = .playing)
    (hcore : sessionCore r₁ = { sessionCore r with status := .playing })
    (hplayers : List.Forall₂ Keeps r.players r₁.players) (hvacant : VacancyKept r r₁)
    (hside : sideData r₁ = sideData r) : LegacyTick r r₁.tickPlaying.2 := by
  have hside : sideData r₁.tickPlaying.2 = sideData r := tickPlaying_side.trans hside
  revert hside
  obtain ⟨hdelay, hsame⟩ := applyPendingInputDelayIfDue_core (r := r₁)
  have hvacant : VacancyKept r r₁.applyPendingInputDelayIfDue := by
    intro hnodup
    rw [hsame]
    exact hvacant hnodup
  have hsession : r₁.session = r.session := congrArg (·.session) hcore
  have hnext : r₁.applyPendingInputDelayIfDue.nextReleaseFrame = r.nextReleaseFrame :=
    (congrArg (·.nextReleaseFrame) hdelay).trans
      (congrArg (·.nextReleaseFrame) hcore)
  rw [hcore, hsession] at hdelay
  unfold tickPlaying
  dsimp only
  split <;> intro hside
  · have hreleased : r₁.applyPendingInputDelayIfDue.releasedFrame = r.releasedFrame :=
      congrArg (·.releasedFrame) hdelay
    have hframe : r₁.applyPendingInputDelayIfDue.roomFrame = r.roomFrame :=
      congrArg (·.roomFrame) hdelay
    refine ⟨hstatus, congrArg (·.status) hdelay, ?_, hsame ▸ hplayers, hvacant, .inl hframe,
      .inl hnext, fun _ => hnext.ge, hside⟩
    rw [hreleased, hnext, hframe]
    exact hdelay
  · have hframe : r₁.applyPendingInputDelayIfDue.roomFrame = r.roomFrame :=
      congrArg (·.roomFrame) hdelay
    refine ⟨hstatus, congrArg (·.status) hdelay, ?_, hsame ▸ hplayers, hvacant,
      .inr (hframe ▸ hnext ▸ rfl), .inr satAdd_le_limit, fun hlimit => ?_, hside⟩
    · exact congrArg (fun core : SessionCore => { core with
        roomFrame := max r₁.applyPendingInputDelayIfDue.roomFrame
          r₁.applyPendingInputDelayIfDue.nextReleaseFrame
        releasedFrame := some r₁.applyPendingInputDelayIfDue.nextReleaseFrame
        nextReleaseFrame :=
          satAdd u64Max r₁.applyPendingInputDelayIfDue.nextReleaseFrame 1 }) hdelay
    · rw [← hnext] at hlimit ⊢
      exact le_satAdd hlimit

theorem releaseNextControllerFrame_effect :
    Effect relay r (.releaseNextControllerFrame now)
      (r.releaseNextServerFrame (relay.serverTimeMsAt now)).2 := by
  unfold releaseNextServerFrame
  split
  · exact .unchanged
  rename_i hstrict
  have hlegacy : r.usesStrictControllerInput = false := by simpa using hstrict
  split
  · rename_i hscheduled
    split
    · exact .unchanged
    split
    · exact .unchanged
    · refine .legacyTick hlegacy (tickPlaying_tick (.inl hscheduled) rfl ?_ ?_ rfl)
      · exact forall₂_updateWhere Keeps.refl fun _ _ _ => .enter (by simp)
      · exact .updateConnected
  · split
    · exact .unchanged
    rename_i hplaying
    rw [not_not] at hplaying
    refine .legacyTick hlegacy
      (tickPlaying_tick (.inr hplaying) ?_ (SameSession.refl r).players (.of_eq rfl) rfl)
    rw [sessionCore, hplaying]

/-! ## State hashes and state recovery -/

theorem storeStateHash_same (p : PlayerIndex) (report : StateHashReport) :
    SameSession r (r.storeStateHash p report) :=
  .of_core rfl rfl

/-- The report's verdict is that a recovery is due, whether or not another attempt is granted. -/
def isRecoveryVerdict : Except RoomError StateHashEvaluation → Bool
  | .ok (.recoveryPrepare _) => true
  | .ok (.recoveryAttemptLimitExceeded _) => true
  | _ => false

/-- The transaction that a mismatch opens. -/
def nextRecovery (r : NetplayRoom) (mismatch : StateHashMismatchView) (now : Instant) :
    StateRecoveryTransaction :=
  .preparing r.nextStateRecoveryId mismatch r.roomEpoch r.sessionEpoch now

/-- What a room makes of a state hash. -/
inductive HashOutcome (r : NetplayRoom) (report : StateHashReport) (now : Instant) :
    Outcome StateHashEvaluation → Prop
  | quiet {result} {r' : NetplayRoom} (hverdict : isRecoveryVerdict result = false)
      (h : SameSession r r') (hside : sideData r' = { sideData r with
        stateHashes := r'.stateHashes
        nextAuthoritativeStateHashFrame := r'.nextAuthoritativeStateHashFrame }) :
      HashOutcome r report now (result, r')
  /-- The legacy repair. -/
  | resynced {r₁ : NetplayRoom} {mismatch} (hr₁ : SameSession r r₁)
      (hstatus : r.status = .playing ∨ r.status = .paused)
      (hlegacy : r.usesStrictControllerInput = false) :
      HashOutcome r report now
        (.ok (.resyncRequired mismatch), r₁.enterStateHashResync report.frame)
  | prepared {r₁ : NetplayRoom} {mismatch} (hr₁ : SameSession r r₁)
      (hstatus : r.status = .playing ∨ r.status = .paused) (hstrict : r.usesStrictControllerInput)
      (hnone : r.stateRecovery = none) (hframe : mismatch.repairFrame = report.frame)
      (hattempts : (r.openStateRecovery mismatch now).stateRecoveryStartedAt.length
        < stateRecoveryMaxAttempts)
      (hside : sideData r₁ = { sideData r with stateHashes := r₁.stateHashes }) :
      HashOutcome r report now (.ok (.recoveryPrepare (nextRecovery r mismatch now).view),
        (r₁.openStateRecovery mismatch now).enterRepairingState mismatch.repairFrame now)
  | limited {r₁ : NetplayRoom} {mismatch} (hr₁ : SameSession r r₁)
      (hstatus : r.status = .playing ∨ r.status = .paused) (hstrict : r.usesStrictControllerInput)
      (hnone : r.stateRecovery = none) (hframe : mismatch.repairFrame = report.frame)
      (hattempts : stateRecoveryMaxAttempts
        ≤ (r.openStateRecovery mismatch now).stateRecoveryStartedAt.length)
      (hside : sideData r₁ = { sideData r with stateHashes := r₁.stateHashes }) :
      HashOutcome r report now
        (.ok (.recoveryAttemptLimitExceeded (nextRecovery r mismatch now).view),
          (r₁.openStateRecovery mismatch now).closeStateRecoveryRoom)

/-- A recovery is refused, closes the room, or freezes the session. -/
theorem beginV5StateRecovery_cases (mismatch : StateHashMismatchView) (now : Instant) :
    r.beginV5StateRecovery mismatch now = (.error .roomNotReady, r)
      ∨ (r.usesStrictControllerInput ∧ r.stateRecovery = none
        ∧ ((stateRecoveryMaxAttempts
              ≤ (r.openStateRecovery mismatch now).stateRecoveryStartedAt.length
            ∧ r.beginV5StateRecovery mismatch now
              = (.ok (.attemptLimitExceeded (nextRecovery r mismatch now).view),
                (r.openStateRecovery mismatch now).closeStateRecoveryRoom))
          ∨ ((r.openStateRecovery mismatch now).stateRecoveryStartedAt.length
              < stateRecoveryMaxAttempts
            ∧ r.beginV5StateRecovery mismatch now
              = (.ok (.preparing (nextRecovery r mismatch now).view),
                (r.openStateRecovery mismatch now).enterRepairingState mismatch.repairFrame
                  now)))) := by
  unfold beginV5StateRecovery
  by_cases hrefused : !r.usesStrictControllerInput || r.stateRecovery.isSome
  · rw [if_pos hrefused]
    exact .inl rfl
  rw [if_neg hrefused]
  simp only [Bool.or_eq_true, Bool.not_eq_true', not_or, Bool.not_eq_false,
    Bool.not_eq_true, Option.isSome_eq_false_iff, Option.isNone_iff_eq_none] at hrefused
  refine .inr ⟨hrefused.1, hrefused.2, ?_⟩
  dsimp only
  split
  · rename_i hlimit
    exact .inl ⟨hlimit, rfl⟩
  · rename_i hfree
    exact .inr ⟨Nat.lt_of_not_le hfree, rfl⟩

/-- A room that goes on from one in which only the hashes differ has the same side data but for the
hashes. -/
theorem noted_side (h : sideData r₁ = { sideData r with stateHashes := r₁.stateHashes })
    (hsame : sideData r' = { sideData r₁ with
      stateHashes := r'.stateHashes
      nextAuthoritativeStateHashFrame := r'.nextAuthoritativeStateHashFrame }) :
    sideData r' = { sideData r with
      stateHashes := r'.stateHashes
      nextAuthoritativeStateHashFrame := r'.nextAuthoritativeStateHashFrame } := by
  rw [hsame, h]

theorem beginAuthoritativeRecovery_outcome {mismatch : StateHashMismatchView}
    (hr₁ : SameSession r r₁) (hstatus : r.status = .playing ∨ r.status = .paused)
    (hframe : mismatch.repairFrame = report.frame)
    (hside : sideData r₁ = { sideData r with stateHashes := r₁.stateHashes }) :
    HashOutcome r report now (r₁.beginAuthoritativeRecovery mismatch now) := by
  -- what is opened depends on the session alone
  have hopened : (r₁.openStateRecovery mismatch now).stateRecoveryStartedAt
      = (r.openStateRecovery mismatch now).stateRecoveryStartedAt :=
    congrArg (fun core : SessionCore => core.stateRecoveryStartedAt.filter
      fun startedAt => now - startedAt < stateRecoveryAttemptWindow) hr₁.core
  have hnext : nextRecovery r₁ mismatch now = nextRecovery r mismatch now := by
    have hid : r₁.nextStateRecoveryId = r.nextStateRecoveryId :=
      congrArg (·.nextStateRecoveryId) hr₁.core
    rw [nextRecovery, nextRecovery, hid, hr₁.roomEpoch, hr₁.sessionEpoch]
  unfold beginAuthoritativeRecovery
  split
  · rcases beginV5StateRecovery_cases (r := r₁) mismatch now with
      h | ⟨hstrict, hnone, ⟨hlimit, h⟩ | ⟨hfree, h⟩⟩
    · rw [h]
      exact .quiet rfl hr₁ (noted_side hside rfl)
    · rw [h, hnext]
      exact .limited hr₁ hstatus (hr₁.usesStrictControllerInput ▸ hstrict)
        (hr₁.stateRecovery ▸ hnone) hframe (hopened ▸ hlimit) hside
    · rw [h, hnext]
      exact .prepared hr₁ hstatus (hr₁.usesStrictControllerInput ▸ hstrict)
        (hr₁.stateRecovery ▸ hnone) hframe (hopened ▸ hfree) hside
  · rename_i hlegacy
    rw [hframe]
    exact .resynced hr₁ hstatus (hr₁.usesStrictControllerInput ▸ by simpa using hlegacy)

theorem judgeMismatch_outcome {mismatch : StateHashMismatchView} {mode : StateDigestMode}
    (hr₁ : SameSession r r₁) (hstatus : r.status = .playing ∨ r.status = .paused)
    (hframe : mismatch.repairFrame = report.frame)
    (hside : sideData r₁ = { sideData r with stateHashes := r₁.stateHashes }) :
    HashOutcome r report now (r₁.judgeMismatch mismatch mode now) := by
  have hrecorded : SameSession r r₁.recordStateHashTrueMismatch := hr₁.trans (.of_core rfl rfl)
  unfold judgeMismatch
  dsimp only
  split
  · exact beginAuthoritativeRecovery_outcome hrecorded hstatus hframe hside
  · split
    · exact .quiet rfl hrecorded (noted_side hside rfl)
    · exact .quiet rfl hrecorded (noted_side hside rfl)

/-- A verdict on reported hashes, for a room `r₁` with the session of `r`. -/
theorem judgeStateHashes_outcome {mode : StateDigestMode} {hashes : PlayerMap Text}
    (hr₁ : SameSession r r₁) (hstatus : r.status = .playing ∨ r.status = .paused)
    (hside : sideData r₁ = { sideData r with stateHashes := r₁.stateHashes }) :
    HashOutcome r report now (r₁.judgeStateHashes report mode hashes now) := by
  have hpruned : SameSession r (r₁.pruneStateHashes report.frame) := hr₁.trans (.of_core rfl rfl)
  have hside : sideData (r₁.pruneStateHashes report.frame) = { sideData r with
      stateHashes := (r₁.pruneStateHashes report.frame).stateHashes } :=
    congrArg (fun side : SideData => { side with
      stateHashes := (r₁.pruneStateHashes report.frame).stateHashes }) hside
  unfold judgeStateHashes
  dsimp only
  split
  · exact .quiet rfl hpruned (noted_side hside rfl)
  · split
    · exact .quiet rfl (hpruned.trans (.of_core rfl rfl)) (noted_side hside rfl)
    · exact judgeMismatch_outcome hpruned hstatus rfl hside

theorem checkpointVerdict_quiet {verdict : Except RoomError StateHashEvaluation}
    (h : r.checkpointVerdict frame = some verdict) : isRecoveryVerdict verdict = false := by
  unfold checkpointVerdict at h
  split at h
  · obtain rfl := Option.some.inj h
    rfl
  split at h
  · obtain rfl := Option.some.inj h
    rfl
  split at h
  · obtain rfl := Option.some.inj h
    rfl
  · exact absurd h (by simp)

/-- **What a room makes of a state hash.** -/
theorem acceptStateHash_outcome (order : HashOrder) (c : ConnectionId) (report : StateHashReport)
    (now : Instant) : HashOutcome r report now (r.acceptStateHash order c report now) := by
  unfold acceptStateHash
  extract_lets
  split
  · exact .quiet rfl (.refl r) rfl
  rename_i haccepts
  split
  · exact .quiet rfl (.refl r) rfl
  split
  · exact .quiet rfl (.refl r) rfl
  split
  · exact .quiet rfl (.refl r) rfl
  rename_i p hp
  split
  · exact .quiet rfl (.refl r) rfl
  rename_i hscheduled
  have hstatus : r.status = .playing ∨ r.status = .paused := by
    revert haccepts hscheduled
    cases r.status <;> simp [RoomStatus.acceptsStateHashes]
  split
  · rename_i verdict hverdict
    refine .quiet ?_ (.refl r) rfl
    split at hverdict
    · exact checkpointVerdict_quiet hverdict
    · exact absurd hverdict (by simp)
  · extract_lets
    split
    · exact .quiet rfl (storeStateHash_same p report) rfl
    · exact judgeStateHashes_outcome (storeStateHash_same p report) hstatus rfl

theorem recordStateHash_effect :
    Effect relay r (.recordStateHash order c report now)
      (r.acceptStateHash order c report now).2 := by
  have houtcome := acceptStateHash_outcome (r := r) order c report now
  generalize r.acceptStateHash order c report now = outcome at houtcome ⊢
  cases houtcome with
  | quiet _ h hside => exact .bookkeeping h (.hashNoted hside)
  | resynced hr₁ hstatus hlegacy => exact .resynced hr₁ hstatus hlegacy
  | prepared hr₁ hstatus hstrict hnone hframe hattempts hside =>
    exact .recoveryPrepared hr₁ hstatus hstrict hnone hframe hattempts hside
  | limited hr₁ hstatus hstrict hnone hframe hattempts hside =>
    exact .recoveryLimited hr₁ hstatus hstrict hnone hframe hattempts hside

theorem pinStateRecovery_effect {roomEpoch sessionEpoch : Nat} {pin : StateRecoveryPin} :
    Effect relay r (.pinStateRecovery c roomEpoch sessionEpoch pin)
      (r.acceptV5StateRecoveryPinForEpoch c roomEpoch sessionEpoch pin .default).2 := by
  unfold acceptV5StateRecoveryPinForEpoch
  split
  · exact .unchanged
  rename_i hstrict
  split
  · exact .unchanged
  · exact .unchanged
  rename_i hrole
  split
  · exact .unchanged
  rename_i hmanifest
  split
  · exact .unchanged
  rename_i transaction htransaction
  split
  · exact .unchanged
  rename_i hepochs
  split
  · exact .unchanged
  rename_i hsame
  split
  · split
    · exact .unchanged
    · exact .unchanged
  · rename_i hpreparing
    split
    · exact .unchanged
    rename_i hstatus
    refine .pinned (not_not.mp hstatus) (by simpa using hstrict) ?_ htransaction
      (by simpa using hpreparing)
    simp only [not_or, not_not] at hsame
    simp_all [pinMatches]

/-! ## Snapshots and transfers -/

theorem validateHostSnapshotIdentity_mode (h : r.validateHostSnapshotIdentity c = .ok ()) :
    r.session.mode = .controllerNetplay := by
  unfold validateHostSnapshotIdentity at h
  split at h
  · exact absurd h (by simp)
  · rename_i hmode
    exact not_not.mp hmode

/-- The room is at a stage at which it takes the host's snapshot, and this is the one. -/
structure TakesSnapshot (r : NetplayRoom) (manifest : SnapshotManifest) : Prop where
  mode : r.session.mode = .controllerNetplay
  status : r.status = .syncingState ∨ r.status = .ready
  frame : manifest.repairFrame = r.syncStartFrame
  pinned : ∀ pinned, r.stateRecovery.bind (·.pinnedSnapshot) = some pinned → pinned = manifest

/-- A manifest that the room takes while no snapshot is complete. -/
theorem validateSnapshotManifestSender_open (hopen : r.hostSnapshotCompleted = false)
    (h : r.validateSnapshotManifestSender c manifest = .ok ()) : TakesSnapshot r manifest := by
  unfold validateSnapshotManifestSender validateHostSnapshotSender at h
  rw [hopen] at h
  cases hidentity : r.validateHostSnapshotIdentity c with
  | error error =>
    rw [hidentity] at h
    exact absurd h (by simp [bind, Except.bind])
  | ok _ =>
    rw [hidentity] at h
    simp only [bind, Except.bind, Bool.false_eq_true, if_false] at h
    by_cases hstatus : r.status ≠ .syncingState ∧ r.status ≠ .ready
    · rw [if_pos hstatus] at h
      exact absurd h (by simp)
    rw [if_neg hstatus] at h
    by_cases hframe : manifest.repairFrame = r.syncStartFrame
    · refine ⟨validateHostSnapshotIdentity_mode hidentity, by tauto, hframe,
        fun pinned hpinned => ?_⟩
      simp only [validateSnapshotRepairFrame, hframe, if_true,
        validateV5RecoverySnapshot, hpinned] at h
      by_contra hother
      rw [if_neg hother] at h
      exact absurd h (by simp)
    · simp only [validateSnapshotRepairFrame, if_neg hframe] at h
      exact absurd h (by simp)

theorem relaySnapshotComplete_effect {sha256 : List UInt8 → List UInt8} {limits : SnapshotLimits} :
    Effect relay r (.relaySnapshotComplete c manifest)
      (r.acceptSnapshotComplete sha256 c manifest limits).2 := by
  unfold acceptSnapshotComplete
  split
  · exact .unchanged
  rename_i hsender
  split
  · split
    · exact .unchanged
    · exact .unchanged
  · rename_i hopen
    split
    · exact .unchanged
    split
    · exact .unchanged
    · have hopen : r.hostSnapshotCompleted = false := by simpa using hopen
      have htakes := validateSnapshotManifestSender_open hopen hsender
      exact .snapshotCompleted rfl htakes.mode htakes.status hopen htakes.frame htakes.pinned

theorem relaySnapshotFileUploadComplete_effect {id : Text} {limits : SnapshotLimits} :
    Effect relay r (.relaySnapshotFileUploadComplete c id manifest)
      (r.acceptSnapshotFileRelayUploadComplete c id manifest limits).2 := by
  unfold acceptSnapshotFileRelayUploadComplete
  dsimp only
  split
  · split
    · exact .unchanged
    · split
      · exact .unchanged
      · exact .unchanged
  · rename_i hopen
    split
    · exact .unchanged
    rename_i hsender
    split
    · exact .unchanged
    split
    · exact .unchanged
    split
    · exact .unchanged
    split
    · exact .unchanged
    have hopen : r.hostSnapshotCompleted = false := by simpa using hopen
    have htakes := validateSnapshotManifestSender_open hopen hsender
    exact .snapshotCompleted rfl htakes.mode htakes.status hopen htakes.frame
      htakes.pinned

theorem grantSnapshotFileRelayUpload_effect {grants : SnapshotFileRelayGrantPair} :
    Effect relay r (.grantSnapshotFileRelayUpload c manifest grants)
      (r.acceptSnapshotFileRelayGrant c manifest grants .default).2 := by
  unfold acceptSnapshotFileRelayGrant
  split
  · exact .unchanged
  rename_i hintent
  split
  · exact .unchanged
  · exact .bookkeeping (.of_core rfl rfl)
      (.fileGranted hintent rfl)

theorem grantRomRelayUpload_effect {grants : RomRelayGrantPair} :
    Effect relay r (.grantRomRelayUpload c grants) (r.acceptRomRelayGrants c grants).2 := by
  unfold acceptRomRelayGrants
  split
  · exact .unchanged
  · rename_i hintent
    exact .bookkeeping (.of_core rfl rfl) (.romGranted hintent ⟨rfl, rfl⟩ ⟨rfl, rfl⟩ rfl)

/-- A report of completion does not change who takes part. -/
theorem acceptCompletion_same (transfer : RomRelayTransferState) (source : ConnectionId)
    (completion : RomRelayCompletion) :
    SameRomTransfer transfer (transfer.acceptCompletion source completion).2 := by
  fun_cases RomRelayTransferState.acceptCompletion transfer source completion <;>
    exact ⟨⟨rfl, rfl⟩, rfl, rfl⟩

theorem relayRomRelayCompleted_effect {completion : RomRelayCompletion} :
    Effect relay r (.relayRomRelayCompleted c completion)
      (r.acceptRomRelayCompletion c completion).2 := by
  unfold acceptRomRelayCompletion
  split
  · exact .unchanged
  rename_i transfer htransfer
  have hsame := acceptCompletion_same transfer c completion
  split
  · rename_i hresult
    rw [hresult] at hsame
    exact .bookkeeping (.of_core rfl rfl) (.romWentOn htransfer hsame rfl)
  · rename_i hresult
    rw [hresult] at hsame
    split
    · exact .bookkeeping (.of_core rfl rfl) (.romWentOn htransfer hsame rfl)
    · exact .bookkeeping (.of_core rfl rfl) (.romEnded rfl)

theorem endRomRelayTransfer_effect {id : Option Text} :
    Effect relay r op (r.endRomRelayTransfer c id).2 := by
  unfold endRomRelayTransfer
  split
  · exact .unchanged
  · exact .bookkeeping (.of_core rfl rfl) (.romEnded rfl)

/-! ## Every call -/

/-- **Every call has one of the effects.** -/
theorem applyOp_effect (relay : Relay) (r : NetplayRoom) (op : RoomOp) :
    Effect relay r op (applyOp relay r op) := by
  cases op with
  | joinGuest => exact joinGuest_effect
  | connectHost => exact connectHost_effect
  | reconnectPlayer => exact reconnectPlayer_effect
  | armRunnerHandoff => exact armRunnerHandoff_effect
  | cancelRunnerHandoff => exact cancelRunnerHandoff_effect
  | disconnect => exact .controlLost (disconnectWithRecovery_loss ..)
  | playerExited => exact playerExited_effect
  | refreshVoiceToken => exact refreshVoiceToken_effect
  | connectInputSocket => exact connectInputSocket_effect
  | disconnectInputSocket => exact disconnectInputSocket_effect
  | setCompatibility => exact setCompatibility_effect
  | setLinkCableCompatibility => exact setLinkCableCompatibility_effect
  | markReady => exact markReady_effect
  | recordClockSyncSample => exact recordClockSyncSample_effect
  | markDeterministicReady => exact markDeterministicReady_effect
  | relaySnapshotChunk => exact relaySnapshotChunk_effect
  | relaySnapshotComplete => exact relaySnapshotComplete_effect
  | grantSnapshotFileRelayUpload => exact grantSnapshotFileRelayUpload_effect
  | relaySnapshotFileUploadComplete => exact relaySnapshotFileUploadComplete_effect
  | grantRomRelayUpload => exact grantRomRelayUpload_effect
  | relayRomRelayProgress => exact .unchanged
  | relayRomRelayCompleted => exact relayRomRelayCompleted_effect
  | relayRomRelayFailed | relayRomRelayCancelled => exact endRomRelayTransfer_effect
  | relayInputFrame c input => exact acceptInputFrameCursors_effect [input] rfl
  | relayInputFrameBatch c roomEpoch sessionEpoch inputs =>
    rw [applyOp, relayInputFrameBatch]
    split
    · exact .unchanged
    · split
      · exact .unchanged
      · exact acceptInputFrameCursors_effect inputs rfl
  | relayFastInputBatch c inputs =>
    rw [applyOp, relayFastInputBatch]
    split
    · exact .unchanged
    · split
      · exact .unchanged
      · exact acceptInputFrameCursors_effect _ rfl
  | relayStrictInputBatch | relayHostFrameOpen | releaseScheduledV5HostFrame
  | requestSessionPause => exact (lane_effect relay r rfl).effect
  | relayLinkCablePacket => exact relayLinkCablePacket_effect
  | recordStateHash => exact recordStateHash_effect
  | pinStateRecovery => exact pinStateRecovery_effect
  | recordHeartbeat => exact recordHeartbeat_effect
  | markSessionPauseReached => exact markSessionPauseReached_effect
  | requestSessionResume => exact requestSessionResume_effect
  | releaseNextControllerFrame => exact releaseNextControllerFrame_effect
  | sweep => exact sweep_effect

end NetplayRelay.Proof
