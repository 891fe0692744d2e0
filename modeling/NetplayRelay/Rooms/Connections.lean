import NetplayRelay.Rooms.Room

/-!
# Joining, leaving and coming back

Everything that attaches a socket to a slot or takes one away: joins, host attachment,
disconnects with and without recovery, reconnects, heartbeats and their timeouts, the runner
handoff that keeps a seat warm while a client swaps processes, and the binary input socket.
-/

namespace NetplayRelay.Rooms

open Lib Protocol

/-! ## Slot edits -/

namespace PlayerSlot

/-- Both sockets of the slot are gone and its pending input token is void. -/
def dropTransport (self : PlayerSlot) (now : Instant) : PlayerSlot :=
  { self with
    connectionId := none
    inputConnectionId := none
    inputSocketTokenHash := none
    inputSocketControlConnectionId := none
    lastSeenAt := some now }

/-- The host's new control socket. -/
def attachHost (self : PlayerSlot) (connectionId : ConnectionId)
    (resumeTokenHash inputSocketTokenHash : ResumeTokenHash) (now : Instant)
    (capabilities : ClientTransportCapabilities) : PlayerSlot :=
  { (self.withCapabilities capabilities).clearReports with
    connectionId := some connectionId
    inputConnectionId := none
    status := .connected
    runtimeState := .connected
    resumeTokenHash := some resumeTokenHash
    inputSocketTokenHash := some inputSocketTokenHash
    inputSocketControlConnectionId := some connectionId
    reconnectDeadline := none
    reconnectRoomEpoch := none
    runnerHandoffDeadline := none
    lastSeenAt := some now }

/-- The player is gone for good. -/
def exit (self : PlayerSlot) (now : Instant) : PlayerSlot :=
  { (self.dropTransport now).clearReports with
    reconnectDeadline := none
    reconnectRoomEpoch := none
    runnerHandoffDeadline := none
    status := .disconnected
    runtimeState := .disconnected }

/-- The control socket closed while a runner handoff was armed: the seat is kept without a
reconnect deadline. -/
def preserveHandoff (self : PlayerSlot) (now : Instant) (roomEpoch : Nat) : PlayerSlot :=
  { (self.dropTransport now).clearReports with
    status := .reconnecting
    runtimeState := .reconnecting
    reconnectDeadline := none
    reconnectRoomEpoch := some roomEpoch }

/-- The player is waited for. -/
def markReconnecting (self : PlayerSlot) (now : Instant) (reconnectGrace : Duration)
    (reconnectRoomEpoch : Nat) : PlayerSlot :=
  { self with
    status := .reconnecting
    runtimeState := .reconnecting
    reconnectDeadline := some (now + reconnectGrace)
    reconnectRoomEpoch := some reconnectRoomEpoch
    runnerHandoffDeadline := none }

/-- A host slot keeps its owner, a guest slot becomes free. -/
def clearDisconnected (self : PlayerSlot) (isHost : Bool) : PlayerSlot :=
  let cleared := { self.clearReports with
    reconnectDeadline := none
    reconnectRoomEpoch := none
    runnerHandoffDeadline := none
    inputConnectionId := none
    inputSocketTokenHash := none
    inputSocketControlConnectionId := none
    runtimeState := .disconnected }
  if isHost then { cleared with status := .disconnected }
  else { cleared with
    subjectKey := none
    resumeTokenHash := none
    inputSocketTokenHash := none
    status := .empty }

/-- A connected player waits for the compatibility check; an armed handoff keeps its epoch. -/
def backToChecking (self : PlayerSlot) : PlayerSlot :=
  { self with
    status := .connected
    runtimeState := .connected
    reconnectRoomEpoch :=
      if self.runnerHandoffDeadline.isNone then none else self.reconnectRoomEpoch }

/-- A connected player waits for its peer; it may itself still present the given epoch. -/
def awaitRecovery (self : PlayerSlot) (reconnectRoomEpoch : Nat) : PlayerSlot :=
  { self with
    status := .connected
    runtimeState := .connected
    reconnectRoomEpoch := some (self.reconnectRoomEpoch.getD reconnectRoomEpoch) }

/-- A connected slot whose last sign of life is at least `age` old. -/
def silentFor (self : PlayerSlot) (now : Instant) (age : Duration) : Bool :=
  self.isConnected && self.lastSeenAt.any fun lastSeen => now - lastSeen ≥ age

/-- A slot that has been silent for a while, but not long enough to be dropped. -/
def turnsStale (self : PlayerSlot) (now : Instant)
    (heartbeatStale heartbeatDisconnect : Duration) : Bool :=
  self.isConnected && self.lastSeenAt.any (fun lastSeen =>
    now - lastSeen ≥ heartbeatStale && now - lastSeen < heartbeatDisconnect)
    && self.runtimeState ≠ .stale

end PlayerSlot

/-- A player comes back. -/
structure PlayerReconnectRequest where
  playerIndex : PlayerIndex
  resumeTokenHash : ResumeTokenHash
  nextResumeTokenHash : ResumeTokenHash
  inputSocketTokenHash : ResumeTokenHash
  roomEpoch : Nat
  connectionId : ConnectionId
  now : Instant
  capabilities : ClientTransportCapabilities

/-- The player is back. -/
def PlayerSlot.reconnect (self : PlayerSlot) (request : PlayerReconnectRequest) : PlayerSlot :=
  { (self.withCapabilities request.capabilities).clearReports with
    connectionId := some request.connectionId
    inputConnectionId := none
    status := .connected
    runtimeState := .reconnecting
    resumeTokenHash := some request.nextResumeTokenHash
    inputSocketTokenHash := some request.inputSocketTokenHash
    inputSocketControlConnectionId := some request.connectionId
    lastSeenAt := some request.now
    reconnectDeadline := none
    reconnectRoomEpoch := none
    runnerHandoffDeadline := none }

/-- Statuses in which a lost control socket starts recovery. -/
def RoomStatus.isRecoverable : RoomStatus → Bool
  | .startScheduled | .playing | .paused | .repairingState | .recovering => true
  | _ => false

/-- Statuses in which a lost input socket starts recovery. -/
def RoomStatus.inputLossIsRecoverable : RoomStatus → Bool
  | .startScheduled | .playing | .paused | .recovering => true
  | _ => false

/-- Statuses in which heartbeat ages are watched. -/
def RoomStatus.watchesHeartbeats : RoomStatus → Bool
  | .startScheduled | .playing | .paused | .repairingState => true
  | _ => false

/-- Statuses in which a runner handoff can no longer be armed. -/
def RoomStatus.refusesHandoff : RoomStatus → Bool
  | .closed | .startScheduled | .playing | .paused | .recovering => true
  | _ => false

namespace NetplayRoom

variable (r : NetplayRoom)

/-! ## Transitions shared by several operations -/

/-- Back to the compatibility check, on the current epochs. -/
@[simps]
def restoreCheckingCompatibilityAfterRecovery : NetplayRoom :=
  { r.resetSyncState with
    status := .checkingCompatibility
    players := updateWhere (fun slot => !slot.isEmpty && slot.isConnected) (·.backToChecking)
      r.resetSyncState.players }

/-- A new session, on new epochs. -/
def resetSyncForCheckingCompatibility : NetplayRoom :=
  r.bumpRoomEpoch.bumpSessionEpoch.restoreCheckingCompatibilityAfterRecovery

/-- Recovery starts: everything is forgotten and both epochs move on. -/
@[simps]
def enterRecoveryState (reconnectRoomEpoch : Nat) : NetplayRoom :=
  { r.resetSyncState.bumpRoomEpoch.bumpSessionEpoch with
    status := .recovering
    players := updateWhere (·.isConnected) (·.awaitRecovery reconnectRoomEpoch)
      r.resetSyncState.players }

/-- The player of a seat is waited for. -/
def markSlotReconnecting (playerIndex : PlayerIndex) (now : Instant) (reconnectGrace : Duration)
    (reconnectRoomEpoch : Nat) : NetplayRoom :=
  r.updateSlot (fun slot => slot.playerIndex = playerIndex)
    (·.markReconnecting now reconnectGrace reconnectRoomEpoch)

/-- A seat is given up. Losing the host's seat closes the room. -/
@[simps]
def clearDisconnectedSlot (playerIndex : PlayerIndex) (isHost : Bool) : NetplayRoom :=
  let cleared := (r.updateSlot (fun slot => slot.playerIndex = playerIndex)
    (·.clearDisconnected isHost)).resetSyncState
  { cleared with status := if isHost then .closed else cleared.status }

/-! ## Joining and attaching -/

/-- A guest takes the free seat. -/
def joinGuestWithResume (identityKey : Text) (connectionId : ConnectionId)
    (resumeTokenHash inputSocketTokenHash : ResumeTokenHash) (now : Instant)
    (capabilities : ClientTransportCapabilities) : Outcome PlayerIndex :=
  if r.status = .closed then (.error .roomClosed, r)
  else match r.players.find? (·.isEmpty) with
    | none => (.error .roomFull, r)
    | some slot =>
      let occupied := r.updateSlot (·.isEmpty) (·.occupyGuest identityKey connectionId
        resumeTokenHash inputSocketTokenHash now capabilities)
      (.ok slot.playerIndex, occupied.resetSyncForCheckingCompatibility)

/-- The host comes back through its invite. Nothing of the session is reset: only the host's
readiness is withdrawn. -/
def attachHostWithResume (identityKey : Text) (connectionId : ConnectionId)
    (resumeTokenHash inputSocketTokenHash : ResumeTokenHash) (now : Instant)
    (capabilities : ClientTransportCapabilities) : Outcome PlayerIndex :=
  if r.status = .closed then (.error .roomClosed, r)
  else match r.players.find? (·.role = .host) with
    | none => (.error .unknownConnection, r)
    | some slot =>
      if slot.subjectKey ≠ some identityKey then (.error .hostSubjectMismatch, r)
      else
        let attached := r.updateSlot (·.role = .host) (·.attachHost connectionId resumeTokenHash
          inputSocketTokenHash now capabilities)
        (.ok slot.playerIndex,
          { attached with readyPlayers := r.readyPlayers.erase slot.playerIndex })

/-! ## Leaving -/

/-- A player leaves, and the room closes. -/
def playerExited (connectionId : ConnectionId) (now : Instant) : Outcome PlayerIndex :=
  match r.playerIndexForConnection connectionId with
  | none => (.error .unknownConnection, r)
  | some playerIndex =>
    (.ok playerIndex,
      ({ r with status := .closed }.resetSyncState).updateOccupied (·.exit now))

/-- A control socket that closes under an armed and unexpired runner handoff keeps its seat:
the sync data goes, the status and the epochs stay. An expired marker is dropped on the way. -/
def preserveRunnerHandoffDisconnect (connectionId : ConnectionId) (now : Instant) : Outcome Bool :=
  match r.slotForConnection connectionId with
  | none => (.error .unknownConnection, r)
  | some slot =>
    match slot.runnerHandoffDeadline with
    | none => (.ok false, r)
    | some deadline =>
      if now ≥ deadline then
        (.ok false, r.updateSlot (·.connectionId = some connectionId)
          fun slot => { slot with runnerHandoffDeadline := none })
      else
        (.ok true, ((r.updateSlot (·.connectionId = some connectionId)
          (·.preserveHandoff now r.roomEpoch)).removePlayerSync slot.playerIndex).resetSyncState)

/-- A control socket closed. The result says whether the room is to be removed. -/
def disconnectWithRecovery (connectionId : ConnectionId) (now : Instant)
    (reconnectGrace : Duration) : Outcome Bool :=
  match r.preserveRunnerHandoffDisconnect connectionId now with
  | (.error error, r) => (.error error, r)
  | (.ok true, r) => (.ok false, r)
  | (.ok false, r) =>
    match r.slotForConnection connectionId with
    | none => (.error .unknownConnection, r)
    | some slot =>
      let isHost := slot.role = .host
      let alreadyRecovering := r.status = .recovering
      let reconnectRoomEpoch := slot.reconnectRoomEpoch.getD
        (if alreadyRecovering then r.roomEpoch - 1 else r.roomEpoch)
      let dropped := (r.updateSlot (·.connectionId = some connectionId)
        (·.dropTransport now)).removePlayerSync slot.playerIndex
      if r.status.isRecoverable then
        let marked := dropped.markSlotReconnecting slot.playerIndex now reconnectGrace
          reconnectRoomEpoch
        (.ok false,
          if alreadyRecovering then marked else marked.enterRecoveryState reconnectRoomEpoch)
      else
        let cleared := dropped.clearDisconnectedSlot slot.playerIndex isHost
        if isHost then (.ok true, cleared)
        else (.ok false, { cleared with status := .waitingForGuest })

/-! ## Coming back -/

/-- A player takes its seat again. -/
def reconnectPlayer (request : PlayerReconnectRequest) : Outcome Unit :=
  if r.status = .closed then (.error .roomClosed, r)
  else match r.slotForPlayer request.playerIndex with
    | none => (.error .unknownConnection, r)
    | some slot =>
      let edit (f : PlayerSlot → PlayerSlot) := r.updateSlot (·.playerIndex = request.playerIndex) f
      let runnerHandoff := slot.runnerHandoffDeadline.isSome
      let acceptedEpoch := slot.reconnectRoomEpoch.getD r.roomEpoch
      if slot.resumeTokenHash ≠ some request.resumeTokenHash then (.error .resumeTokenInvalid, r)
      else if !runnerHandoff && (slot.isConnected || slot.reconnectDeadline.isNone) then
        (.error .resumeTokenInvalid, r)
      else if request.roomEpoch ≠ acceptedEpoch ∧ request.roomEpoch ≠ r.roomEpoch then
        (.error .staleRoomEpoch, r)
      else if slot.reconnectDeadline.any (request.now ≥ ·)
          || slot.runnerHandoffDeadline.any (request.now ≥ ·) then
        (.error .recoveryExpired, edit (·.enter .recoveryExpired .recoveryExpired))
      else
        let reconnected := edit (·.reconnect request)
        (.ok (), if runnerHandoff then reconnected
          else reconnected.restoreCheckingCompatibilityAfterRecovery)

/-! ## Heartbeats -/

/-- A player is heard of. -/
def recordHeartbeat (connectionId : ConnectionId) (now : Instant) (localFrame : Option Nat)
    (network : Option ClientNetworkQualityReport) (runtimeState : ClientRuntimeState) :
    Outcome Unit :=
  match r.playerIndexForConnection connectionId with
  | none => (.error .unknownConnection, r)
  | some playerIndex =>
    (.ok (), r.updateSlot (·.playerIndex = playerIndex) fun slot =>
      { slot.recordReports localFrame network now with
        lastSeenAt := some now
        runtimeState := .ofClient runtimeState })

/-- One stale player loses its sockets and gets a reconnect deadline. -/
def dropStalePlayer (now : Instant) (reconnectGrace : Duration) (r : NetplayRoom)
    (playerIndex : PlayerIndex) : NetplayRoom :=
  (r.removePlayerSync playerIndex).updateSlot (·.playerIndex = playerIndex) fun slot =>
    (slot.dropTransport now).markReconnecting now reconnectGrace r.roomEpoch

/-- Who was silent too long is waited for. -/
def recoverStaleConnections (now : Instant) (heartbeatDisconnect reconnectGrace : Duration) :
    Bool × NetplayRoom :=
  if !r.status.watchesHeartbeats then (false, r)
  else
    let stalePlayers :=
      (r.players.filter (·.silentFor now heartbeatDisconnect)).map (·.playerIndex)
    if stalePlayers.isEmpty then (false, r)
    else
      let dropped := stalePlayers.foldl (dropStalePlayer now reconnectGrace) r
      (true, dropped.enterRecoveryState dropped.roomEpoch)

/-- Who was silent for a while is marked. -/
def markStaleConnections (now : Instant) (heartbeatStale heartbeatDisconnect : Duration) :
    Bool × NetplayRoom :=
  if !r.status.watchesHeartbeats then (false, r)
  else
    let stale := fun slot : PlayerSlot => slot.turnsStale now heartbeatStale heartbeatDisconnect
    (r.players.any stale, { r with
      players := updateWhere stale (fun slot => { slot with runtimeState := .stale }) r.players })

/-- Somebody was waited for too long. -/
def isRecoveryExpired (now : Instant) : Bool :=
  r.status = .recovering && r.players.any fun slot => slot.reconnectDeadline.any (now ≥ ·)

/-- Nobody was seen for too long. -/
def isIdleDisconnected (now : Instant) (idleTimeout : Duration) : Bool :=
  let occupied := r.players.filter (!·.isEmpty)
  !occupied.isEmpty
    && (occupied.filterMap (·.lastSeenAt)).all (fun lastSeen => now - lastSeen ≥ idleTimeout)
    && r.players.all (!·.isConnected)

/-! ## Runner handoff -/

/-- A player is about to change processes. -/
def armRunnerHandoff (connectionId : ConnectionId) (now : Instant) (grace : Duration) :
    Outcome Unit :=
  if r.status.refusesHandoff then (.error .roomNotReady, r)
  else if (r.slotForConnection connectionId).isNone then (.error .unknownConnection, r)
  else (.ok (), r.updateSlot (·.connectionId = some connectionId) fun slot =>
    { slot with
      runnerHandoffDeadline := some (now + grace)
      reconnectRoomEpoch := some r.roomEpoch })

/-- The player stays after all. -/
def cancelRunnerHandoff (connectionId : ConnectionId) : Outcome Unit :=
  if (r.slotForConnection connectionId).isNone then (.error .unknownConnection, r)
  else (.ok (), r.updateSlot (·.connectionId = some connectionId) fun slot =>
    { slot with runnerHandoffDeadline := none, reconnectRoomEpoch := none })

/-- Work through the expired handoffs collected at the start. A disconnected host ends the loop
at once; a cleared guest sends the room back to waiting when the loop is done. -/
def expireRunnerHandoffsLoop : NetplayRoom → Bool → List PlayerSlot → Option Bool × NetplayRoom
  | r, guestCleared, [] =>
    if guestCleared then (some false, { r with status := .waitingForGuest }) else (none, r)
  | r, guestCleared, expired :: rest =>
    if expired.isConnected then
      expireRunnerHandoffsLoop (r.updateSlot (·.playerIndex = expired.playerIndex)
        fun slot => { slot with runnerHandoffDeadline := none }) guestCleared rest
    else
      let cleared := r.clearDisconnectedSlot expired.playerIndex (expired.role = .host)
      if expired.role = .host then (some true, cleared)
      else expireRunnerHandoffsLoop cleared true rest

/-- The handoff was not used in time. -/
def handoffExpired (now : Instant) (slot : PlayerSlot) : Bool :=
  slot.runnerHandoffDeadline.any (now ≥ ·)

/-- Seats whose handoff ran out are cleared. -/
def expireRunnerHandoffs (now : Instant) : Option Bool × NetplayRoom :=
  expireRunnerHandoffsLoop r false (r.players.filter (handoffExpired now))

/-! ## Input sockets -/

/-- A player's input socket. -/
def attachInputSocket (playerIndex : PlayerIndex) (roomEpoch sessionEpoch : Nat)
    (inputSocketTokenHash : ResumeTokenHash) (inputConnectionId : ConnectionId) (now : Instant) :
    Outcome Unit :=
  if r.status = .closed then (.error .roomClosed, r)
  else if r.roomEpoch ≠ roomEpoch then (.error .staleRoomEpoch, r)
  else if r.sessionEpoch ≠ sessionEpoch then (.error .staleSessionEpoch, r)
  else match r.slotForPlayer playerIndex with
    | none => (.error .unknownConnection, r)
    | some slot =>
      if slot.inputSocketTokenHash ≠ some inputSocketTokenHash then (.error .resumeTokenInvalid, r)
      else match slot.connectionId with
        | none => (.error .resumeTokenInvalid, r)
        | some controlConnectionId =>
          if slot.inputSocketControlConnectionId ≠ some controlConnectionId
              ∨ slot.inputConnectionId.isSome then (.error .resumeTokenInvalid, r)
          else (.ok (), r.updateSlot (·.playerIndex = playerIndex) fun slot =>
            { slot with
              inputSocketTokenHash := none
              inputSocketControlConnectionId := none
              inputConnectionId := some inputConnectionId
              lastSeenAt := some now })

/-- An input socket is gone, with its player's input cursors. -/
@[simps]
def detachInputSocket (inputConnectionId : ConnectionId) (playerIndex : PlayerIndex)
    (now : Instant) : NetplayRoom :=
  { r.updateSlot (·.inputConnectionId = some inputConnectionId) fun slot =>
      { slot with
        inputConnectionId := none
        inputSocketTokenHash := none
        inputSocketControlConnectionId := none
        lastSeenAt := some now } with
    lastInputFrames := r.lastInputFrames.erase playerIndex
    nextInputFrames := r.nextInputFrames.erase playerIndex }

/-- An input socket closed. The result says whether recovery was asked for. -/
def disconnectInputSocket (inputConnectionId : ConnectionId) (now : Instant)
    (reconnectGrace : Duration) : Outcome Bool :=
  match r.slotForInputConnection inputConnectionId with
  | none => (.error .unknownConnection, r)
  | some slot =>
    let forgotten := r.detachInputSocket inputConnectionId slot.playerIndex now
    if r.status.inputLossIsRecoverable then
      match slot.connectionId with
      | none => (.error .unknownConnection, forgotten)
      | some controlConnectionId =>
        match forgotten.disconnectWithRecovery controlConnectionId now reconnectGrace with
        | (.error error, r) => (.error error, r)
        | (.ok _, r) => (.ok true, r)
    else (.ok false, forgotten)

end NetplayRoom

end NetplayRelay.Rooms
