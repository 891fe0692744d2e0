import NetplayRelay.Lib.Run
import NetplayRelay.Registry.InputLane
import NetplayRelay.Rooms.Connections
import NetplayRelay.Rooms.Transfers

/-!
# Stored rooms

The registry keeps each room behind one lock: every call takes the lock, reads the clock, runs
one room operation and publishes what follows from it. A call is a `RoomOp`; what it does to the
room is `applyOp`, and `StoredRoom.step` adds the calls after which the registry drops the room.

A history of a room is a run of calls in any order (`Reachable`). The environment only promises
what the transport guarantees: a socket that is being attached has an identifier the room does
not know yet, frame numbers fit their type, and a decoded input batch is not empty.
-/

namespace NetplayRelay.Registry

open Lib Protocol Rooms

/-- How long a room waits. -/
structure RoomRecoveryConfig where
  runnerHandoffGrace : Duration
  reconnectGrace : Duration
  heartbeatStale : Duration
  heartbeatDisconnect : Duration
  roomIdle : Duration

/-- The source's defaults. -/
def RoomRecoveryConfig.default : RoomRecoveryConfig where
  runnerHandoffGrace := secs 60
  reconnectGrace := secs 90
  heartbeatStale := secs 15
  heartbeatDisconnect := secs 30
  roomIdle := secs 300

/-- What a registry is built with: its timeouts, the origin of its server time, and the digest
function of the crate it links. -/
structure Relay where
  recovery : RoomRecoveryConfig
  joinTimeout : Duration
  timeOrigin : Instant
  sha256 : List UInt8 → List UInt8

/-- Milliseconds since the registry was created. -/
def Relay.serverTimeMsAt (relay : Relay) (now : Instant) : Nat :=
  min ((now - relay.timeOrigin) / 1000000) u64Max

/-- One call of the registry on a room, with the clock reading it takes. -/
inductive RoomOp
  | joinGuest (identityKey : Text) (connectionId : ConnectionId)
      (resumeTokenHash inputSocketTokenHash : ResumeTokenHash) (now : Instant)
      (capabilities : ClientTransportCapabilities)
  | connectHost (identityKey : Text) (connectionId : ConnectionId)
      (resumeTokenHash inputSocketTokenHash : ResumeTokenHash) (now : Instant)
      (capabilities : ClientTransportCapabilities)
  | reconnectPlayer (request : PlayerReconnectRequest)
  | armRunnerHandoff (connectionId : ConnectionId) (now : Instant)
  | cancelRunnerHandoff (connectionId : ConnectionId)
  | disconnect (connectionId : ConnectionId) (now : Instant)
  | playerExited (connectionId : ConnectionId) (now : Instant)
  | refreshVoiceToken (connectionId : ConnectionId) (participantIdentity token expiresAt : Text)
  | connectInputSocket (playerIndex : PlayerIndex) (roomEpoch sessionEpoch : Nat)
      (inputSocketTokenHash : ResumeTokenHash) (connectionId : ConnectionId) (now : Instant)
  | disconnectInputSocket (connectionId : ConnectionId) (now : Instant)
  | setCompatibility (order : HashOrder) (connectionId : ConnectionId)
      (fingerprint : CompatibilityFingerprint)
  | setLinkCableCompatibility (order : HashOrder) (connectionId : ConnectionId)
      (compatibility : LinkCableCompatibility)
  | markReady (connectionId : ConnectionId) (network : Option ClientNetworkQualityReport)
      (now : Instant)
  | recordClockSyncSample (order : HashOrder) (connectionId : ConnectionId)
      (sample : ClockSyncSample) (now : Instant)
  | markDeterministicReady (order : HashOrder) (connectionId : ConnectionId)
      (network : Option ClientNetworkQualityReport) (now : Instant)
  | relaySnapshotChunk (connectionId : ConnectionId) (chunk : SnapshotChunk)
  | relaySnapshotComplete (connectionId : ConnectionId) (manifest : SnapshotManifest)
  | grantSnapshotFileRelayUpload (connectionId : ConnectionId) (manifest : SnapshotManifest)
      (grants : SnapshotFileRelayGrantPair)
  | relaySnapshotFileUploadComplete (connectionId : ConnectionId) (transferId : Text)
      (manifest : SnapshotManifest)
  | grantRomRelayUpload (connectionId : ConnectionId) (grants : RomRelayGrantPair)
  | relayRomRelayProgress (connectionId : ConnectionId) (progress : RomRelayProgress)
  | relayRomRelayCompleted (connectionId : ConnectionId) (completion : RomRelayCompletion)
  | relayRomRelayFailed (connectionId : ConnectionId) (transferId : Option Text)
  | relayRomRelayCancelled (connectionId : ConnectionId) (transferId : Option Text)
  | relayInputFrame (connectionId : ConnectionId) (input : InputCursor)
  | relayInputFrameBatch (connectionId : ConnectionId) (roomEpoch sessionEpoch : Nat)
      (inputs : List InputCursor)
  | relayFastInputBatch (connectionId : ConnectionId) (inputs : List (Nat × Nat × InputCursor))
  | relayStrictInputBatch (connectionId : ConnectionId) (batch : StrictInputBatch)
  | relayHostFrameOpen (connectionId : ConnectionId) (frameOpen : HostFrameOpen) (now : Instant)
  | releaseScheduledV5HostFrame (roomEpoch sessionEpoch frame : Nat) (now : Instant)
  | relayLinkCablePacket (connectionId : ConnectionId) (packet : LinkCablePacket)
  | recordStateHash (order : HashOrder) (connectionId : ConnectionId) (report : StateHashReport)
      (now : Instant)
  | pinStateRecovery (connectionId : ConnectionId) (roomEpoch sessionEpoch : Nat)
      (pin : StateRecoveryPin)
  | recordHeartbeat (connectionId : ConnectionId) (localFrame : Option Nat)
      (network : Option ClientNetworkQualityReport) (runtimeState : ClientRuntimeState)
      (now : Instant)
  | requestSessionPause (connectionId : ConnectionId) (requestId : Text)
      (reason : SessionPauseReason) (localFrame : Nat)
  | markSessionPauseReached (connectionId : ConnectionId) (sequence pausedAtFrame : Nat)
      (now : Instant)
  | requestSessionResume (connectionId : ConnectionId) (requestId : Text) (sequence : Nat)
      (now : Instant)
  | releaseNextControllerFrame (now : Instant)
  | sweep (now : Instant)

/-! ## What a call does to the room -/

section Calls

variable (relay : Relay) (r : NetplayRoom)

/-- A player is ready. As long as the session has not started, the clients' clocks are sampled
once everybody is. -/
def markReady (connectionId : ConnectionId) (network : Option ClientNetworkQualityReport)
    (now : Instant) : Outcome Bool :=
  match r.markReady connectionId network now with
  | (.ok false, r) =>
    if r.shouldRequestClockSyncSample then
      (.ok false, (r.requestClockSyncSample (relay.serverTimeMsAt now)).2)
    else (.ok false, r)
  | started => started

/-- A batch with one pair of epochs. -/
def relayInputFrameBatch (connectionId : ConnectionId) (roomEpoch sessionEpoch : Nat)
    (inputs : List InputCursor) : Outcome (List InputFrameAcceptance) :=
  if r.roomEpoch ≠ roomEpoch then (.error .staleRoomEpoch, r)
  else if r.sessionEpoch ≠ sessionEpoch then (.error .staleSessionEpoch, r)
  else r.acceptInputFrameCursors connectionId inputs

/-- Fast records carry their epochs one by one. -/
def relayFastInputBatch (connectionId : ConnectionId) (inputs : List (Nat × Nat × InputCursor)) :
    Outcome (List InputFrameAcceptance) :=
  if !r.connectedPlayersSupportFastInputRelay then (.error .roomNotReady, r)
  else match inputs.findSome? fun (roomEpoch, sessionEpoch, _) =>
      if roomEpoch ≠ r.roomEpoch then some RoomError.staleRoomEpoch
      else if sessionEpoch ≠ r.sessionEpoch then some .staleSessionEpoch
      else none with
    | some error => (.error error, r)
    | none => r.acceptInputFrameCursors connectionId (inputs.map (·.2.2))

/-- An exit ends the voice room. -/
def playerExited (connectionId : ConnectionId) (now : Instant) : Outcome PlayerIndex :=
  match r.playerExited connectionId now with
  | (.error error, r) => (.error error, r)
  | (.ok playerIndex, r) => (.ok playerIndex, r.takeVoiceRoomIdForCleanup)

/-- The periodic sweep over one room. A state recovery whose pin is overdue ends it; otherwise
expired handoffs are cleared before the heartbeats are looked at. -/
def sweepRoom (now : Instant) : NetplayRoom :=
  match r.closeExpiredStateRecovery now with
  | (true, r) => r
  | (false, r) =>
    let r := (r.expireRunnerHandoffs now).2
    let r := (r.markStaleConnections now relay.recovery.heartbeatStale
      relay.recovery.heartbeatDisconnect).2
    (r.recoverStaleConnections now relay.recovery.heartbeatDisconnect
      relay.recovery.reconnectGrace).2

/-- The room after a call. -/
def applyOp : RoomOp → NetplayRoom
  | .joinGuest identityKey connectionId resumeTokenHash inputSocketTokenHash now capabilities =>
    (r.joinGuestWithResume identityKey connectionId resumeTokenHash inputSocketTokenHash now
      capabilities).2
  | .connectHost identityKey connectionId resumeTokenHash inputSocketTokenHash now capabilities =>
    (r.attachHostWithResume identityKey connectionId resumeTokenHash inputSocketTokenHash now
      capabilities).2
  | .reconnectPlayer request => (r.reconnectPlayer request).2
  | .armRunnerHandoff connectionId now =>
    (r.armRunnerHandoff connectionId now relay.recovery.runnerHandoffGrace).2
  | .cancelRunnerHandoff connectionId => (r.cancelRunnerHandoff connectionId).2
  | .disconnect connectionId now =>
    (r.disconnectWithRecovery connectionId now relay.recovery.reconnectGrace).2
  | .playerExited connectionId now => (playerExited r connectionId now).2
  | .refreshVoiceToken connectionId participantIdentity token expiresAt =>
    (r.refreshVoiceGrant connectionId participantIdentity token expiresAt).2
  | .connectInputSocket playerIndex roomEpoch sessionEpoch inputSocketTokenHash connectionId now =>
    (r.attachInputSocket playerIndex roomEpoch sessionEpoch inputSocketTokenHash connectionId now).2
  | .disconnectInputSocket connectionId now =>
    (r.disconnectInputSocket connectionId now relay.recovery.reconnectGrace).2
  | .setCompatibility order connectionId fingerprint =>
    (r.setCompatibilityForConnection order connectionId fingerprint).2
  | .setLinkCableCompatibility order connectionId compatibility =>
    (r.setLinkCableCompatibilityForConnection order connectionId compatibility).2
  | .markReady connectionId network now => (markReady relay r connectionId network now).2
  | .recordClockSyncSample order connectionId sample now =>
    (r.acceptClockSyncSample order connectionId sample now (relay.serverTimeMsAt now)).2
  | .markDeterministicReady order connectionId network now =>
    (r.markDeterministicReady order connectionId network now (relay.serverTimeMsAt now)).2
  | .relaySnapshotChunk connectionId chunk =>
    (r.acceptSnapshotChunk relay.sha256 connectionId chunk .default).2
  | .relaySnapshotComplete connectionId manifest =>
    (r.acceptSnapshotComplete relay.sha256 connectionId manifest .default).2
  | .grantSnapshotFileRelayUpload connectionId manifest grants =>
    (r.acceptSnapshotFileRelayGrant connectionId manifest grants .default).2
  | .relaySnapshotFileUploadComplete connectionId transferId manifest =>
    (r.acceptSnapshotFileRelayUploadComplete connectionId transferId manifest .default).2
  | .grantRomRelayUpload connectionId grants => (r.acceptRomRelayGrants connectionId grants).2
  -- progress is checked and passed on, the room does not record it
  | .relayRomRelayProgress _ _ => r
  | .relayRomRelayCompleted connectionId completion =>
    (r.acceptRomRelayCompletion connectionId completion).2
  | .relayRomRelayFailed connectionId transferId =>
    (r.acceptRomRelayFailure connectionId transferId).2
  | .relayRomRelayCancelled connectionId transferId =>
    (r.acceptRomRelayCancelled connectionId transferId).2
  | .relayInputFrame connectionId input => (r.acceptInputFrameCursors connectionId [input]).2
  | .relayInputFrameBatch connectionId roomEpoch sessionEpoch inputs =>
    (relayInputFrameBatch r connectionId roomEpoch sessionEpoch inputs).2
  | .relayFastInputBatch connectionId inputs => (relayFastInputBatch r connectionId inputs).2
  | .relayStrictInputBatch connectionId batch => (relayStrictInputBatch r connectionId batch).room
  | .relayHostFrameOpen connectionId frameOpen now =>
    (relayHostFrameOpen r connectionId frameOpen (relay.serverTimeMsAt now)).room
  | .releaseScheduledV5HostFrame roomEpoch sessionEpoch frame now =>
    (releaseScheduledV5HostFrame r roomEpoch sessionEpoch frame (relay.serverTimeMsAt now)).room
  | .relayLinkCablePacket connectionId packet => (r.acceptLinkCablePacket connectionId packet).2
  | .recordStateHash order connectionId report now =>
    (r.acceptStateHash order connectionId report now).2
  | .pinStateRecovery connectionId roomEpoch sessionEpoch pin =>
    (r.acceptV5StateRecoveryPinForEpoch connectionId roomEpoch sessionEpoch pin .default).2
  | .recordHeartbeat connectionId localFrame network runtimeState now =>
    (r.recordHeartbeat connectionId now localFrame network runtimeState).2
  | .requestSessionPause connectionId requestId reason localFrame =>
    (r.requestSessionPauseWithId connectionId requestId reason localFrame).2
  | .markSessionPauseReached connectionId sequence pausedAtFrame now =>
    (r.markSessionPauseReachedWithOutcomeAt connectionId sequence pausedAtFrame
      (relay.serverTimeMsAt now)).2
  | .requestSessionResume connectionId requestId sequence now =>
    (r.requestSessionResumeWithIdAt connectionId requestId sequence (relay.serverTimeMsAt now)).2
  | .releaseNextControllerFrame now => (r.releaseNextServerFrame (relay.serverTimeMsAt now)).2
  | .sweep now => sweepRoom relay r now

/-- What a call publishes to the version 5 input sockets. -/
def publishedBy : RoomOp → List RoomInputEvent
  | .relayStrictInputBatch connectionId batch => (relayStrictInputBatch r connectionId batch).events
  | .relayHostFrameOpen connectionId frameOpen now =>
    (relayHostFrameOpen r connectionId frameOpen (relay.serverTimeMsAt now)).events
  | .releaseScheduledV5HostFrame roomEpoch sessionEpoch frame now =>
    (releaseScheduledV5HostFrame r roomEpoch sessionEpoch frame (relay.serverTimeMsAt now)).events
  | _ => []

end Calls

/-! ## Rooms in the registry -/

/-- A room as the registry keeps it, with everything its input sockets have been sent. -/
structure StoredRoom where
  room : NetplayRoom
  createdAt : Instant
  inputEvents : List RoomInputEvent

namespace StoredRoom

variable (relay : Relay) (s : StoredRoom)

/-- No guest came in time. -/
def isExpiredWaiting (now : Instant) (timeout : Duration) : Bool :=
  s.room.status = .waitingForGuest && now - s.createdAt ≥ timeout

/-- The sweep drops the room it has just worked on. -/
def sweepRemoves (now : Instant) : Bool :=
  let swept := sweepRoom relay s.room now
  (s.room.closeExpiredStateRecovery now).1
    || (s.room.expireRunnerHandoffs now).1 = some true
    || { s with room := swept }.isExpiredWaiting now relay.joinTimeout
    || swept.isRecoveryExpired now
    || swept.isIdleDisconnected now relay.recovery.roomIdle

/-- The registry drops the room after the call. -/
def removedBy : RoomOp → Bool
  | .disconnect connectionId now =>
    match (s.room.disconnectWithRecovery connectionId now relay.recovery.reconnectGrace).1 with
    | .ok closed => closed
    | .error _ => false
  | .sweep now => s.sweepRemoves relay now
  | _ => false

/-- One call. A dropped room can no longer be reached. -/
def step (op : RoomOp) : Option StoredRoom :=
  if s.removedBy relay op then none
  else some { s with
    room := applyOp relay s.room op
    inputEvents := s.inputEvents ++ publishedBy relay s.room op }

end StoredRoom

/-- A new room waits for its guest. The voice broker may have opened a voice room for it. -/
def createRoom (roomId : RoomId) (identityKey : Text) (hostConnection : ConnectionId)
    (session : NetplaySessionDescriptor) (protocolVersion : Nat)
    (resumeTokenHash inputSocketTokenHash : ResumeTokenHash) (now : Instant)
    (voice : Option RoomVoiceState) : StoredRoom where
  room :=
    let room := NetplayRoom.newWithProtocolAndResume roomId identityKey hostConnection session
      protocolVersion resumeTokenHash inputSocketTokenHash now
    match voice with
    | some voice => room.setVoiceState voice
    | none => room
  createdAt := now
  inputEvents := []

/-- The room holds this control or input socket. -/
def knowsSocket (r : NetplayRoom) (connectionId : ConnectionId) : Bool :=
  r.players.any fun slot =>
    slot.connectionId = some connectionId || slot.inputConnectionId = some connectionId

/-- What the transport guarantees about a call. -/
def Admissible (r : NetplayRoom) (op : RoomOp) : Prop :=
  (match op with
    | .joinGuest _ connectionId _ _ _ _ => !knowsSocket r connectionId
    | .connectHost _ connectionId _ _ _ _ => !knowsSocket r connectionId
    | .reconnectPlayer request => !knowsSocket r request.connectionId
    | .connectInputSocket _ _ _ _ connectionId _ => !knowsSocket r connectionId
    | .relayStrictInputBatch _ batch => !batch.payloads.isEmpty
    | .recordStateHash _ _ report _ => decide (report.frame ≤ u64Max)
    | _ => true) = true

instance (r : NetplayRoom) (op : RoomOp) : Decidable (Admissible r op) :=
  inferInstanceAs (Decidable (_ = true))

/-- Some history of calls leads from the creation of the room to `s`. -/
def Reachable (relay : Relay) (s : StoredRoom) : Prop :=
  ∃ roomId identityKey hostConnection session protocolVersion resumeTokenHash inputSocketTokenHash
      now voice ops,
    let created := createRoom roomId identityKey hostConnection session protocolVersion
      resumeTokenHash inputSocketTokenHash now voice
    Guarded (StoredRoom.step relay) (fun s op => Admissible s.room op) created ops
      ∧ run (StoredRoom.step relay) created ops = some s

end NetplayRelay.Registry
