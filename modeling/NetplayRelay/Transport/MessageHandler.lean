import NetplayRelay.Registry.StoredRoom

/-!
# The handler of control messages

Every control socket has a task that reads its messages one after the other. A message that names
the epochs it was sent in is handled under two separate locks: `validate_epochs` takes a view of
the room and compares, and only then the registry is called. A failed comparison is turned into an
error reply; the handler stops if the reply cannot be sent, and goes on to the call if it can.

The tasks of the two players, the input sockets and the timers interleave between the two locks, so
the state of the handlers keeps, beside the room, the messages that are between them.
-/

namespace NetplayRelay.Transport

open Lib Protocol Rooms Registry

/-- Control messages. A deterministic-ready report, the reason of an exit or of a resume request and
the event counter of a heartbeat have no influence on the room and are left out. -/
inductive ClientMessage
  | ping
  | clockSyncPing
  | clockSyncSample (roomEpoch sessionEpoch : Nat) (sample : ClockSyncSample)
  | setCompatibilityFingerprint (roomEpoch sessionEpoch : Nat)
      (fingerprint : CompatibilityFingerprint)
  | setLinkCableCompatibility (roomEpoch sessionEpoch : Nat)
      (compatibility : LinkCableCompatibility)
  | ready (roomEpoch sessionEpoch : Nat) (network : Option ClientNetworkQualityReport)
  | deterministicReady (roomEpoch sessionEpoch : Nat)
      (network : Option ClientNetworkQualityReport)
  | snapshotChunk (roomEpoch sessionEpoch : Nat) (chunk : SnapshotChunk)
  | snapshotComplete (roomEpoch sessionEpoch : Nat) (manifest : SnapshotManifest)
  | snapshotFileRelayRequested (roomEpoch sessionEpoch : Nat) (manifest : SnapshotManifest)
  | snapshotFileRelayUploadComplete (roomEpoch sessionEpoch : Nat) (transferId : Text)
      (manifest : SnapshotManifest)
  | romRelayRequest (roomEpoch sessionEpoch : Nat)
  | romRelayProgress (roomEpoch sessionEpoch : Nat) (progress : RomRelayProgress)
  | romRelayCompleted (roomEpoch sessionEpoch : Nat) (completion : RomRelayCompletion)
  | romRelayFailed (roomEpoch sessionEpoch : Nat) (transferId : Option Text)
  | romRelayCancelled (roomEpoch sessionEpoch : Nat) (transferId : Option Text)
  | inputFrame (roomEpoch sessionEpoch : Nat) (input : InputCursor)
  | linkCablePacket (roomEpoch sessionEpoch : Nat) (packet : LinkCablePacket)
  | heartbeat (roomEpoch sessionEpoch : Nat) (localFrame : Option Nat)
      (runtimeState : ClientRuntimeState) (network : Option ClientNetworkQualityReport)
  | requestSessionPause (roomEpoch sessionEpoch : Nat) (requestId : Text)
      (reason : SessionPauseReason) (localFrame : Nat)
  | sessionPauseReached (roomEpoch sessionEpoch : Nat) (sequence pausedAtFrame : Nat)
  | requestSessionResume (roomEpoch sessionEpoch : Nat) (requestId : Text) (sequence : Nat)
  | playerExited (roomEpoch sessionEpoch : Nat)
  | refreshVoiceToken (roomEpoch sessionEpoch : Nat)
  | stateHash (roomEpoch sessionEpoch : Nat) (report : StateHashReport)
  | stateRecoveryPinned (roomEpoch sessionEpoch : Nat) (pin : StateRecoveryPin)

/-- The epochs that `validate_epochs` checks for a message. The pin of a state recovery carries its
epochs to the room instead. -/
def guardedEpochs : ClientMessage → Option (Nat × Nat)
  | .ping | .clockSyncPing | .stateRecoveryPinned .. => none
  | .clockSyncSample roomEpoch sessionEpoch _
  | .setCompatibilityFingerprint roomEpoch sessionEpoch _
  | .setLinkCableCompatibility roomEpoch sessionEpoch _
  | .ready roomEpoch sessionEpoch _
  | .deterministicReady roomEpoch sessionEpoch _
  | .snapshotChunk roomEpoch sessionEpoch _
  | .snapshotComplete roomEpoch sessionEpoch _
  | .snapshotFileRelayRequested roomEpoch sessionEpoch _
  | .snapshotFileRelayUploadComplete roomEpoch sessionEpoch _ _
  | .romRelayRequest roomEpoch sessionEpoch
  | .romRelayProgress roomEpoch sessionEpoch _
  | .romRelayCompleted roomEpoch sessionEpoch _
  | .romRelayFailed roomEpoch sessionEpoch _
  | .romRelayCancelled roomEpoch sessionEpoch _
  | .inputFrame roomEpoch sessionEpoch _
  | .linkCablePacket roomEpoch sessionEpoch _
  | .heartbeat roomEpoch sessionEpoch _ _ _
  | .requestSessionPause roomEpoch sessionEpoch _ _ _
  | .sessionPauseReached roomEpoch sessionEpoch _ _
  | .requestSessionResume roomEpoch sessionEpoch _ _
  | .playerExited roomEpoch sessionEpoch
  | .refreshVoiceToken roomEpoch sessionEpoch
  | .stateHash roomEpoch sessionEpoch _ => some (roomEpoch, sessionEpoch)

/-- The room is at these epochs. -/
def validateEpochs (r : NetplayRoom) (roomEpoch sessionEpoch : Nat) : Except RoomError Unit :=
  if r.roomEpoch ≠ roomEpoch then .error .staleRoomEpoch
  else if r.sessionEpoch ≠ sessionEpoch then .error .staleSessionEpoch
  else .ok ()

/-- What a handler finds around it when it comes to the registry call: the clock, the order in which
hash maps are iterated, and the answers of the file relay and of the voice broker. An answer is
missing when the service is disabled or fails, or when the room refused the request before. -/
structure Surroundings where
  now : Instant
  order : HashOrder
  snapshotGrants : Option SnapshotFileRelayGrantPair
  romGrants : Option RomRelayGrantPair
  voiceToken : Option (Text × Text × Text)

/-- The registry call a message leads to. -/
def registryCall (c : ConnectionId) (around : Surroundings) : ClientMessage → Option RoomOp
  | .ping | .clockSyncPing => none
  | .clockSyncSample _ _ sample => some (.recordClockSyncSample around.order c sample around.now)
  | .setCompatibilityFingerprint _ _ fingerprint =>
    some (.setCompatibility around.order c fingerprint)
  | .setLinkCableCompatibility _ _ compatibility =>
    some (.setLinkCableCompatibility around.order c compatibility)
  | .ready _ _ network => some (.markReady c network around.now)
  | .deterministicReady _ _ network =>
    some (.markDeterministicReady around.order c network around.now)
  | .snapshotChunk _ _ chunk => some (.relaySnapshotChunk c chunk)
  | .snapshotComplete _ _ manifest => some (.relaySnapshotComplete c manifest)
  | .snapshotFileRelayRequested _ _ manifest =>
    around.snapshotGrants.map fun grants => .grantSnapshotFileRelayUpload c manifest grants
  | .snapshotFileRelayUploadComplete _ _ transferId manifest =>
    some (.relaySnapshotFileUploadComplete c transferId manifest)
  | .romRelayRequest _ _ => around.romGrants.map fun grants => .grantRomRelayUpload c grants
  | .romRelayProgress _ _ progress => some (.relayRomRelayProgress c progress)
  | .romRelayCompleted _ _ completion => some (.relayRomRelayCompleted c completion)
  | .romRelayFailed _ _ transferId => some (.relayRomRelayFailed c transferId)
  | .romRelayCancelled _ _ transferId => some (.relayRomRelayCancelled c transferId)
  | .inputFrame _ _ input => some (.relayInputFrame c input)
  | .linkCablePacket _ _ packet => some (.relayLinkCablePacket c packet)
  | .heartbeat _ _ localFrame runtimeState network =>
    some (.recordHeartbeat c localFrame network runtimeState around.now)
  | .requestSessionPause _ _ requestId reason localFrame =>
    some (.requestSessionPause c requestId reason localFrame)
  | .sessionPauseReached _ _ sequence pausedAtFrame =>
    some (.markSessionPauseReached c sequence pausedAtFrame around.now)
  | .requestSessionResume _ _ requestId sequence =>
    some (.requestSessionResume c requestId sequence around.now)
  | .playerExited _ _ => some (.playerExited c around.now)
  | .refreshVoiceToken _ _ => around.voiceToken.map fun (participantIdentity, token, expiresAt) =>
    .refreshVoiceToken c participantIdentity token expiresAt
  | .stateHash _ _ report => some (.recordStateHash around.order c report around.now)
  | .stateRecoveryPinned roomEpoch sessionEpoch pin =>
    some (.pinStateRecovery c roomEpoch sessionEpoch pin)

/-- A room and the messages whose handlers are between the check and the call. -/
structure Handlers where
  stored : StoredRoom
  waiting : AList fun _ : ConnectionId => ClientMessage

/-- What can happen next. -/
inductive HandlerEvent
  /-- A task reads its next message and checks it. The flag says whether the socket would take an
  error reply. -/
  | receive (c : ConnectionId) (message : ClientMessage) (delivered : Bool)
  /-- A task that has a message goes on to its registry call. -/
  | apply (c : ConnectionId) (around : Surroundings)
  /-- A call from elsewhere: sockets that come and go, input sockets, timers. -/
  | call (op : RoomOp)

namespace Handlers

variable (relay : Relay) (s : Handlers)

/-- The first half of handling a message. -/
def receive (c : ConnectionId) (message : ClientMessage) (delivered : Bool) : Handlers :=
  let proceed : Handlers := { s with waiting := s.waiting.insert c message }
  -- a task takes no further message before the last one is done
  if (s.waiting.lookup c).isSome then s
  else match guardedEpochs message with
    | none => proceed
    | some (roomEpoch, sessionEpoch) =>
      match validateEpochs s.stored.room roomEpoch sessionEpoch with
      | .ok () => proceed
      | .error _ => if delivered then proceed else s

/-- One event, if it can happen. -/
def step : HandlerEvent → Option Handlers
  | .receive c message delivered => some (s.receive c message delivered)
  | .apply c around =>
    match (s.waiting.lookup c).bind (registryCall c around) with
    | none => some { s with waiting := s.waiting.erase c }
    | some op => (s.stored.step relay op).map fun stored => ⟨stored, s.waiting.erase c⟩
  | .call op => (s.stored.step relay op).map fun stored => { s with stored := stored }

end Handlers

end NetplayRelay.Transport
