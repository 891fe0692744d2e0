import NetplayRelay.Rooms.Trackers
import Mathlib.Tactic.Simps.Basic

/-!
# The room

`NetplayRoom` and what its operations share: finding a slot, the tests over connected
players, and the resets. A reset of the synchronisation data (`resetSyncStateTo`) touches
neither the status nor the epochs; every caller decides about those on its own.
-/

namespace NetplayRelay.Rooms

open Lib Protocol

/-- The right to join the voice room. -/
structure VoiceJoinGrant where
  voiceRoomId : Text
  participantIdentity : Text
  token : Text
  expiresAt : Text

/-- The voice room and its grants. -/
structure RoomVoiceState where
  voiceRoomId : Option Text
  grants : PlayerMap VoiceJoinGrant

/-- A delay to come. -/
structure InputDelayChange where
  effectiveFrame : Nat
  inputDelayFrames : Nat

/-- A room. -/
structure NetplayRoom where
  roomId : RoomId
  protocolVersion : Nat
  session : NetplaySessionDescriptor
  maxPlayers : Nat
  players : List PlayerSlot
  status : RoomStatus
  roomEpoch : Nat
  sessionEpoch : Nat
  compatibility : PlayerMap CompatibilityFingerprint
  readyPlayers : Finset PlayerIndex
  deterministicReadyPlayers : Finset PlayerIndex
  clockSyncRequest : Option ClockSyncSampleRequest
  clockUncertaintyByPlayer : PlayerMap Nat
  clockSampleIndicesByPlayer : PlayerMap (Finset Nat)
  nextClockSyncRequestId : Nat
  lastInputFrames : PlayerMap Nat
  nextInputFrames : PlayerMap Nat
  linkCableState : LinkCableRoomState
  hostSnapshotCompleted : Bool
  completedSnapshotManifest : Option SnapshotManifest
  nextPauseSequence : Nat
  pauseState : Option SessionPauseStateTracker
  snapshotTransfer : Option SnapshotTransferState
  snapshotFileRelayTransfer : Option SnapshotFileRelayTransferState
  romRelayTransfer : Option RomRelayTransferState
  syncStartFrame : Nat
  roomFrame : Nat
  releasedFrame : Option Nat
  nextReleaseFrame : Nat
  pendingInputDelayChange : Option InputDelayChange
  stateHashes : AList fun _ : Nat => PlayerMap Text
  stateHashTrueMismatchStreak : Nat
  nextAuthoritativeStateHashFrame : Nat
  nextStateRecoveryId : Nat
  stateRecovery : Option StateRecoveryTransaction
  stateRecoveryStartedAt : List Instant
  scheduledStart : Option ScheduledSessionStart
  pendingHostFrameOpen : Option Nat
  voice : Option RoomVoiceState

/-- What a fallible operation returns, and the room it leaves behind. A failed operation may
have changed the room. -/
abbrev Outcome (α : Type) := Except RoomError α × NetplayRoom

/-- The seats of a room. -/
def mvpRoomCapacity : Nat := 2

/-- First authoritative state-hash checkpoint strictly after a frame. -/
def nextAuthoritativeCheckpointAfter (frame : Nat) : Nat :=
  satMul u64Max (satAdd u64Max (frame / authoritativeStateHashIntervalFrames) 1)
    authoritativeStateHashIntervalFrames

namespace NetplayRoom

/-- A room with its host. -/
def newWithProtocolAndResume (roomId : RoomId) (identityKey : Text) (hostConnection : ConnectionId)
    (session : NetplaySessionDescriptor) (protocolVersion : Nat)
    (hostResumeTokenHash hostInputSocketTokenHash : ResumeTokenHash) (now : Instant) :
    NetplayRoom where
  roomId := roomId
  protocolVersion := protocolVersion
  session := session
  maxPlayers := mvpRoomCapacity
  players := [.host identityKey hostConnection hostResumeTokenHash hostInputSocketTokenHash now,
    .empty .two]
  status := .waitingForGuest
  roomEpoch := 1
  sessionEpoch := 1
  compatibility := ∅
  readyPlayers := ∅
  deterministicReadyPlayers := ∅
  clockSyncRequest := none
  clockUncertaintyByPlayer := ∅
  clockSampleIndicesByPlayer := ∅
  nextClockSyncRequestId := 1
  lastInputFrames := ∅
  nextInputFrames := ∅
  linkCableState := .default
  hostSnapshotCompleted := false
  completedSnapshotManifest := none
  nextPauseSequence := 1
  pauseState := none
  snapshotTransfer := none
  snapshotFileRelayTransfer := none
  romRelayTransfer := none
  syncStartFrame := 0
  roomFrame := 0
  releasedFrame := none
  nextReleaseFrame := 0
  pendingInputDelayChange := none
  stateHashes := ∅
  stateHashTrueMismatchStreak := 0
  nextAuthoritativeStateHashFrame := authoritativeStateHashIntervalFrames
  nextStateRecoveryId := 1
  stateRecovery := none
  stateRecoveryStartedAt := []
  scheduledStart := none
  pendingHostFrameOpen := none
  voice := none

/-! ## Reading -/

variable (r : NetplayRoom)

/-- The strict protocol is used. -/
def usesStrictControllerInput : Bool :=
  r.protocolVersion ≥ 5 && r.session.mode = .controllerNetplay

/-- The seat of a control socket. -/
def slotForConnection (connectionId : ConnectionId) : Option PlayerSlot :=
  r.players.find? fun slot => slot.connectionId = some connectionId

/-- The seat of an input socket. -/
def slotForInputConnection (connectionId : ConnectionId) : Option PlayerSlot :=
  r.players.find? fun slot => slot.inputConnectionId = some connectionId

/-- A seat by its number. -/
def slotForPlayer (playerIndex : PlayerIndex) : Option PlayerSlot :=
  r.players.find? fun slot => slot.playerIndex = playerIndex

/-- Whose control socket it is. -/
def playerIndexForConnection (connectionId : ConnectionId) : Option PlayerIndex :=
  (r.slotForConnection connectionId).map (·.playerIndex)

/-- Whose input socket it is. -/
def playerIndexForInputConnection (connectionId : ConnectionId) : Option PlayerIndex :=
  (r.slotForInputConnection connectionId).map (·.playerIndex)

/-- The role of a control socket. -/
def roleForConnection (connectionId : ConnectionId) : Option PlayerRole :=
  (r.slotForConnection connectionId).map (·.role)

/-- Who is connected. -/
def connectedPlayerIndices : List PlayerIndex :=
  (r.players.filter (·.isConnected)).map (·.playerIndex)

/-- Every seat is connected and every connected player passes the test. -/
def allConnected (test : PlayerIndex → Bool) : Bool :=
  r.connectedPlayerIndices.length = r.maxPlayers && r.connectedPlayerIndices.all test

/-- Both have reported. -/
def connectedPlayersHaveFingerprints : Bool :=
  r.allConnected fun p => (r.compatibility.lookup p).isSome

/-- Both have input sockets. -/
def connectedPlayersHaveInputSockets : Bool :=
  r.allConnected fun p => (r.slotForPlayer p).any fun slot => slot.inputConnectionId.isSome

/-- Both are ready. -/
def connectedPlayersAreReady : Bool :=
  r.allConnected fun p => p ∈ r.readyPlayers

/-- Both can relay files. -/
def connectedPlayersSupportStateFileRelay : Bool :=
  r.allConnected fun p => (r.slotForPlayer p).any fun slot => slot.supportsStateFileRelay

/-- Both can start on time. -/
def connectedPlayersSupportScheduledStart : Bool :=
  r.allConnected fun p => (r.slotForPlayer p).any fun slot =>
    slot.supportsScheduledStart && slot.supportsClockSync

/-- Both know fast input. -/
def connectedPlayersSupportFastInputRelay : Bool :=
  r.allConnected fun p => (r.slotForPlayer p).any fun slot => slot.supportsFastInputRelay

/-- The next frame the room expects from a player. -/
def expectedFrame (playerIndex : PlayerIndex) : Nat :=
  (r.nextInputFrames.lookup playerIndex).getD r.syncStartFrame

/-- How far the pause is. -/
def currentPauseState : SessionPauseState :=
  if r.status = .paused then .paused else .pausing

/-! ## Slot edits -/

/-- Edit the first slot that passes the test. -/
@[simps]
def updateSlot (test : PlayerSlot → Bool) (edit : PlayerSlot → PlayerSlot) : NetplayRoom :=
  { r with players := updateFirst test edit r.players }

/-- Edit every connected slot. -/
@[simps]
def updateConnected (edit : PlayerSlot → PlayerSlot) : NetplayRoom :=
  { r with players := updateWhere (·.isConnected) edit r.players }

/-- Edit every slot that is not empty. -/
@[simps]
def updateOccupied (edit : PlayerSlot → PlayerSlot) : NetplayRoom :=
  { r with players := updateWhere (fun slot => !slot.isEmpty) edit r.players }

/-- A player's new status. -/
def setPlayerStatus (playerIndex : PlayerIndex) (status : PlayerStatus) : NetplayRoom :=
  r.updateSlot (fun slot => slot.playerIndex = playerIndex) (·.enter status (.ofStatus status))

/-- A report on the network. -/
def recordNetworkReport (connectionId : ConnectionId) (localFrame : Option Nat)
    (network : Option ClientNetworkQualityReport) (now : Instant) : NetplayRoom :=
  r.updateSlot (fun slot => slot.connectionId = some connectionId) fun slot =>
    slot.recordReports localFrame network now

/-! ## Epochs and resets -/

/-- The next room epoch. -/
@[simps]
def bumpRoomEpoch : NetplayRoom := { r with roomEpoch := satAdd u64Max r.roomEpoch 1 }

/-- The next session epoch. -/
@[simps]
def bumpSessionEpoch : NetplayRoom := { r with sessionEpoch := satAdd u64Max r.sessionEpoch 1 }

/-- Nothing is known of a start. -/
@[simps]
def resetStartSyncState : NetplayRoom :=
  { r with
    clockSyncRequest := none
    clockUncertaintyByPlayer := ∅
    clockSampleIndicesByPlayer := ∅
    deterministicReadyPlayers := ∅
    scheduledStart := none }

/-- Forget everything negotiated for the current session and start over at `startFrame`. -/
@[simps]
def resetSyncStateTo (startFrame : Nat) : NetplayRoom :=
  { r.resetStartSyncState with
    players := if r.usesStrictControllerInput then r.players.map (·.clearReports) else r.players
    compatibility := ∅
    readyPlayers := ∅
    lastInputFrames := ∅
    nextInputFrames := ∅
    linkCableState := .default
    hostSnapshotCompleted := false
    completedSnapshotManifest := none
    pauseState := none
    snapshotTransfer := none
    snapshotFileRelayTransfer := none
    romRelayTransfer := none
    syncStartFrame := startFrame
    roomFrame := startFrame
    releasedFrame := none
    nextReleaseFrame := startFrame
    pendingInputDelayChange := none
    stateHashes := ∅
    stateHashTrueMismatchStreak := 0
    nextAuthoritativeStateHashFrame := nextAuthoritativeCheckpointAfter startFrame
    stateRecovery := none
    pendingHostFrameOpen := none }

/-- The session starts over at its first frame. -/
abbrev resetSyncState : NetplayRoom := r.resetSyncStateTo 0

/-- Forget what one player contributed to the current session. -/
@[simps]
def removePlayerSync (playerIndex : PlayerIndex) : NetplayRoom :=
  { r with
    compatibility := r.compatibility.erase playerIndex
    readyPlayers := r.readyPlayers.erase playerIndex
    lastInputFrames := r.lastInputFrames.erase playerIndex
    nextInputFrames := r.nextInputFrames.erase playerIndex }

end NetplayRoom

end NetplayRelay.Rooms
