import NetplayRelay.Rooms.PlayerSlot

/-!
# Open transactions of a room

The small state machines a room keeps while something is in progress: a session pause, a
snapshot transfer, a ROM transfer, a state recovery, and the link-cable handshake.
-/

namespace NetplayRelay.Rooms

open Lib Protocol

/-! ## Session pause -/

/-- Who holds a pause, and why. -/
structure SessionPauseHolder where
  playerIndex : PlayerIndex
  reason : SessionPauseReason
deriving DecidableEq

/-- The pause as the players see it. -/
structure SessionPauseView where
  sequence : Nat
  state : SessionPauseState
  reason : SessionPauseReason
  requestedByPlayerIndex : PlayerIndex
  pauseAtFrame : Nat
  pausedAtFrame : Option Nat
  acknowledgedPlayerIndexes : List PlayerIndex
  holders : List SessionPauseHolder

/-- An open pause. -/
structure SessionPauseStateTracker where
  acknowledgedPlayers : List PlayerIndex
  holders : PlayerMap SessionPauseReason
  pauseAtFrame : Nat
  pauseRequestIds : Finset Text
  pausedAtFrame : Option Nat
  reason : SessionPauseReason
  resumeRequestIds : Finset Text
  requestedByPlayerIndex : PlayerIndex
  sequence : Nat

namespace SessionPauseStateTracker

/-- A pause with its first holder. -/
def new (sequence : Nat) (requestId : Text) (reason : SessionPauseReason)
    (requestedByPlayerIndex : PlayerIndex) (pauseAtFrame : Nat) : SessionPauseStateTracker where
  acknowledgedPlayers := []
  holders := AList.singleton requestedByPlayerIndex reason
  pauseAtFrame := pauseAtFrame
  pauseRequestIds := if requestId.isEmpty then ∅ else {requestId}
  pausedAtFrame := none
  reason := reason
  resumeRequestIds := ∅
  requestedByPlayerIndex := requestedByPlayerIndex
  sequence := sequence

/-- A repeated non-empty request id has no effect. -/
def hold (self : SessionPauseStateTracker) (playerIndex : PlayerIndex) (requestId : Text)
    (reason : SessionPauseReason) : SessionPauseStateTracker :=
  if requestId.isEmpty then { self with holders := self.holders.insert playerIndex reason }
  else if requestId ∈ self.pauseRequestIds then self
  else { self with
    pauseRequestIds := insert requestId self.pauseRequestIds
    holders := self.holders.insert playerIndex reason }

/-- A player has come to the pause. -/
def acknowledge (self : SessionPauseStateTracker) (playerIndex : PlayerIndex)
    (pausedAtFrame : Nat) : SessionPauseStateTracker :=
  { self with
    acknowledgedPlayers := self.acknowledgedPlayers.insert playerIndex
    pausedAtFrame := some (match self.pausedAtFrame with
      | none => pausedAtFrame
      | some current => max current pausedAtFrame) }

/-- A player lets go. -/
def release (self : SessionPauseStateTracker) (playerIndex : PlayerIndex) (requestId : Text) :
    SessionPauseStateTracker :=
  if requestId.isEmpty then { self with holders := self.holders.erase playerIndex }
  else if requestId ∈ self.resumeRequestIds then self
  else { self with
    resumeRequestIds := insert requestId self.resumeRequestIds
    holders := self.holders.erase playerIndex }

/-- It is this pause. -/
def hasSequence (self : SessionPauseStateTracker) (sequence : Nat) : Bool :=
  self.sequence = sequence

/-- The frame to go on with. -/
def resumeAtFrame (self : SessionPauseStateTracker) : Nat :=
  satAdd u64Max (self.pausedAtFrame.getD self.pauseAtFrame) 1

/-- Everybody has come to the pause. -/
def everyConnectedPlayerAcknowledged (self : SessionPauseStateTracker)
    (connectedPlayers : List PlayerIndex) : Bool :=
  !connectedPlayers.isEmpty && connectedPlayers.all fun p => p ∈ self.acknowledgedPlayers

/-- Somebody holds the pause. -/
def hasHolders (self : SessionPauseStateTracker) : Bool := !self.holders.entries.isEmpty

/-- What the players are told. -/
def view (self : SessionPauseStateTracker) (state : SessionPauseState) : SessionPauseView where
  sequence := self.sequence
  state := state
  reason := self.reason
  requestedByPlayerIndex := self.requestedByPlayerIndex
  pauseAtFrame := self.pauseAtFrame
  pausedAtFrame := self.pausedAtFrame
  acknowledgedPlayerIndexes :=
    self.acknowledgedPlayers.insertionSort fun a b => a.zeroBased ≤ b.zeroBased
  holders := (self.holders.entries.map fun e => (⟨e.1, e.2⟩ : SessionPauseHolder)).insertionSort
    fun a b => a.playerIndex.zeroBased ≤ b.playerIndex.zeroBased

end SessionPauseStateTracker

/-! ## Snapshot transfer

SHA-256 comes from an external crate: every function that hashes takes the digest function as
an argument. The incremental hasher is the bytes fed to it so far. -/

/-- Lower-case hexadecimal text of a digest. -/
def hexDigest (digest : List UInt8) : Text :=
  digest.flatMap fun b => [Nat.digitChar (b.toNat / 16), Nat.digitChar (b.toNat % 16)]

/-- A snapshot, as far as it has come. -/
structure SnapshotTransferState where
  repairFrame : Option Nat
  snapshotId : Option Text
  nextChunkIndex : Nat
  receivedBytes : Nat
  hashed : List UInt8
  acceptedChunkDigests : List (List UInt8)

namespace SnapshotTransferState

/-- A transfer without pieces. -/
def new : SnapshotTransferState := ⟨none, none, 0, 0, [], []⟩

/-- The identity fields are taken from the first chunk before its index is checked, so the
returned state can differ from `self` even on an error. -/
def acceptChunk (sha256 : List UInt8 → List UInt8) (self : SnapshotTransferState)
    (chunk : SnapshotChunk) (limits : SnapshotLimits) :
    Except RoomError Bool × SnapshotTransferState :=
  match chunk.validate limits with
  | .error _ => (.error .snapshotInvalid, self)
  | .ok () =>
    let bound := match self.snapshotId, self.repairFrame with
      | some snapshotId, some repairFrame =>
        if snapshotId = chunk.snapshotId ∧ repairFrame = chunk.repairFrame then some self else none
      | none, none => some { self with
          snapshotId := some chunk.snapshotId
          repairFrame := some chunk.repairFrame }
      | _, _ => none
    match bound with
    | none => (.error .snapshotInvalid, self)
    | some self =>
      if chunk.index < self.nextChunkIndex then
        if self.acceptedChunkDigests[chunk.index]? = some (sha256 chunk.bytes) then
          (.ok false, self)
        else (.error .snapshotInvalid, self)
      else if chunk.index ≠ self.nextChunkIndex then (.error .snapshotInvalid, self)
      else match checkedAdd u64Max self.receivedBytes chunk.bytes.length with
        | none => (.error .snapshotInvalid, self)
        | some nextTotal =>
          if nextTotal > limits.maxTotalBytes then (.error .snapshotInvalid, self)
          else
            let hashedSelf := { self with
              hashed := self.hashed ++ chunk.bytes
              acceptedChunkDigests := self.acceptedChunkDigests ++ [sha256 chunk.bytes]
              receivedBytes := nextTotal }
            match checkedAdd (2 ^ 32 - 1) self.nextChunkIndex 1 with
            | none => (.error .snapshotInvalid, hashedSelf)
            | some next => (.ok true, { hashedSelf with nextChunkIndex := next })

/-- The piece is here already. -/
def isDuplicateChunk (sha256 : List UInt8 → List UInt8) (self : SnapshotTransferState)
    (chunk : SnapshotChunk) : Bool :=
  if self.snapshotId ≠ some chunk.snapshotId ∨ self.repairFrame ≠ some chunk.repairFrame
      ∨ chunk.index ≥ self.nextChunkIndex then false
  else self.acceptedChunkDigests[chunk.index]? = some (sha256 chunk.bytes)

/-- The snapshot is whole. -/
def complete (sha256 : List UInt8 → List UInt8) (self : SnapshotTransferState)
    (manifest : SnapshotManifest) (limits : SnapshotLimits) : Except RoomError Unit :=
  if !(manifest.validate limits).isOk then .error .snapshotInvalid
  else if self.snapshotId ≠ some manifest.snapshotId
      ∨ self.repairFrame ≠ some manifest.repairFrame then .error .snapshotInvalid
  else if manifest.totalBytes ≠ self.receivedBytes then .error .snapshotInvalid
  else if hexDigest (sha256 self.hashed) ≠ manifest.sha256 then .error .snapshotInvalid
  else .ok ()

end SnapshotTransferState

/-- A snapshot to relay, and between whom. -/
structure SnapshotFileRelayTransferIntent where
  roomId : RoomId
  senderPlayerIndex : PlayerIndex
  receiverPlayerIndex : PlayerIndex
  receiverConnection : ConnectionId

/-- A snapshot that is relayed. -/
structure SnapshotFileRelayTransferState where
  sourceConnection : ConnectionId
  receiverPlayerIndex : PlayerIndex
  downloadGrant : SnapshotFileRelayGrant
  manifest : SnapshotManifest

/-! ## ROM transfer -/

/-- A ROM to relay, and between whom. -/
structure RomRelayTransferIntent where
  roomId : RoomId
  senderPlayerIndex : PlayerIndex
  senderConnection : ConnectionId
  receiverPlayerIndex : PlayerIndex
  receiverConnection : ConnectionId
  rom : RomIdentity
  roomEpoch : Nat
  sessionEpoch : Nat

/-- A ROM that is relayed. -/
structure RomRelayTransferState where
  senderConnection : ConnectionId
  receiverConnection : ConnectionId
  senderPlayerIndex : PlayerIndex
  receiverPlayerIndex : PlayerIndex
  uploadGrant : RomRelayGrant
  downloadGrant : RomRelayGrant
  rom : RomIdentity
  uploadComplete : Bool
  downloadComplete : Bool

namespace RomRelayTransferState

/-- An end is done. -/
def acceptCompletion (self : RomRelayTransferState) (source : ConnectionId)
    (completion : RomRelayCompletion) :
    Except RomRelayBlockReason ConnectionId × RomRelayTransferState :=
  if normalizeContentHash completion.contentHash ≠ self.rom.normalizedHash then
    (.error .missingIdentity, self)
  else if completion.transferId ≠ self.uploadGrant.transferId then (.error .missingIdentity, self)
  else match completion.role with
    | .upload =>
      if source = self.senderConnection then
        (.ok self.receiverConnection, { self with uploadComplete := true })
      else (.error .wrongPlayer, self)
    | .download =>
      if source = self.receiverConnection then
        if !self.uploadComplete then (.error .transferActive, self)
        else (.ok self.senderConnection, { self with downloadComplete := true })
      else (.error .wrongPlayer, self)

end RomRelayTransferState

/-! ## State recovery -/

/-- How far a repair is. -/
inductive StateRecoveryPhase
  | preparing
  | committed
deriving DecidableEq

/-- The repair as the players see it. -/
structure StateRecoveryView where
  recoveryId : Nat
  phase : StateRecoveryPhase
  repairFrame : Nat
  mismatch : StateHashMismatchView
  pinnedSnapshot : Option SnapshotManifest
deriving DecidableEq

/-- How long the pin may take. -/
def stateRecoveryPinTimeout : Duration := secs 10

/-- A repair. -/
structure StateRecoveryTransaction where
  recoveryId : Nat
  mismatch : StateHashMismatchView
  pinnedSnapshot : Option SnapshotManifest
  preparingRoomEpoch : Nat
  preparingSessionEpoch : Nat
  startedAt : Instant
deriving DecidableEq

namespace StateRecoveryTransaction

/-- A repair without a pin. -/
def preparing (recoveryId : Nat) (mismatch : StateHashMismatchView)
    (preparingRoomEpoch preparingSessionEpoch : Nat) (startedAt : Instant) :
    StateRecoveryTransaction :=
  ⟨recoveryId, mismatch, none, preparingRoomEpoch, preparingSessionEpoch, startedAt⟩

/-- The frame to repair. -/
def repairFrame (self : StateRecoveryTransaction) : Nat := self.mismatch.repairFrame

/-- The message is of the repair's epochs. -/
def acceptsMessageEpoch (self : StateRecoveryTransaction) (roomEpoch sessionEpoch : Nat) : Bool :=
  roomEpoch = self.preparingRoomEpoch && sessionEpoch = self.preparingSessionEpoch

/-- The repair has its pin. -/
def commit (self : StateRecoveryTransaction) (manifest : SnapshotManifest) :
    StateRecoveryTransaction := { self with pinnedSnapshot := some manifest }

/-- The pin is missing. -/
def isPreparing (self : StateRecoveryTransaction) : Bool := self.pinnedSnapshot.isNone

/-- The pin is late. -/
def isExpired (self : StateRecoveryTransaction) (now : Instant) : Bool :=
  self.isPreparing && now - self.startedAt ≥ stateRecoveryPinTimeout

/-- What the players are told. -/
def view (self : StateRecoveryTransaction) : StateRecoveryView where
  recoveryId := self.recoveryId
  phase := if self.isPreparing then .preparing else .committed
  repairFrame := self.repairFrame
  mismatch := self.mismatch
  pinnedSnapshot := self.pinnedSnapshot

end StateRecoveryTransaction

/-! ## Link-cable handshake -/

/-- What is known of the link. -/
structure LinkCableRoomState where
  compatibility : PlayerMap LinkCableCompatibility
  lastSequences : PlayerMap Nat

namespace LinkCableRoomState

/-- Nothing is known. -/
def default : LinkCableRoomState := ⟨∅, ∅⟩

/-- A player's report. -/
def setCompatibility (self : LinkCableRoomState) (playerIndex : PlayerIndex)
    (link : LinkCableDescriptor) (compatibility : LinkCableCompatibility) :
    Except RoomError Unit × LinkCableRoomState :=
  if !compatibility.matchesDescriptor link then
    (.error .compatibilityMismatch,
      { self with compatibility := self.compatibility.erase playerIndex })
  else (.ok (), { self with compatibility := self.compatibility.insert playerIndex compatibility })

/-- Both have reported. -/
def connectedPlayersHaveCompatibility (self : LinkCableRoomState)
    (connectedPlayers : List PlayerIndex) (maxPlayers : Nat) : Bool :=
  connectedPlayers.length = maxPlayers
    && connectedPlayers.all fun p => (self.compatibility.lookup p).isSome

/-- The reports agree. -/
def compatibilityValuesMatch (self : LinkCableRoomState) (order : HashOrder) : Bool :=
  match self.compatibility.values order with
  | [] => false
  | baseline :: others => others.all fun candidate => baseline.matchesPeer candidate

/-- Both have reported the same. -/
def connectedPlayersAreCompatible (self : LinkCableRoomState) (order : HashOrder)
    (connectedPlayers : List PlayerIndex) (maxPlayers : Nat) : Bool :=
  self.connectedPlayersHaveCompatibility connectedPlayers maxPlayers
    && self.compatibilityValuesMatch order

/-- A packet with a new number. -/
def acceptPacket (self : LinkCableRoomState) (ownedIndex : PlayerIndex)
    (packet : LinkCablePacket) (maxPayloadBytes : Nat) :
    Except RoomError Unit × LinkCableRoomState :=
  if ownedIndex ≠ packet.playerIndex then (.error (.slotSpoofing packet.playerIndex), self)
  else if packet.payload.isEmpty ∨ packet.payload.length > maxPayloadBytes then
    (.error .linkPacketInvalid, self)
  else
    let accepted := { self with
      lastSequences := self.lastSequences.insert packet.playerIndex packet.sequence }
    match self.lastSequences.lookup packet.playerIndex with
    | some lastSequence =>
      if packet.sequence ≤ lastSequence then (.error .outOfOrderLinkPacket, self)
      else (.ok (), accepted)
    | none => (.ok (), accepted)

end LinkCableRoomState

end NetplayRelay.Rooms
