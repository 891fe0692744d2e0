import NetplayRelay.Rooms.StateHash

/-!
# Transfers, link cable and voice

What travels beside the input: the host's state snapshot (in chunks or through the file
relay), a ROM lent to the guest, link-cable packets, and refreshed voice tokens. None of
these moves the epochs; of all of them only the link-cable handshake writes the room status.
-/

namespace NetplayRelay.Rooms

open Lib Protocol

namespace NetplayRoom

variable (r : NetplayRoom)

/-! ## Snapshots -/

/-- The socket is the host's. -/
def validateHostSnapshotIdentity (connectionId : ConnectionId) : Except RoomError Unit :=
  if r.session.mode ≠ .controllerNetplay then .error .roomNotReady
  else match r.roleForConnection connectionId with
    | some .host => .ok ()
    | some .guest => .error .hostOnly
    | none => .error .unknownConnection

/-- The host may send a snapshot. -/
def validateHostSnapshotSender (connectionId : ConnectionId) : Except RoomError Unit := do
  r.validateHostSnapshotIdentity connectionId
  if r.status ≠ .syncingState ∧ r.status ≠ .ready then .error .roomNotReady else .ok ()

/-- The snapshot is of the session's start. -/
def validateSnapshotRepairFrame (repairFrame : Nat) : Except RoomError Unit :=
  if repairFrame = r.syncStartFrame then .ok () else .error .snapshotInvalid

/-- The checks before a chunk; a completed snapshot drops the status check. -/
def validateSnapshotChunkSender (connectionId : ConnectionId) (chunk : SnapshotChunk) :
    Except RoomError Unit := do
  if r.hostSnapshotCompleted then r.validateHostSnapshotIdentity connectionId
  else r.validateHostSnapshotSender connectionId
  r.validateSnapshotRepairFrame chunk.repairFrame
  r.validateV5RecoverySnapshotChunk chunk

/-- A piece of the host's snapshot. -/
def acceptSnapshotChunk (sha256 : List UInt8 → List UInt8) (connectionId : ConnectionId)
    (chunk : SnapshotChunk) (limits : SnapshotLimits) : Outcome Bool :=
  match r.validateSnapshotChunkSender connectionId chunk with
  | .error error => (.error error, r)
  | .ok () =>
    if r.hostSnapshotCompleted then
      if r.snapshotTransfer.any (·.isDuplicateChunk sha256 chunk) then (.ok false, r)
      else (.error .snapshotInvalid, r)
    else
      let (result, transfer) :=
        (r.snapshotTransfer.getD .new).acceptChunk sha256 chunk limits
      (result, { r with snapshotTransfer := some transfer })

/-- The checks before a manifest. -/
def validateSnapshotManifestSender (connectionId : ConnectionId) (manifest : SnapshotManifest) :
    Except RoomError Unit := do
  if r.hostSnapshotCompleted then r.validateHostSnapshotIdentity connectionId
  else r.validateHostSnapshotSender connectionId
  r.validateSnapshotRepairFrame manifest.repairFrame
  r.validateV5RecoverySnapshot manifest

/-- The snapshot is whole. -/
@[simps]
def completeHostSnapshot (manifest : SnapshotManifest) : NetplayRoom :=
  { r with
    hostSnapshotCompleted := true
    completedSnapshotManifest := some manifest }

/-- The host has sent all of it. -/
def acceptSnapshotComplete (sha256 : List UInt8 → List UInt8) (connectionId : ConnectionId)
    (manifest : SnapshotManifest) (limits : SnapshotLimits) : Outcome Bool :=
  match r.validateSnapshotManifestSender connectionId manifest with
  | .error error => (.error error, r)
  | .ok () =>
    if r.hostSnapshotCompleted then
      if r.completedSnapshotManifest = some manifest then (.ok false, r)
      else (.error .snapshotInvalid, r)
    else match r.snapshotTransfer with
      | none => (.error .snapshotInvalid, r)
      | some transfer =>
        match transfer.complete sha256 manifest limits with
        | .error error => (.error error, r)
        | .ok () => (.ok true, r.completeHostSnapshot manifest)

/-- The checks before a file is relayed. -/
def prepareSnapshotFileRelayTransfer (connectionId : ConnectionId) (manifest : SnapshotManifest)
    (limits : SnapshotLimits) : Except RoomError SnapshotFileRelayTransferIntent := do
  r.validateHostSnapshotSender connectionId
  r.validateSnapshotRepairFrame manifest.repairFrame
  r.validateV5RecoverySnapshot manifest
  if !(manifest.validate limits).isOk then throw .snapshotInvalid
  if r.hostSnapshotCompleted || r.snapshotTransfer.isSome || r.snapshotFileRelayTransfer.isSome then
    throw .snapshotInvalid
  if !r.connectedPlayersSupportStateFileRelay then throw .snapshotFileRelayUnavailable
  match r.playerIndexForConnection connectionId with
  | none => throw .unknownConnection
  | some senderPlayerIndex =>
    match r.players.find? fun slot => slot.isConnected && slot.playerIndex ≠ senderPlayerIndex with
    | none => throw .roomNotReady
    | some receiver =>
      match receiver.connectionId with
      | none => throw .roomNotReady
      | some receiverConnection =>
        return ⟨r.roomId, senderPlayerIndex, receiver.playerIndex, receiverConnection⟩

/-- The file may be relayed. -/
def acceptSnapshotFileRelayGrant (connectionId : ConnectionId) (manifest : SnapshotManifest)
    (grantPair : SnapshotFileRelayGrantPair) (limits : SnapshotLimits) :
    Outcome SnapshotFileRelayGrant :=
  match r.prepareSnapshotFileRelayTransfer connectionId manifest limits with
  | .error error => (.error error, r)
  | .ok intent =>
    if grantPair.upload.manifest ≠ manifest ∨ grantPair.download.manifest ≠ manifest
        ∨ grantPair.upload.transferId ≠ grantPair.download.transferId then
          (.error .snapshotInvalid, r)
    else (.ok grantPair.upload, { r with
      snapshotFileRelayTransfer := some
        ⟨connectionId, intent.receiverPlayerIndex, grantPair.download, manifest⟩ })

/-- The file is up. -/
def acceptSnapshotFileRelayUploadComplete (connectionId : ConnectionId) (transferId : Text)
    (manifest : SnapshotManifest) (limits : SnapshotLimits) :
    Outcome (Option (ConnectionId × SnapshotFileRelayGrant)) :=
  let transferMatches (transfer : SnapshotFileRelayTransferState) : Bool :=
    transfer.sourceConnection = connectionId && transfer.downloadGrant.transferId = transferId
      && transfer.manifest = manifest
  if r.hostSnapshotCompleted then
    match r.snapshotFileRelayTransfer with
    | none => (.error .snapshotInvalid, r)
    | some transfer =>
      if !transferMatches transfer || r.completedSnapshotManifest ≠ some manifest then
        (.error .snapshotInvalid, r)
      else (.ok none, r)
  else match r.validateSnapshotManifestSender connectionId manifest with
    | .error error => (.error error, r)
    | .ok () =>
      if !(manifest.validate limits).isOk then (.error .snapshotInvalid, r)
      else match r.snapshotFileRelayTransfer with
        | none => (.error .snapshotInvalid, r)
        | some transfer =>
          if !transferMatches transfer then (.error .snapshotInvalid, r)
          else match (r.slotForPlayer transfer.receiverPlayerIndex).bind (·.connectionId) with
            | none => (.error .roomNotReady, r)
            | some receiverConnection =>
              (.ok (some (receiverConnection, transfer.downloadGrant)),
                r.completeHostSnapshot manifest)

end NetplayRoom

/-! ## ROM relay -/

/-- ROM relay operations refuse with their own reasons. -/
abbrev RomRelayOutcome (α : Type) := Except RomRelayBlockReason α × NetplayRoom

/-- The reason as a block reason. -/
def capabilityReasonToBlock : Option RomRelayCapabilityReason → RomRelayBlockReason
  | some .disabled => .disabled
  | some .brokerUnavailable => .brokerUnavailable
  | some .missingIdentity => .missingIdentity
  | some .tooLarge => .tooLarge
  | some .unsupportedSystem => .unsupportedSystem
  | some .unsupportedRoom | none => .disabled

namespace NetplayRoom

variable (r : NetplayRoom)

/-- The checks before a ROM is relayed. -/
def prepareRomRelayTransfer (connectionId : ConnectionId) :
    Except RomRelayBlockReason RomRelayTransferIntent := do
  let some receiverPlayerIndex := r.playerIndexForConnection connectionId | throw .wrongPlayer
  if receiverPlayerIndex = .one then throw .wrongPlayer
  if r.romRelayTransfer.isSome then throw .transferActive
  let some capability := r.session.romRelay | throw .disabled
  if !capability.available then throw (capabilityReasonToBlock capability.reason)
  let some rom := r.session.romIdentity | throw .missingIdentity
  let some sender := r.players.find? (·.role = .host) | throw .wrongPlayer
  let some receiver := r.slotForPlayer receiverPlayerIndex | throw .wrongPlayer
  if !sender.supportsRomFileRelay || !receiver.supportsRomFileRelay then throw .clientUnsupported
  let some senderConnection := sender.connectionId | throw .wrongPlayer
  let some receiverConnection := receiver.connectionId | throw .wrongPlayer
  return ⟨r.roomId, sender.playerIndex, senderConnection, receiverPlayerIndex, receiverConnection,
    rom, r.roomEpoch, r.sessionEpoch⟩

/-- The room with this transfer. -/
@[simps]
def withRomRelayTransfer (transfer : Option RomRelayTransferState) : NetplayRoom :=
  { r with romRelayTransfer := transfer }

/-- The ROM may be relayed. -/
def acceptRomRelayGrants (requestConnection : ConnectionId) (grants : RomRelayGrantPair) :
    RomRelayOutcome RomRelayGrant :=
  match r.prepareRomRelayTransfer requestConnection with
  | .error reason => (.error reason, r)
  | .ok intent =>
    (.ok grants.upload, r.withRomRelayTransfer (some
      { senderConnection := intent.senderConnection
        receiverConnection := intent.receiverConnection
        senderPlayerIndex := intent.senderPlayerIndex
        receiverPlayerIndex := intent.receiverPlayerIndex
        uploadGrant := grants.upload
        downloadGrant := grants.download
        rom := intent.rom
        uploadComplete := false
        downloadComplete := false }))

/-- An end is done. -/
def acceptRomRelayCompletion (source : ConnectionId) (completion : RomRelayCompletion) :
    RomRelayOutcome (Option (ConnectionId × RomRelayGrant)) :=
  match r.romRelayTransfer with
  | none => (.error .missingIdentity, r)
  | some transfer =>
    match transfer.acceptCompletion source completion with
    | (.error reason, transfer) => (.error reason, r.withRomRelayTransfer (some transfer))
    | (.ok peer, transfer) =>
      match completion.role with
      | .upload =>
        (.ok (some (peer, transfer.downloadGrant)), r.withRomRelayTransfer (some transfer))
      | .download => (.ok none, r.withRomRelayTransfer none)

/-- An end goes on. -/
def acceptRomRelayProgress (source : ConnectionId) (progress : RomRelayProgress) :
    Except RomRelayBlockReason Unit :=
  match r.romRelayTransfer with
  | none => .error .missingIdentity
  | some transfer =>
    if progress.transferId ≠ transfer.uploadGrant.transferId then .error .missingIdentity
    else
      let participant := match progress.role with
        | .upload => transfer.senderConnection
        | .download => transfer.receiverConnection
      if source = participant then .ok () else .error .wrongPlayer

/-- The socket is an end of the transfer. -/
def ensureRomRelayParticipant (source : ConnectionId) (transferId : Option Text) :
    Except RomRelayBlockReason Unit :=
  match r.romRelayTransfer with
  | none => .error .missingIdentity
  | some transfer =>
    if transferId.any (· ≠ transfer.uploadGrant.transferId) then .error .missingIdentity
    else if source = transfer.senderConnection ∨ source = transfer.receiverConnection then .ok ()
    else .error .wrongPlayer

/-- A failure report and a cancellation end the transfer alike. -/
def endRomRelayTransfer (source : ConnectionId) (transferId : Option Text) : RomRelayOutcome Unit :=
  match r.ensureRomRelayParticipant source transferId with
  | .error reason => (.error reason, r)
  | .ok () => (.ok (), r.withRomRelayTransfer none)

/-- A transfer fails. -/
def acceptRomRelayFailure (source : ConnectionId) (transferId : Option Text) :
    RomRelayOutcome Unit := r.endRomRelayTransfer source transferId

/-- A transfer is cancelled. -/
def acceptRomRelayCancelled (source : ConnectionId) (transferId : Option Text) :
    RomRelayOutcome Unit := r.endRomRelayTransfer source transferId

/-! ## Link cable -/

/-- The terms of the link. -/
def linkDescriptor : Except RoomError LinkCableDescriptor :=
  if r.session.mode ≠ .linkCable then .error .compatibilityMismatch
  else match r.session.link with
    | some link => .ok link
    | none => .error .compatibilityMismatch

/-- A report that fails a check takes the room back to the compatibility check. -/
@[simps]
def rejectLinkCompatibility (playerIndex : PlayerIndex) (linkCableState : LinkCableRoomState) :
    NetplayRoom :=
  { r.setPlayerStatus playerIndex .compatibilityFailed with
    linkCableState := linkCableState
    readyPlayers := r.readyPlayers.erase playerIndex
    status := .checkingCompatibility }

/-- A player's report is stored. -/
@[simps]
def storeLinkCompatibility (playerIndex : PlayerIndex) (linkCableState : LinkCableRoomState) :
    NetplayRoom :=
  { r.setPlayerStatus playerIndex .checkingCompatibility with
    linkCableState := linkCableState
    readyPlayers := r.readyPlayers.erase playerIndex }

/-- The room refuses only when it is closed or playing. -/
def setLinkCableCompatibilityForConnection (order : HashOrder) (connectionId : ConnectionId)
    (compatibility : LinkCableCompatibility) : Outcome Unit :=
  if r.status = .closed then (.error .roomClosed, r)
  else if r.status = .playing then (.error .roomNotReady, r)
  else match r.playerIndexForConnection connectionId with
    | none => (.error .unknownConnection, r)
    | some playerIndex =>
      match r.linkDescriptor with
      | .error error => (.error error, r)
      | .ok link =>
        if compatibility.protocolVersion ≠ r.protocolVersion then
          (.error .compatibilityMismatch, r.rejectLinkCompatibility playerIndex r.linkCableState)
        else match r.linkCableState.setCompatibility playerIndex link compatibility with
          | (.error error, state) => (.error error, r.rejectLinkCompatibility playerIndex state)
          | (.ok (), state) =>
            let stored := r.storeLinkCompatibility playerIndex state
            let connectedPlayers := stored.connectedPlayerIndices
            if !state.connectedPlayersHaveCompatibility connectedPlayers r.maxPlayers then
              (.ok (), stored)
            else if !state.connectedPlayersAreCompatible order connectedPlayers r.maxPlayers then
              (.error .compatibilityMismatch, stored.failCompatibility)
            else (.ok (), stored.enterSyncingState)

/-- A packet of a player. -/
def acceptLinkCablePacket (connectionId : ConnectionId) (packet : LinkCablePacket) : Outcome Unit :=
  if r.session.mode ≠ .linkCable ∨ r.status ≠ .playing then (.error .notPlaying, r)
  else match r.playerIndexForConnection connectionId with
    | none => (.error .unknownConnection, r)
    | some ownedIndex =>
      let (result, state) := r.linkCableState.acceptPacket ownedIndex packet maxLinkCablePacketBytes
      (result, { r with linkCableState := state })

/-! ## Voice -/

/-- A player's voice grant is renewed. -/
def refreshVoiceGrant (connectionId : ConnectionId) (participantIdentity token expiresAt : Text) :
    Outcome VoiceJoinGrant :=
  match r.playerIndexForConnection connectionId, r.voice with
  | none, _ => (.error .unknownConnection, r)
  | some _, none => (.error .voiceUnavailable, r)
  | some playerIndex, some voice =>
    match voice.grants.lookup playerIndex with
    | none => (.error .voiceUnavailable, r)
    | some grant =>
      if grant.participantIdentity ≠ participantIdentity then (.error .voiceUnavailable, r)
      else
        let refreshed := { grant with token := token, expiresAt := expiresAt }
        (.ok refreshed, { r with
          voice := some { voice with grants := voice.grants.insert playerIndex refreshed } })

/-- The room has a voice room. -/
@[simps]
def setVoiceState (voice : RoomVoiceState) : NetplayRoom := { r with voice := some voice }

/-- The voice room is given up. -/
@[simps]
def takeVoiceRoomIdForCleanup : NetplayRoom :=
  { r with voice := if (r.voice.bind (·.voiceRoomId)).isSome then none else r.voice }

end NetplayRoom

end NetplayRelay.Rooms
