import NetplayRelay.Rooms.Pause

/-!
# State hashes and state recovery

Players report hashes of their emulator state. A mismatch of authoritative hashes repairs the
session: a legacy room falls back to the compatibility check, a version 5 room opens a recovery
transaction, waits for the host to pin a snapshot of the repair frame, and only then restarts
the handshake from that frame.
-/

namespace NetplayRelay.Rooms

open Lib Protocol

/-- How long hashes are kept. -/
def stateHashRetainFrames : Nat := 600
/-- The least window. -/
def stateHashMinNearbyMatchWindow : Nat := 8
/-- Added to the spread. -/
def stateHashNearbyMatchSlackFrames : Nat := 4
/-- The largest window. -/
def stateHashMaxNearbyMatchWindow : Nat := 120
/-- How long a frame report counts. -/
def stateHashFrameSampleFreshness : Duration := secs 10
/-- The mismatches before a resync. -/
def stateHashTrueMismatchesBeforeResync : Nat := 1
/-- The window of the attempts. -/
def stateRecoveryAttemptWindow : Duration := secs 60
/-- The attempts in a window. -/
def stateRecoveryMaxAttempts : Nat := 2

/-- What a report shows. -/
inductive StateHashEvaluation
  | disabled
  | pending
  | matched (frame : Nat)
  | frameSkew (mismatch : StateHashMismatchView)
  | trueMismatch (mismatch : StateHashMismatchView)
  | resyncRequired (mismatch : StateHashMismatchView)
  | recoveryPrepare (recovery : StateRecoveryView)
  | recoveryAttemptLimitExceeded (recovery : StateRecoveryView)
deriving DecidableEq

/-- Whether a repair begins. -/
inductive StateRecoveryStartOutcome
  | preparing (recovery : StateRecoveryView)
  | attemptLimitExceeded (recovery : StateRecoveryView)

/-- Statuses in which state hashes are taken. -/
def RoomStatus.acceptsStateHashes : RoomStatus → Bool
  | .startScheduled | .playing | .paused => true
  | _ => false

/-- How far frames are apart. -/
def frameSpread (frames : List Nat) : Option Nat :=
  if frames.length < 2 then none
  else match frames.min?, frames.max? with
    | some least, some greatest => some (greatest - least)
    | _, _ => none

/-- A frame some way off. -/
def offsetFrame (frame : Nat) (offset : Int) : Option Nat :=
  if offset < 0 then
    if offset.natAbs ≤ frame then some (frame - offset.natAbs) else none
  else checkedAdd u64Max frame offset.natAbs

/-- The offsets `-window ..= window` without zero. -/
def nearbyOffsets (window : Nat) : List Int :=
  ((List.range (2 * window + 1)).map fun i => (i : Int) - window).filter (· ≠ 0)

/-- The entries of a frame table from `frame` on. -/
def retainFrom (table : AList fun _ : Nat => PlayerMap Text) (frame : Nat) :
    AList fun _ : Nat => PlayerMap Text :=
  ⟨table.entries.filter fun entry => frame ≤ entry.1,
    List.NodupKeys.sublist List.filter_sublist table.nodupKeys⟩

namespace NetplayRoom

variable (r : NetplayRoom)

/-- Authoritative digests only count for SNES sessions in version 5 rooms. -/
def stateDigestMode (order : HashOrder) : StateDigestMode :=
  if !r.usesStrictControllerInput then .authoritative
  else
    let mode := ((r.firstDeterminismProfile order).map (·.digestMode)).getD .disabled
    if mode = .authoritative ∧ r.session.game.systemId ≠ "snes".toList then .disabled else mode

/-! ## Recovery transactions -/

/-- The repair failed, and the room closes. -/
@[simps]
def closeStateRecoveryRoom : NetplayRoom :=
  { r.updateOccupied (·.enter .disconnected .disconnected) with
    status := .closed
    pendingHostFrameOpen := none
    scheduledStart := none }

/-- A recovery transaction is opened on the current epochs; old attempts leave the window. -/
@[simps]
def openStateRecovery (mismatch : StateHashMismatchView) (now : Instant) : NetplayRoom :=
  { r with
    stateRecoveryStartedAt :=
      r.stateRecoveryStartedAt.filter fun startedAt => now - startedAt < stateRecoveryAttemptWindow
    nextStateRecoveryId := satAdd u64Max r.nextStateRecoveryId 1
    stateRecovery := some
      (.preparing r.nextStateRecoveryId mismatch r.roomEpoch r.sessionEpoch now) }

/-- The session is frozen until the host pins its repair state. -/
@[simps]
def enterRepairingState (repairFrame : Nat) (now : Instant) : NetplayRoom :=
  { r.updateConnected (·.enter .paused .pausing) with
    stateRecoveryStartedAt := r.stateRecoveryStartedAt ++ [now]
    nextAuthoritativeStateHashFrame := nextAuthoritativeCheckpointAfter repairFrame
    status := .repairingState
    pendingHostFrameOpen := none
    scheduledStart := none }

/-- A repair begins. -/
def beginV5StateRecovery (mismatch : StateHashMismatchView) (now : Instant) :
    Outcome StateRecoveryStartOutcome :=
  if !r.usesStrictControllerInput || r.stateRecovery.isSome then (.error .roomNotReady, r)
  else
    let opened := r.openStateRecovery mismatch now
    let transaction := StateRecoveryTransaction.preparing r.nextStateRecoveryId mismatch
      r.roomEpoch r.sessionEpoch now
    if opened.stateRecoveryStartedAt.length ≥ stateRecoveryMaxAttempts then
      (.ok (.attemptLimitExceeded transaction.view), opened.closeStateRecoveryRoom)
    else (.ok (.preparing transaction.view), opened.enterRepairingState mismatch.repairFrame now)

/-- The pinned snapshot is fixed and the handshake restarts from the repair frame. -/
@[simps]
def commitStateRecovery (transaction : StateRecoveryTransaction) (manifest : SnapshotManifest) :
    NetplayRoom :=
  let reset := (r.resetSyncStateTo transaction.repairFrame).bumpSessionEpoch
  { reset.updateConnected (·.enter .connected .connected) with
    stateRecovery := some (transaction.commit manifest)
    status := .checkingCompatibility }

/-- The host's pin. -/
def acceptV5StateRecoveryPinForEpoch (connectionId : ConnectionId) (roomEpoch sessionEpoch : Nat)
    (pin : StateRecoveryPin) (limits : SnapshotLimits) : Outcome StateRecoveryView :=
  if !r.usesStrictControllerInput then (.error .roomNotReady, r)
  else match r.roleForConnection connectionId with
    | none => (.error .unknownConnection, r)
    | some .guest => (.error .hostOnly, r)
    | some .host =>
      if !(pin.manifest.validate limits).isOk then (.error .snapshotInvalid, r)
      else match r.stateRecovery with
        | none => (.error .roomNotReady, r)
        | some transaction =>
          if !transaction.acceptsMessageEpoch roomEpoch sessionEpoch then
            (.error (if roomEpoch ≠ r.roomEpoch then .staleRoomEpoch else .staleSessionEpoch), r)
          else if transaction.recoveryId ≠ pin.recoveryId
              ∨ transaction.repairFrame ≠ pin.manifest.repairFrame then (.error .snapshotInvalid, r)
          else if !transaction.isPreparing then
            if transaction.pinnedSnapshot = some pin.manifest then (.ok transaction.view, r)
            else (.error .snapshotInvalid, r)
          else if r.status ≠ .repairingState then (.error .roomNotReady, r)
          else (.ok (transaction.commit pin.manifest).view,
            r.commitStateRecovery transaction pin.manifest)

/-- The pin did not come in time. -/
def stateRecoveryPinExpired (now : Instant) : Bool := r.stateRecovery.any (·.isExpired now)

/-- Without its pin the repair fails. -/
def closeExpiredStateRecovery (now : Instant) : Bool × NetplayRoom :=
  if !r.stateRecoveryPinExpired now then (false, r) else (true, r.closeStateRecoveryRoom)

/-- Snapshots of a committed recovery have to be the pinned one. -/
def validateV5RecoverySnapshot (manifest : SnapshotManifest) : Except RoomError Unit :=
  match r.stateRecovery.bind (·.pinnedSnapshot) with
  | none => .ok ()
  | some expected => if expected = manifest then .ok () else .error .snapshotInvalid

/-- The piece is of the pinned snapshot. -/
def validateV5RecoverySnapshotChunk (chunk : SnapshotChunk) : Except RoomError Unit :=
  match r.stateRecovery.bind (·.pinnedSnapshot) with
  | none => .ok ()
  | some expected =>
    if expected.snapshotId = chunk.snapshotId ∧ expected.repairFrame = chunk.repairFrame then .ok ()
    else .error .snapshotInvalid

/-! ## Reports -/

/-- How far the players are apart. -/
def freshLocalFrameSpread (now : Instant) : Option Nat :=
  let connectedSlots := r.players.filter (·.isConnected)
  let frames := connectedSlots.filterMap fun slot =>
    slot.latestLocalFrameReportedAt.bind fun reportedAt =>
      if now - reportedAt > stateHashFrameSampleFreshness then none else slot.latestLocalFrame
  if frames.length = connectedSlots.length then frameSpread frames else none

/-- How far their input is apart. -/
def acceptedInputFrameSpread : Option Nat :=
  frameSpread (r.connectedPlayerIndices.filterMap fun p => r.lastInputFrames.lookup p)

/-- The window, by both spreads. -/
def dynamicNearbyStateHashWindow (now : Instant) : Nat :=
  let observedSpread :=
    ([r.freshLocalFrameSpread now, r.acceptedInputFrameSpread].filterMap id).foldl max 0
  min (max (satAdd u64Max observedSpread stateHashNearbyMatchSlackFrames)
    stateHashMinNearbyMatchWindow) stateHashMaxNearbyMatchWindow

/-- Equal hashes nearby. -/
def nearbyStateHashMatches (frame : Nat) (hashes : List PlayerStateHashView) (window : Nat) :
    List NearbyStateHashMatchView :=
  hashes.flatMap fun source => (hashes.filter fun target =>
      target.playerIndex ≠ source.playerIndex).flatMap fun target =>
    (nearbyOffsets window).filterMap fun offset =>
      (offsetFrame frame offset).bind fun matchedFrame =>
        if ((r.stateHashes.lookup matchedFrame).bind fun frameHashes =>
            frameHashes.lookup target.playerIndex) = some source.sha256 then
          some ⟨source.playerIndex, frame, target.playerIndex, matchedFrame, offset⟩
        else none

/-- The player's hash for a frame is stored in lower case. -/
@[simps]
def storeStateHash (playerIndex : PlayerIndex) (report : StateHashReport) : NetplayRoom :=
  let frameHashes := (r.stateHashes.lookup report.frame).getD ∅
  { r with
    stateHashes := r.stateHashes.insert report.frame
      (frameHashes.insert playerIndex report.sha256.toAsciiLowercase) }

/-- Old hashes are dropped. -/
@[simps]
def pruneStateHashes (frame : Nat) : NetplayRoom :=
  { r with stateHashes := retainFrom r.stateHashes (frame - stateHashRetainFrames) }

/-- The states agree. -/
@[simps]
def recordStateHashMatch (frame : Nat) (authoritativeV5 : Bool) : NetplayRoom :=
  { r with
    stateHashTrueMismatchStreak := 0
    nextAuthoritativeStateHashFrame :=
      if authoritativeV5 then satAdd u64Max frame authoritativeStateHashIntervalFrames
      else r.nextAuthoritativeStateHashFrame }

/-- The states differ. -/
@[simps]
def recordStateHashTrueMismatch : NetplayRoom :=
  { r with stateHashTrueMismatchStreak := satAdd u8Max r.stateHashTrueMismatchStreak 1 }

/-- The legacy repair: back to the compatibility check at the repair frame, one session later. -/
@[simps]
def enterStateHashResync (repairFrame : Nat) : NetplayRoom :=
  let reset := (r.resetSyncStateTo repairFrame).bumpSessionEpoch
  { reset.updateConnected (·.enter .connected .connected) with status := .checkingCompatibility }

/-- A difference is repaired. -/
def beginAuthoritativeRecovery (mismatch : StateHashMismatchView) (now : Instant) :
    Outcome StateHashEvaluation :=
  if r.usesStrictControllerInput then
    match r.beginV5StateRecovery mismatch now with
    | (.error error, r) => (.error error, r)
    | (.ok (.preparing recovery), r) => (.ok (.recoveryPrepare recovery), r)
    | (.ok (.attemptLimitExceeded recovery), r) => (.ok (.recoveryAttemptLimitExceeded recovery), r)
  else (.ok (.resyncRequired mismatch), r.enterStateHashResync mismatch.repairFrame)

/-- The reported hashes differ. -/
def judgeMismatch (mismatch : StateHashMismatchView) (digestMode : StateDigestMode)
    (now : Instant) : Outcome StateHashEvaluation :=
  let recorded := r.recordStateHashTrueMismatch
  if digestMode = .authoritative
      ∧ recorded.stateHashTrueMismatchStreak ≥ stateHashTrueMismatchesBeforeResync then
    recorded.beginAuthoritativeRecovery mismatch now
  else if !mismatch.nearbyMatches.isEmpty then (.ok (.frameSkew mismatch), recorded)
  else (.ok (.trueMismatch mismatch), recorded)

/-- Every connected player has reported the frame: the verdict. -/
def judgeStateHashes (report : StateHashReport) (digestMode : StateDigestMode)
    (frameHashes : PlayerMap Text) (now : Instant) : Outcome StateHashEvaluation :=
  let authoritativeV5 := r.usesStrictControllerInput && digestMode = .authoritative
  let hashes := (r.connectedPlayerIndices.filterMap fun p =>
    (frameHashes.lookup p).map fun sha256 => (⟨p, sha256⟩ : PlayerStateHashView)).insertionSort
      fun a b => a.playerIndex.zeroBased ≤ b.playerIndex.zeroBased
  let nearbyMatches := if authoritativeV5 then []
    else r.nearbyStateHashMatches report.frame hashes (r.dynamicNearbyStateHashWindow now)
  let pruned := r.pruneStateHashes report.frame
  match hashes with
  | [] => (.ok .pending, pruned)
  | first :: _ =>
    if hashes.all fun hash => hash.sha256 = first.sha256 then
      (.ok (.matched report.frame), pruned.recordStateHashMatch report.frame authoritativeV5)
    else pruned.judgeMismatch ⟨report.frame, report.frame, hashes, nearbyMatches⟩ digestMode now

/-- The check of the report's frame against the next authoritative checkpoint: an early answer,
or `none` to go on. -/
def checkpointVerdict (frame : Nat) : Option (Except RoomError StateHashEvaluation) :=
  if frame = 0 ∨ frame % authoritativeStateHashIntervalFrames ≠ 0 then some (.error .invalidPayload)
  else if frame < r.nextAuthoritativeStateHashFrame then some (.ok .pending)
  else if frame ≠ r.nextAuthoritativeStateHashFrame then some (.error .invalidPayload)
  else none

/-- A player's state hash. -/
def acceptStateHash (order : HashOrder) (connectionId : ConnectionId) (report : StateHashReport)
    (now : Instant) : Outcome StateHashEvaluation :=
  let digestMode := r.stateDigestMode order
  let authoritativeV5 := r.usesStrictControllerInput && digestMode = .authoritative
  if !r.status.acceptsStateHashes then (.error .notPlaying, r)
  else if digestMode = .disabled then (.ok .disabled, r)
  else if !report.validate.isOk then (.error .invalidPayload, r)
  else match r.playerIndexForConnection connectionId with
    | none => (.error .unknownConnection, r)
    | some playerIndex =>
      if r.status = .startScheduled then (.ok .pending, r)
      else match if authoritativeV5 then r.checkpointVerdict report.frame else none with
        | some verdict => (verdict, r)
        | none =>
          let stored := r.storeStateHash playerIndex report
          let frameHashes := (stored.stateHashes.lookup report.frame).getD ∅
          if !stored.connectedPlayerIndices.all fun p => (frameHashes.lookup p).isSome then
            (.ok .pending, stored)
          else stored.judgeStateHashes report digestMode frameHashes now

end NetplayRoom

end NetplayRelay.Rooms
