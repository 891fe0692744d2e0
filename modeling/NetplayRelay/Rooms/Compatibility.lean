import NetplayRelay.Rooms.Room

/-!
# Compatibility and readiness

Fingerprints are checked against the session descriptor when they arrive and against each
other once both players have one. Readiness then starts the session, directly for clients
without scheduled starts, and picks the initial input delay from the latest health reports.
-/

namespace NetplayRelay.Rooms

open Lib Protocol

/-! ## Initial input delay -/

/-- The least delay. -/
def minAutomaticInputDelayFrames : Nat := 2
/-- Added for safety. -/
def latencySafetyFrames : Nat := 1
/-- A player this far ahead calls for more delay. -/
def highPredictionPressureFrames : Nat := 45
/-- How long a report counts. -/
def healthSampleFreshness : Duration := secs 10
/-- Sixty frames a second. -/
def defaultNominalFrameRate : Nat × Nat := (60, 1)

/-- Largest value of a `u32`. -/
abbrev u32Max : Nat := 4294967295

/-- Largest value of a `u8`. -/
abbrev u8Max : Nat := 255

/-- Largest value of a `u128`. -/
abbrev u128Max : Nat := 340282366920938463463374607431768211455

/-- The report still counts. -/
def isFresh (reportedAt : Option Instant) (now : Instant) : Bool :=
  reportedAt.any fun reportedAt => now - reportedAt ≤ healthSampleFreshness

/-- Clamp a delay to the range the relay picks from. -/
def clampDelay (frames : Nat) : Nat :=
  min (max frames minAutomaticInputDelayFrames) maxControllerInputDelayFrames

/-- Milliseconds in frames, rounded up. The products are taken in `u128`. -/
def framesForMsAtRate (milliseconds numerator denominator : Nat) : Nat :=
  let dividend := satMul u128Max milliseconds numerator
  let divisor := max (satMul u128Max 1000 denominator) 1
  min ((dividend + divisor - 1) / divisor) maxControllerInputDelayFrames

/-- The frames in some milliseconds. -/
def framesForMs (milliseconds : Nat) : Nat :=
  framesForMsAtRate milliseconds defaultNominalFrameRate.1 defaultNominalFrameRate.2

/-- The delay that a report calls for. -/
def delayForReport (report : ClientNetworkQualityReport) : Option Nat :=
  report.roundTripMs.map fun roundTripMs =>
    let oneWayMs := satAdd u32Max roundTripMs 1 / 2
    let jitterMs := report.jitterMs.getD 0
    let runtimePressure :=
      if report.lateInputFrames.getD 0 > 0 || report.predictionFrames.getD 0 ≥ 30 then 1 else 0
    clampDelay (satAdd u8Max
      (satAdd u8Max (framesForMs (satAdd u32Max oneWayMs jitterMs)) latencySafetyFrames)
      runtimePressure)

/-- What the connected slots ask for: whether any sample was seen, how many fresh network
reports there were, and the largest delay. -/
structure DelaySamples where
  sawSample : Bool
  freshNetworkSampleCount : Nat
  target : Nat

/-- A player's reports are added. -/
def DelaySamples.add (baselineFrame : Nat) (now : Instant) (acc : DelaySamples)
    (player : PlayerSlot) : DelaySamples :=
  let acc := match (player.latestNetworkReport.filter
      fun _ => isFresh player.latestNetworkReportedAt now).bind delayForReport with
    | some reportDelay => ⟨true, acc.freshNetworkSampleCount + 1, max acc.target reportDelay⟩
    | none => acc
  match player.latestLocalFrame.filter fun _ => isFresh player.latestLocalFrameReportedAt now with
  | some localFrame =>
    if localFrame - baselineFrame ≥ highPredictionPressureFrames then
      { acc with
        sawSample := true
        target := max acc.target (satAdd u8Max defaultControllerInputDelayFrames 1) }
    else acc
  | none => acc

/-- The legacy initial delay, when the reports call for a change of the current one. -/
def initialDecision (currentDelay : Nat) (players : List PlayerSlot) (roomFrame : Nat)
    (releasedFrame : Option Nat) (now : Instant) : Option Nat :=
  let connectedPlayers := players.filter (·.isConnected)
  let samples := connectedPlayers.foldl (DelaySamples.add (releasedFrame.getD roomFrame) now)
    ⟨false, 0, minAutomaticInputDelayFrames⟩
  let target := clampDelay samples.target
  if connectedPlayers.isEmpty || !samples.sawSample then none
  else if target = currentDelay then none
  else if target < currentDelay ∧ samples.freshNetworkSampleCount ≠ connectedPlayers.length then
    none
  else some target

/-- The fresh and complete network report of a slot. -/
def completeReport (now : Instant) (player : PlayerSlot) : Option ClientNetworkQualityReport :=
  player.latestNetworkReport.filter fun report =>
    isFresh player.latestNetworkReportedAt now && report.roundTripMs.isSome
      && report.jitterMs.isSome

/-- The version 5 initial delay, when every connected player has a complete report and the
result differs from the current delay. -/
def initialV5Decision (currentDelay : Nat) (players : List PlayerSlot)
    (nominalFrameRate : Option (Nat × Nat)) (now : Instant) : Option Nat :=
  let connectedPlayers := players.filter (·.isConnected)
  if connectedPlayers.isEmpty then none
  else match connectedPlayers.mapM (completeReport now) with
    | none => none
    | some reports =>
      let rate := (nominalFrameRate.filter fun rate => rate.1 > 0 && rate.2 > 0).getD
        defaultNominalFrameRate
      let pathBudgetMs := reports.foldl (fun budget report =>
        satAdd u64Max (satAdd u64Max budget (satAdd u64Max (report.roundTripMs.getD 0) 1 / 2))
          (report.jitterMs.getD 0)) 0
      let target := clampDelay (satAdd u8Max (framesForMsAtRate pathBudgetMs rate.1 rate.2)
        latencySafetyFrames)
      if target ≠ currentDelay then some target else none

namespace NetplayRoom

variable (r : NetplayRoom)

/-- The room with this delay. -/
@[simps]
def withInputDelay (inputDelayFrames : Nat) : NetplayRoom :=
  { r with session := { r.session with controller := ⟨inputDelayFrames⟩ } }

/-- The delay of an immediate start. -/
def applyInitialAdaptiveInputDelay (now : Instant) : NetplayRoom :=
  match initialDecision r.session.controller.inputDelayFrames r.players r.roomFrame
      r.releasedFrame now with
  | some inputDelayFrames => r.withInputDelay inputDelayFrames
  | none => r

/-- The first stored fingerprint with a valid determinism profile. -/
def firstDeterminismProfile (order : HashOrder) : Option DeterminismProfileV5 :=
  (r.compatibility.values order).findSome? (·.validDeterminismV5)

/-- The delay of a strict start. -/
def applyInitialV5InputDelay (order : HashOrder) (now : Instant) : NetplayRoom :=
  if !r.usesStrictControllerInput then r
  else
    let nominalFrameRate := (r.firstDeterminismProfile order).map fun profile =>
      (profile.nominalFrameRateNumerator, profile.nominalFrameRateDenominator)
    match initialV5Decision r.session.controller.inputDelayFrames r.players nominalFrameRate
      now with
    | some inputDelayFrames => r.withInputDelay inputDelayFrames
    | none => r

/-! ## Fingerprints -/

/-- The state format is the session's. -/
def fingerprintStateFormatMatchesSession (fingerprint : CompatibilityFingerprint) : Bool :=
  match r.session.core.stateFormat with
  | some stateFormat => fingerprint.stateFormat = some stateFormat
  | none => true

/-- The fingerprint fits the session. -/
def fingerprintMatchesSession (fingerprint : CompatibilityFingerprint) : Bool :=
  let legacyFieldsMatch := fingerprint.protocolVersion = r.protocolVersion
    && fingerprint.systemId = r.session.game.systemId
    && fingerprint.coreId = r.session.core.coreId
    && r.fingerprintStateFormatMatchesSession fingerprint
    && fingerprint.contentHash.eqIgnoreAsciiCase r.session.game.romSha256
  if !legacyFieldsMatch || !r.usesStrictControllerInput then legacyFieldsMatch
  else match fingerprint.validDeterminismV5, r.session.romIdentity with
    | some profile, some romIdentity =>
      profile.romSizeBytes = romIdentity.sizeBytes
        && fingerprint.settingsHash.eqIgnoreAsciiCase profile.coreOptionsDigest
        && r.session.core.coreOptionsSha256.all (·.eqIgnoreAsciiCase profile.coreOptionsDigest)
    | _, _ => false

/-- A fingerprint that does not fit the session: the player's entry and the transfers go. -/
@[simps]
def rejectFingerprint (playerIndex : PlayerIndex) : NetplayRoom :=
  { r.setPlayerStatus playerIndex .compatibilityFailed with
    compatibility := r.compatibility.erase playerIndex
    readyPlayers := r.readyPlayers.erase playerIndex
    snapshotTransfer := none
    snapshotFileRelayTransfer := none
    romRelayTransfer := none
    status := .checkingCompatibility }

/-- A fingerprint that fits the session is stored with its content hash in lower case. -/
@[simps]
def storeFingerprint (playerIndex : PlayerIndex) (fingerprint : CompatibilityFingerprint) :
    NetplayRoom :=
  { r.setPlayerStatus playerIndex .checkingCompatibility with
    compatibility := r.compatibility.insert playerIndex
      { fingerprint with contentHash := fingerprint.contentHash.toAsciiLowercase }
    readyPlayers := r.readyPlayers.erase playerIndex }

/-- The stored entries do not agree with each other. -/
@[simps]
def failCompatibility : NetplayRoom :=
  { r.updateOccupied (·.enter .compatibilityFailed .connected) with
    status := .checkingCompatibility }

/-- Both players are compatible: the host's state is synchronised next. -/
@[simps]
def enterSyncingState : NetplayRoom :=
  { r.updateConnected (·.enter .syncingState .syncing) with status := .syncingState }

/-- Some stored fingerprint differs from the one the map yields first. -/
def storedFingerprintsMismatch (order : HashOrder) : Bool :=
  match r.compatibility.values order with
  | [] => false
  | baseline :: others => others.any fun candidate => (baseline.firstMismatch candidate).isSome

/-- There is no check of the current status here beyond the closed room. -/
def setCompatibilityForConnection (order : HashOrder) (connectionId : ConnectionId)
    (fingerprint : CompatibilityFingerprint) : Outcome Unit :=
  if r.session.mode ≠ .controllerNetplay then (.error .compatibilityMismatch, r)
  else if r.status = .closed then (.error .roomClosed, r)
  else match r.playerIndexForConnection connectionId with
    | none => (.error .unknownConnection, r)
    | some playerIndex =>
      if !r.fingerprintMatchesSession fingerprint then
        (.error .compatibilityMismatch, r.rejectFingerprint playerIndex)
      else
        let stored := r.storeFingerprint playerIndex fingerprint
        if !stored.connectedPlayersHaveFingerprints then (.ok (), stored)
        else if stored.storedFingerprintsMismatch order then
          (.error .compatibilityMismatch, stored.failCompatibility)
        else (.ok (), stored.enterSyncingState)

/-! ## Readiness -/

/-- The session runs; a finished state recovery is over. -/
@[simps]
def enterPlaying : NetplayRoom :=
  { r.updateConnected (·.enter .playing .playing) with
    status := .playing
    stateRecovery := none }

/-- A player is ready. -/
@[simps]
def recordReady (playerIndex : PlayerIndex) : NetplayRoom :=
  { r.setPlayerStatus playerIndex .ready with
    readyPlayers := insert playerIndex r.readyPlayers }

/-- The room is ready. -/
@[simps]
def enterReady : NetplayRoom := { r with status := .ready }

/-- One player is ready. The result says whether the session started right away. -/
def markReady (connectionId : ConnectionId) (network : Option ClientNetworkQualityReport)
    (now : Instant) : Outcome Bool :=
  if r.status ≠ .syncingState ∧ r.status ≠ .ready then (.error .roomNotReady, r)
  else if r.session.mode = .controllerNetplay ∧ !r.hostSnapshotCompleted then
    (.error .roomNotReady, r)
  else if r.session.mode = .controllerNetplay ∧ !r.connectedPlayersHaveInputSockets then
    (.error .roomNotReady, r)
  else match r.playerIndexForConnection connectionId with
    | none => (.error .unknownConnection, r)
    | some playerIndex =>
      let marked := (r.recordNetworkReport connectionId none network now).recordReady playerIndex
      if !marked.connectedPlayersAreReady then (.ok false, marked.enterReady)
      else if marked.connectedPlayersSupportScheduledStart then (.ok false, marked.enterReady)
      else (.ok true, (marked.applyInitialAdaptiveInputDelay now).enterPlaying)

end NetplayRoom

end NetplayRelay.Rooms
