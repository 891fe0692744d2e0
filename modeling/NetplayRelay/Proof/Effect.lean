import NetplayRelay.Proof.LaneCases
import NetplayRelay.Proof.Losses

/-!
# What a call can do

`Effect relay r op r'` lists everything a registry call can do to a room, once, with the
conditions under which it does it. All branches that leave the session alone are one constructor.
Every invariant of whole histories is an analysis of this relation.
-/

namespace NetplayRelay.Proof

open Lib Protocol Rooms Registry NetplayRoom

/-- A start is fixed on the cursors of the room. -/
def scheduleStart (r : NetplayRoom) (serverTimeMs : Nat) : NetplayRoom :=
  r.enterStartScheduled (r.startAt r.syncStartFrame serverTimeMs)

/-- A version 5 session resumes through a new start. -/
def restartSession (r : NetplayRoom) (frame serverTimeMs : Nat) : NetplayRoom :=
  (r.beginV5PauseResume frame serverTimeMs).2

/-- What a controller room asks for before it counts anybody as ready. -/
structure MayBeReady (r : NetplayRoom) : Prop where
  status : r.status = .syncingState ∨ r.status = .ready
  snapshot : r.session.mode = .controllerNetplay → r.hostSnapshotCompleted
  sockets : r.session.mode = .controllerNetplay → r.connectedPlayersHaveInputSockets

/-- Player `p` counts as ready. -/
def countReady (r : NetplayRoom) (p : PlayerIndex) : NetplayRoom :=
  { r with readyPlayers := insert p r.readyPlayers }

/-- A clock request was opened: both players are there and ready, and no start is fixed. -/
structure AsksForSamples (r : NetplayRoom) (request : ClockSyncSampleRequest) : Prop where
  none : r.clockSyncRequest = none
  count : request.requestedSampleCount = clockSyncRequestedSampleCount
  everybody : r.connectedPlayerIndices.length = r.maxPlayers
  ready : ∀ q ∈ r.connectedPlayerIndices, q ∈ r.readyPlayers

/-- The same transfer, further on. -/
structure SameRomTransfer (transfer transfer' : RomRelayTransferState) : Prop where
  sender : transfer'.senderPlayerIndex = transfer.senderPlayerIndex
    ∧ transfer'.senderConnection = transfer.senderConnection
  receiver : transfer'.receiverPlayerIndex = transfer.receiverPlayerIndex
    ∧ transfer'.receiverConnection = transfer.receiverConnection

/-- What a call that leaves the session alone does to the side data. -/
inductive Aside (r : NetplayRoom) : RoomOp → NetplayRoom → Prop
  | kept {op r'} (h : sideData r' = sideData r) : Aside r op r'
  | romGranted {c grants intent transfer r'} (hintent : r.prepareRomRelayTransfer c = .ok intent)
      (hsender : transfer.senderPlayerIndex = intent.senderPlayerIndex
        ∧ transfer.senderConnection = intent.senderConnection)
      (hreceiver : transfer.receiverPlayerIndex = intent.receiverPlayerIndex
        ∧ transfer.receiverConnection = intent.receiverConnection)
      (h : sideData r' = { sideData r with romRelayTransfer := some transfer }) :
      Aside r (.grantRomRelayUpload c grants) r'
  | romWentOn {c completion transfer transfer' r'} (htransfer : r.romRelayTransfer = some transfer)
      (hsame : SameRomTransfer transfer transfer')
      (h : sideData r' = { sideData r with romRelayTransfer := some transfer' }) :
      Aside r (.relayRomRelayCompleted c completion) r'
  | romEnded {op r'} (h : sideData r' = { sideData r with romRelayTransfer := none }) :
      Aside r op r'
  | fileGranted {c manifest grants intent r'}
      (hintent : r.prepareSnapshotFileRelayTransfer c manifest .default = .ok intent)
      (h : sideData r' = { sideData r with
        snapshotFileRelayTransfer :=
          some ⟨c, intent.receiverPlayerIndex, grants.download, manifest⟩ }) :
      Aside r (.grantSnapshotFileRelayUpload c manifest grants) r'
  | packetTaken {c packet r'} (h : sideData r' = { sideData r with
        linkCable := { r.linkCableState with
          lastSequences := r'.linkCableState.lastSequences } }) :
      Aside r (.relayLinkCablePacket c packet) r'
  | hashNoted {order c report now r'} (h : sideData r' = { sideData r with
        stateHashes := r'.stateHashes
        nextAuthoritativeStateHashFrame := r'.nextAuthoritativeStateHashFrame }) :
      Aside r (.recordStateHash order c report now) r'

/-- The session is ready; a clock sample may have been asked for. -/
structure BecomesReady (r : NetplayRoom) (p : PlayerIndex) (r' : NetplayRoom) : Prop where
  core : ∃ request, sessionCore r' = { sessionCore (countReady r p) with
    status := .ready
    clockSyncRequest := request }
  asked : r'.clockSyncRequest = r.clockSyncRequest
    ∨ ∃ request, r'.clockSyncRequest = some request ∧ AsksForSamples (countReady r p) request
  players : List.Forall₂ Keeps r.players r'.players
  vacant : VacancyKept r r'
  side : sideData r' = sideData r

/-- Legacy input moved cursors forward. -/
structure LegacyInput (r r' : NetplayRoom) : Prop where
  status : r.status = .playing ∨ r.status = .paused
  core : sessionCore r' = { sessionCore r with nextInputFrames := r'.nextInputFrames }
  players : r'.players = r.players
  forward : ∀ p, r.expectedFrame p ≤ r'.expectedFrame p
  bounded : ∀ p frame, r'.nextInputFrames.lookup p = some frame →
    r.nextInputFrames.lookup p = some frame ∨ frame ≤ u64Max
  side : sideData r' = sideData r

/-- The socket a legacy input message came in on. -/
def legacySender : RoomOp → Option ConnectionId
  | .relayInputFrame c _ | .relayInputFrameBatch c _ _ _ | .relayFastInputBatch c _ => some c
  | _ => none

/-- A legacy input message on one of the room's input sockets. -/
def fromInputSocket (r : NetplayRoom) (op : RoomOp) : Bool :=
  (legacySender op).any fun c => (r.playerIndexForInputConnection c).isSome

/-- The server's own clock went on in a legacy room: a due start begins, and one frame may be
released. -/
structure LegacyTick (r r' : NetplayRoom) : Prop where
  status : r.status = .startScheduled ∨ r.status = .playing
  playing : r'.status = .playing
  core : sessionCore r' = { sessionCore r with
    status := .playing
    session := { r.session with controller := r'.session.controller }
    roomFrame := r'.roomFrame
    releasedFrame := r'.releasedFrame
    nextReleaseFrame := r'.nextReleaseFrame }
  players : List.Forall₂ Keeps r.players r'.players
  vacant : VacancyKept r r'
  canonical : r'.roomFrame = r.roomFrame ∨ r'.roomFrame = max r.roomFrame r.nextReleaseFrame
  bounded : r'.nextReleaseFrame = r.nextReleaseFrame ∨ r'.nextReleaseFrame ≤ u64Max
  forward : r.nextReleaseFrame ≤ u64Max → r.nextReleaseFrame ≤ r'.nextReleaseFrame
  side : sideData r' = sideData r

/-- The acknowledgement is the last one an open pause waits for. -/
def completesPause (r : NetplayRoom) (c : ConnectionId) (sequence pausedAtFrame : Nat) : Bool :=
  match r.playerIndexForConnection c, r.pauseState with
  | some p, some pause => r.pauseReportIsValid pause sequence pausedAtFrame
    && (pause.acknowledge p pausedAtFrame).everyConnectedPlayerAcknowledged r.connectedPlayerIndices
  | _, _ => false

/-- The room after a clock sample of `p` was stored. -/
def withClockSample (r : NetplayRoom) (p : PlayerIndex) (sample : ClockSyncSample)
    (serverReceiveTimeMs : Nat) : NetplayRoom :=
  r.recordClockSample p sample.sampleIndex
    ((serverReceiveTimeMs - sample.serverSendTimeMs
      - (sample.clientSendTimeMs - sample.clientReceiveTimeMs)) / 2)

/-- The clock sample is the last thing a start waits for. -/
def fixesStart (r : NetplayRoom) (c : ConnectionId) (sample : ClockSyncSample)
    (serverReceiveTimeMs : Nat) : Bool :=
  match r.playerIndexForConnection c, r.clockSyncRequest with
  | some p, some request => r.connectedPlayersSupportScheduledStart && r.scheduledStart.isNone
    && sampleAnswers request sample serverReceiveTimeMs
    && (withClockSample r p sample serverReceiveTimeMs).connectedPlayersReadyForScheduling
  | _, _ => false

/-- Player `p` voted for deterministic readiness. -/
def countVote (r : NetplayRoom) (p : PlayerIndex) : NetplayRoom :=
  { r with deterministicReadyPlayers := insert p r.deterministicReadyPlayers }

/-- The vote is the last thing a start waits for. -/
def fixesStartByVote (r : NetplayRoom) (c : ConnectionId) : Bool :=
  match r.playerIndexForConnection c with
  | some p => (r.status = .ready || r.status = .startScheduled)
    && r.connectedPlayersSupportScheduledStart && r.scheduledStart.isNone
    && (countVote r p).connectedPlayersReadyForScheduling
  | none => false

/-- The vote came with the player's network report. -/
def withVote (r : NetplayRoom) (c : ConnectionId) (p : PlayerIndex)
    (network : Option ClientNetworkQualityReport) (now : Instant) : NetplayRoom :=
  (r.recordNetworkReport c none network now).recordDeterministicReady p

/-- An open pause goes on with another tracker. -/
inductive PauseNoted (r : NetplayRoom) :
    RoomOp → SessionPauseStateTracker → SessionPauseStateTracker → Prop
  | held {c id reason frame p pause} (hp : r.playerIndexForConnection c = some p) :
      PauseNoted r (.requestSessionPause c id reason frame) pause (pause.hold p id reason)
  | acknowledged {c sequence frame now p pause} (hp : r.playerIndexForConnection c = some p)
      (hvalid : r.pauseReportIsValid pause sequence frame) :
      PauseNoted r (.markSessionPauseReached c sequence frame now) pause (pause.acknowledge p frame)
  | released {c id sequence now p pause} (hp : r.playerIndexForConnection c = some p)
      (hsequence : pause.hasSequence sequence) :
      PauseNoted r (.requestSessionResume c id sequence now) pause (pause.release p id)

/-- The manifest that a report of a finished snapshot names. -/
def snapshotOf : RoomOp → Option SnapshotManifest
  | .relaySnapshotComplete _ manifest => some manifest
  | .relaySnapshotFileUploadComplete _ _ manifest => some manifest
  | _ => none

/-- The player of `slot` may come back with this request. -/
structure Returns (r : NetplayRoom) (request : PlayerReconnectRequest) (slot : PlayerSlot) :
    Prop where
  found : r.slotForPlayer request.playerIndex = some slot
  token : slot.resumeTokenHash = some request.resumeTokenHash
  awaited : slot.runnerHandoffDeadline.isSome
    ∨ (slot.connectionId = none ∧ slot.reconnectDeadline.isSome)
  epoch : request.roomEpoch = slot.reconnectRoomEpoch.getD r.roomEpoch
    ∨ request.roomEpoch = r.roomEpoch
  inTime : (slot.reconnectDeadline.all (request.now < ·))
    ∧ slot.runnerHandoffDeadline.all (request.now < ·)

/-- The pin that an open state recovery waits for: the host's, for this recovery and its frame. -/
def pinMatches (r : NetplayRoom) (c : ConnectionId) (roomEpoch sessionEpoch : Nat)
    (pin : StateRecoveryPin) : Bool :=
  r.roleForConnection c = some .host && (pin.manifest.validate .default).isOk
    && r.stateRecovery.any fun transaction => transaction.acceptsMessageEpoch roomEpoch sessionEpoch
      && transaction.recoveryId = pin.recoveryId
      && transaction.repairFrame = pin.manifest.repairFrame

/-- What a call can do to a room: one case for each way through its operation. -/
inductive Effect (relay : Relay) (r : NetplayRoom) : RoomOp → NetplayRoom → Prop
  | bookkeeping {op} {r' : NetplayRoom} (h : SameSession r r')
      (haside : Aside r op r' := by exact .kept rfl) : Effect relay r op r'
  -- joining and coming back
  | joined {key c resume input now capabilities} (hstatus : r.status ≠ .closed)
      (hempty : (r.players.find? (·.isEmpty)).isSome) :
      Effect relay r (.joinGuest key c resume input now capabilities)
        (r.updateSlot (·.isEmpty)
          (·.occupyGuest key c resume input now capabilities)).resetSyncForCheckingCompatibility
  | hostAttached {key c resume input now capabilities slot} (hstatus : r.status ≠ .closed)
      (hslot : r.players.find? (·.role = .host) = some slot) (hkey : slot.subjectKey = some key) :
      Effect relay r (.connectHost key c resume input now capabilities)
        { r.updateSlot (·.role = .host) (·.attachHost c resume input now capabilities) with
          readyPlayers := r.readyPlayers.erase slot.playerIndex }
  | handoffReconnected {request slot} (hstatus : r.status ≠ .closed)
      (hreturns : Returns r request slot) (hhandoff : slot.runnerHandoffDeadline.isSome) :
      Effect relay r (.reconnectPlayer request)
        (r.updateSlot (·.playerIndex = request.playerIndex) (·.reconnect request))
  | reconnected {request slot} (hstatus : r.status ≠ .closed) (hreturns : Returns r request slot)
      (hhandoff : slot.runnerHandoffDeadline = none) (hdeadline : slot.reconnectDeadline.isSome) :
      Effect relay r (.reconnectPlayer request)
        (r.updateSlot (·.playerIndex = request.playerIndex)
          (·.reconnect request)).restoreCheckingCompatibilityAfterRecovery
  | inputAttached {p roomEpoch sessionEpoch input c now slot}
      (hslot : r.slotForPlayer p = some slot) (hcontrol : slot.connectionId.isSome)
      (hissued : slot.inputSocketControlConnectionId = slot.connectionId)
      (htoken : slot.inputSocketTokenHash = some input)
      (hepochs : r.roomEpoch = roomEpoch ∧ r.sessionEpoch = sessionEpoch) :
      Effect relay r (.connectInputSocket p roomEpoch sessionEpoch input c now)
        (r.updateSlot (·.playerIndex = p) fun slot =>
          { slot with
            inputSocketTokenHash := none
            inputSocketControlConnectionId := none
            inputConnectionId := some c
            lastSeenAt := some now })
  -- leaving
  | exited {c now p} (hp : r.playerIndexForConnection c = some p) :
      Effect relay r (.playerExited c now)
        (({ r with status := .closed }.resetSyncState).updateOccupied
          (·.exit now)).takeVoiceRoomIdForCleanup
  | controlLost {c now} {r' : NetplayRoom}
      (h : ControlLoss r c now relay.recovery.reconnectGrace r') :
      Effect relay r (.disconnect c now) r'
  | inputLost {c now slot} (hslot : r.slotForInputConnection c = some slot)
      (hstatus : r.status.inputLossIsRecoverable → slot.connectionId = none) :
      Effect relay r (.disconnectInputSocket c now) (r.detachInputSocket c slot.playerIndex now)
  | inputAndControlLost {c control now slot} {r' : NetplayRoom}
      (hslot : r.slotForInputConnection c = some slot) (hstatus : r.status.inputLossIsRecoverable)
      (hcontrol : slot.connectionId = some control)
      (h : ControlLoss (r.detachInputSocket c slot.playerIndex now) control now
        relay.recovery.reconnectGrace r') : Effect relay r (.disconnectInputSocket c now) r'
  | pinTimedOut {now} (h : r.stateRecoveryPinExpired now) :
      Effect relay r (.sweep now) r.closeStateRecoveryRoom
  | handoffsLapsed {now closed} {r₁ r' : NetplayRoom} (hcleared : SeatsCleared r r')
      (hstatus : r'.status = if closed then .closed else .waitingForGuest)
      (hside : sideData r' = .fresh 0) (hpin : r.stateRecoveryPinExpired now = false)
      (hhandoffs : r.expireRunnerHandoffs now = (some closed, r₁)) (hr₁ : SameSession r₁ r') :
      Effect relay r (.sweep now) r'
  | heartbeatsStopped {now} {r₁ r' : NetplayRoom} (hr₁ : SameSession r r₁)
      (hdropped : StaleDropped r₁ r') : Effect relay r (.sweep now) r'
  -- compatibility
  | fingerprintRejected {order c fp p} (hmode : r.session.mode = .controllerNetplay)
      (hstatus : r.status ≠ .closed) (hp : r.playerIndexForConnection c = some p)
      (hfp : r.fingerprintMatchesSession fp = false) :
      Effect relay r (.setCompatibility order c fp) (r.rejectFingerprint p)
  | fingerprintStored {order c fp p} (hmode : r.session.mode = .controllerNetplay)
      (hstatus : r.status ≠ .closed) (hp : r.playerIndexForConnection c = some p)
      (hfp : r.fingerprintMatchesSession fp)
      (hall : (r.storeFingerprint p fp).connectedPlayersHaveFingerprints = false) :
      Effect relay r (.setCompatibility order c fp) (r.storeFingerprint p fp)
  | fingerprintsDiffer {order c fp p} (hmode : r.session.mode = .controllerNetplay)
      (hstatus : r.status ≠ .closed) (hp : r.playerIndexForConnection c = some p)
      (hfp : r.fingerprintMatchesSession fp)
      (hall : (r.storeFingerprint p fp).connectedPlayersHaveFingerprints)
      (hdiff : (r.storeFingerprint p fp).storedFingerprintsMismatch order) :
      Effect relay r (.setCompatibility order c fp) (r.storeFingerprint p fp).failCompatibility
  | fingerprintsAgree {order c fp p} (hmode : r.session.mode = .controllerNetplay)
      (hstatus : r.status ≠ .closed) (hp : r.playerIndexForConnection c = some p)
      (hfp : r.fingerprintMatchesSession fp)
      (hall : (r.storeFingerprint p fp).connectedPlayersHaveFingerprints)
      (hsame : (r.storeFingerprint p fp).storedFingerprintsMismatch order = false) :
      Effect relay r (.setCompatibility order c fp) (r.storeFingerprint p fp).enterSyncingState
  | linkRejected {order c compatibility p state} (hmode : r.session.mode = .linkCable)
      (hclosed : r.status ≠ .closed) (hplaying : r.status ≠ .playing)
      (hp : r.playerIndexForConnection c = some p) :
      Effect relay r (.setLinkCableCompatibility order c compatibility)
        (r.rejectLinkCompatibility p state)
  | linkStored {order c compatibility p state} (hmode : r.session.mode = .linkCable)
      (hclosed : r.status ≠ .closed) (hplaying : r.status ≠ .playing)
      (hp : r.playerIndexForConnection c = some p) :
      Effect relay r (.setLinkCableCompatibility order c compatibility)
        (r.storeLinkCompatibility p state)
  | linksDiffer {order c compatibility p state} (hmode : r.session.mode = .linkCable)
      (hclosed : r.status ≠ .closed) (hplaying : r.status ≠ .playing)
      (hp : r.playerIndexForConnection c = some p) :
      Effect relay r (.setLinkCableCompatibility order c compatibility)
        (r.storeLinkCompatibility p state).failCompatibility
  | linksAgree {order c compatibility p state} (hmode : r.session.mode = .linkCable)
      (hclosed : r.status ≠ .closed) (hplaying : r.status ≠ .playing)
      (hall : r.connectedPlayerIndices.length = r.maxPlayers)
      (hp : r.playerIndexForConnection c = some p) :
      Effect relay r (.setLinkCableCompatibility order c compatibility)
        (r.storeLinkCompatibility p state).enterSyncingState
  -- readiness and the start
  | snapshotCompleted {op manifest} (hop : snapshotOf op = some manifest)
      (hmode : r.session.mode = .controllerNetplay)
      (hstatus : r.status = .syncingState ∨ r.status = .ready)
      (hopen : r.hostSnapshotCompleted = false) (hframe : manifest.repairFrame = r.syncStartFrame)
      (hpinned : ∀ pinned, r.stateRecovery.bind (·.pinnedSnapshot) = some pinned →
        pinned = manifest) : Effect relay r op (r.completeHostSnapshot manifest)
  | becameReady {c network now p} {r' : NetplayRoom}
      (hstatus : r.status = .syncingState ∨ r.status = .ready) (h : BecomesReady r p r')
      (hmay : MayBeReady r) (hp : r.playerIndexForConnection c = some p) :
      Effect relay r (.markReady c network now) r'
  | startedNow {c network now p} {r₁ : NetplayRoom}
      (hstatus : r.status = .syncingState ∨ r.status = .ready)
      (hr₁ : Negotiated (countReady r p) r₁) (hmay : MayBeReady r)
      (hall : (countReady r p).connectedPlayersAreReady)
      (hp : r.playerIndexForConnection c = some p)
      (hunscheduled : r.connectedPlayersSupportScheduledStart = false)
      (hside : sideData r₁ = sideData r) : Effect relay r (.markReady c network now) r₁.enterPlaying
  | sampleStored {order c sample now p request} (hp : r.playerIndexForConnection c = some p)
      (hrequest : r.clockSyncRequest = some request)
      (hanswers : sampleAnswers request sample (relay.serverTimeMsAt now)) :
      Effect relay r (.recordClockSyncSample order c sample now)
        (withClockSample r p sample (relay.serverTimeMsAt now))
  | startFixedBySample {order c sample now p request} {r₁ : NetplayRoom}
      (hr₁ : Negotiated (withClockSample r p sample (relay.serverTimeMsAt now)) r₁)
      (hrequest : r.clockSyncRequest = some request) (hnone : r.scheduledStart = none)
      (hfixes : fixesStart r c sample (relay.serverTimeMsAt now))
      (hp : r.playerIndexForConnection c = some p) (hside : sideData r₁ = sideData r) :
      Effect relay r (.recordClockSyncSample order c sample now)
        (scheduleStart r₁ (relay.serverTimeMsAt now))
  | voteCounted {order c network now p} (hstatus : r.status = .ready ∨ r.status = .startScheduled)
      (hp : r.playerIndexForConnection c = some p) :
      Effect relay r (.markDeterministicReady order c network now) (withVote r c p network now)
  | startFixedByVote {order c network now p} {r₁ : NetplayRoom}
      (hr₁ : Negotiated (countVote r p) r₁)
      (hstatus : r.status = .ready ∨ r.status = .startScheduled) (hnone : r.scheduledStart = none)
      (hready : (countVote r p).connectedPlayersReadyForScheduling) (hfixes : fixesStartByVote r c)
      (hp : r.playerIndexForConnection c = some p) (hside : sideData r₁ = sideData r) :
      Effect relay r (.markDeterministicReady order c network now)
        (scheduleStart r₁ (relay.serverTimeMsAt now))
  -- pauses
  | pauseOpened {c id reason frame p} (hstatus : r.status = .playing ∨ r.status = .paused)
      (hnone : r.pauseState = none) :
      Effect relay r (.requestSessionPause c id reason frame) (openPause r id reason p frame)
  | pauseNoted {op pause pause'} (hpause : r.pauseState = some pause)
      (hnoted : PauseNoted r op pause pause') :
      Effect relay r op { r with pauseState := some pause' }
  | paused {c sequence frame now p pause} (hp : r.playerIndexForConnection c = some p)
      (hpause : r.pauseState = some pause) (hcompletes : completesPause r c sequence frame)
      (hheld : (pause.acknowledge p frame).hasHolders) :
      Effect relay r (.markSessionPauseReached c sequence frame now)
        { r with pauseState := some (pause.acknowledge p frame) }.enterPaused
  | pauseEndedByLast {c sequence frame now p pause} (hp : r.playerIndexForConnection c = some p)
      (hpause : r.pauseState = some pause) (hcompletes : completesPause r c sequence frame)
      (hlegacy : r.usesStrictControllerInput = false) :
      Effect relay r (.markSessionPauseReached c sequence frame now) r.resumePlaying
  | restartedByLast {c sequence frame now p pause} (hp : r.playerIndexForConnection c = some p)
      (hpause : r.pauseState = some pause) (hcompletes : completesPause r c sequence frame)
      (hstrict : r.usesStrictControllerInput)
      (hfree : (pause.acknowledge p frame).hasHolders = false) :
      Effect relay r (.markSessionPauseReached c sequence frame now)
        (restartSession r (pause.acknowledge p frame).resumeAtFrame (relay.serverTimeMsAt now))
  | pauseEnded {c id sequence now p pause} (hp : r.playerIndexForConnection c = some p)
      (hpause : r.pauseState = some pause) (hstatus : r.status = .paused)
      (hlegacy : r.usesStrictControllerInput = false) :
      Effect relay r (.requestSessionResume c id sequence now) r.resumePlaying
  | restarted {c id sequence now p pause} (hp : r.playerIndexForConnection c = some p)
      (hpause : r.pauseState = some pause) (hstatus : r.status = .paused)
      (hstrict : r.usesStrictControllerInput) (hfree : (pause.release p id).hasHolders = false) :
      Effect relay r (.requestSessionResume c id sequence now)
        (restartSession r (pause.release p id).resumeAtFrame (relay.serverTimeMsAt now))
  -- input and frames
  | inputAccepted {c batch last next} (hstrict : r.usesStrictControllerInput)
      (hstatus : r.status.acceptsStrictInput) (hforward : r.expectedFrame batch.playerIndex < next)
      (hbound : next ≤ u64Max)
      (hwindow : next ≤ r.nextReleaseFrame + v5MaxFutureFrameDistance + 1) :
      Effect relay r (.relayStrictInputBatch c batch) (r.recordInput batch.playerIndex last next)
  | openHeld {c frameOpen now start} (hstatus : r.status = .startScheduled)
      (hstart : r.scheduledStart = some start) (hframe : frameOpen.frame = start.startFrame)
      (hnext : frameOpen.frame = r.nextReleaseFrame) (hcovers : r.hostInputCovers frameOpen.frame)
      (hallowed : OpenAllowed r c frameOpen) :
      Effect relay r (.relayHostFrameOpen c frameOpen now)
        (r.holdHostFrame frameOpen.frame)
  | frameReleased {c frameOpen now} (hstatus : r.status = .playing)
      (hnext : frameOpen.frame = r.nextReleaseFrame) (hcovers : r.hostInputCovers frameOpen.frame)
      (hallowed : OpenAllowed r c frameOpen) :
      Effect relay r (.relayHostFrameOpen c frameOpen now) (r.releaseFrame frameOpen.frame)
  | openedByHost {c frameOpen now start} (hstatus : r.status = .startScheduled)
      (hnext : frameOpen.frame = r.nextReleaseFrame) (hcovers : r.hostInputCovers frameOpen.frame)
      (hstart : r.scheduledStart = some start) (hframe : frameOpen.frame = start.startFrame)
      (hdue : start.serverTimeMs ≤ relay.serverTimeMsAt now)
      (hallowed : OpenAllowed r c frameOpen) :
      Effect relay r (.relayHostFrameOpen c frameOpen now)
        (r.enterPlaying.releaseFrame frameOpen.frame)
  | openedByTimer {roomEpoch sessionEpoch frame now start} (hstatus : r.status = .startScheduled)
      (hpending : r.pendingHostFrameOpen = some frame) (hstart : r.scheduledStart = some start)
      (hdue : start.serverTimeMs ≤ relay.serverTimeMsAt now)
      (hepochs : r.roomEpoch = roomEpoch ∧ r.sessionEpoch = sessionEpoch) :
      Effect relay r (.releaseScheduledV5HostFrame roomEpoch sessionEpoch frame now)
        ({ r with pendingHostFrameOpen := none }.enterPlaying.releaseFrame frame)
  | legacyInput {op} {r' : NetplayRoom} (h : LegacyInput r r') (hsender : fromInputSocket r op) :
      Effect relay r op r'
  | legacyTick {now} {r' : NetplayRoom} (hlegacy : r.usesStrictControllerInput = false)
      (h : LegacyTick r r') : Effect relay r (.releaseNextControllerFrame now) r'
  -- state hashes and state recovery
  | resynced {order c report now} {r₁ : NetplayRoom} (hr₁ : SameSession r r₁)
      (hstatus : r.status = .playing ∨ r.status = .paused)
      (hlegacy : r.usesStrictControllerInput = false) :
      Effect relay r (.recordStateHash order c report now) (r₁.enterStateHashResync report.frame)
  | recoveryPrepared {order c report now} {r₁ : NetplayRoom} {mismatch} (hr₁ : SameSession r r₁)
      (hstatus : r.status = .playing ∨ r.status = .paused) (hstrict : r.usesStrictControllerInput)
      (hnone : r.stateRecovery = none) (hframe : mismatch.repairFrame = report.frame)
      (hattempts : (r.openStateRecovery mismatch now).stateRecoveryStartedAt.length
        < stateRecoveryMaxAttempts)
      (hside : sideData r₁ = { sideData r with stateHashes := r₁.stateHashes }) :
      Effect relay r (.recordStateHash order c report now)
        ((r₁.openStateRecovery mismatch now).enterRepairingState mismatch.repairFrame now)
  | recoveryLimited {order c report now} {r₁ : NetplayRoom} {mismatch} (hr₁ : SameSession r r₁)
      (hstatus : r.status = .playing ∨ r.status = .paused) (hstrict : r.usesStrictControllerInput)
      (hnone : r.stateRecovery = none) (hframe : mismatch.repairFrame = report.frame)
      (hattempts : stateRecoveryMaxAttempts
        ≤ (r.openStateRecovery mismatch now).stateRecoveryStartedAt.length)
      (hside : sideData r₁ = { sideData r with stateHashes := r₁.stateHashes }) :
      Effect relay r (.recordStateHash order c report now)
        (r₁.openStateRecovery mismatch now).closeStateRecoveryRoom
  | pinned {c roomEpoch sessionEpoch pin transaction} (hstatus : r.status = .repairingState)
      (hstrict : r.usesStrictControllerInput) (hpin : pinMatches r c roomEpoch sessionEpoch pin)
      (htransaction : r.stateRecovery = some transaction) (hpreparing : transaction.isPreparing) :
      Effect relay r (.pinStateRecovery c roomEpoch sessionEpoch pin)
        (r.commitStateRecovery transaction pin.manifest)

end NetplayRelay.Proof
