import NetplayRelay.Rooms.Compatibility

/-!
# Scheduled starts

Clients that support it start on a common server time: the relay asks each for clock samples,
collects their deterministic readiness, and then fixes a start far enough in the future to
cover the clock uncertainty it measured.
-/

namespace NetplayRelay.Rooms

open Lib Protocol

/-- The samples asked for. -/
def clockSyncRequestedSampleCount : Nat := 2
/-- Added for safety. -/
def clockSyncSafetyMarginMs : Nat := 100
/-- The least delay before a start. -/
def scheduledStartMinimumDelayMs : Nat := 3000

/-- Whether a start was fixed. -/
inductive StartSyncOutcome
  | waiting
  | scheduled (start : ScheduledSessionStart)
deriving DecidableEq

/-- The text `clock-{room}-{session}-{n}`. -/
def clockSyncRequestId (roomEpoch sessionEpoch n : Nat) : Text :=
  "clock-".toList ++ Nat.toDigits 10 roomEpoch ++ ['-'] ++ Nat.toDigits 10 sessionEpoch ++ ['-']
    ++ Nat.toDigits 10 n

/-- The uncertainties, in milliseconds, that one health report contributes. -/
def reportUncertainties (report : ClientNetworkQualityReport) : List Nat :=
  [report.clockUncertaintyMs, report.jitterMs, report.roundTripMs.map (· / 2)].filterMap id

namespace NetplayRoom

variable (r : NetplayRoom)

/-- How far the clocks may be apart. -/
def scheduledStartUncertaintyBudget : Nat :=
  let clockBudget := (r.clockUncertaintyByPlayer.entries.map (·.2)).foldl max 0
  let networkBudget :=
    ((r.players.filterMap (·.latestNetworkReport)).flatMap reportUncertainties).foldl max 0
  max clockBudget networkBudget

/-- A start at `startFrame`, on the current epochs, late enough for the measured uncertainty. -/
def startAt (startFrame serverTimeMs : Nat) : ScheduledSessionStart :=
  let uncertaintyMs := r.scheduledStartUncertaintyBudget
  let selectedDelayMs := max scheduledStartMinimumDelayMs
    (satAdd u64Max uncertaintyMs clockSyncSafetyMarginMs)
  { roomEpoch := r.roomEpoch
    sessionEpoch := r.sessionEpoch
    startFrame := startFrame
    serverTimeMs := satAdd u64Max serverTimeMs selectedDelayMs
    createdAtServerTimeMs := serverTimeMs
    minimumStartDelayMs := scheduledStartMinimumDelayMs
    clockUncertaintyBudgetMs := uncertaintyMs }

/-- A strict session's next start. -/
def scheduleV5Resume (startFrame serverTimeMs : Nat) : ScheduledSessionStart × NetplayRoom :=
  let start := r.startAt startFrame serverTimeMs
  (start, { r with scheduledStart := some start })

/-- Every connected player sent enough distinct samples for the open request. -/
def connectedPlayersHaveClockSamples : Bool :=
  match r.clockSyncRequest with
  | none => false
  | some request => r.connectedPlayerIndices.all fun p =>
    (r.clockSampleIndicesByPlayer.lookup p).any fun samples =>
      samples.card ≥ request.requestedSampleCount

/-- All are ready. -/
def connectedPlayersAreReadyForStartSync : Bool :=
  r.connectedPlayerIndices.all fun p => p ∈ r.readyPlayers

/-- A start can be fixed. -/
def connectedPlayersReadyForScheduling : Bool :=
  r.allConnected (fun p => p ∈ r.deterministicReadyPlayers) && r.connectedPlayersHaveClockSamples

/-- It is time to ask for clock samples. -/
def shouldRequestClockSyncSample : Bool :=
  r.status = .ready && r.connectedPlayersSupportScheduledStart
    && r.connectedPlayersAreReadyForStartSync && !r.connectedPlayersHaveClockSamples
    && r.scheduledStart.isNone

/-- An open request is repeated; otherwise a new one is drawn. -/
def requestClockSyncSample (serverTimeMs : Nat) : ClockSyncSampleRequest × NetplayRoom :=
  match r.clockSyncRequest with
  | some active => (active, r)
  | none =>
    let request : ClockSyncSampleRequest :=
      { requestId := clockSyncRequestId r.roomEpoch r.sessionEpoch r.nextClockSyncRequestId
        requestedSampleCount := clockSyncRequestedSampleCount
        serverSendTimeMs := serverTimeMs }
    (request, { r with
      nextClockSyncRequestId := satAdd u64Max r.nextClockSyncRequestId 1
      clockSyncRequest := some request })

/-- The start is fixed: the room waits for its server time. -/
@[simps]
def enterStartScheduled (start : ScheduledSessionStart) : NetplayRoom :=
  { r with
    status := .startScheduled
    scheduledStart := some start }

/-- A start that is already fixed is repeated whatever the status. Otherwise a start is fixed
as soon as the samples and the deterministic readiness are complete, again whatever the
status. -/
def tryScheduleStart (order : HashOrder) (now : Instant) (serverTimeMs : Nat) :
    StartSyncOutcome × NetplayRoom :=
  match r.scheduledStart with
  | some start => (.scheduled start, r)
  | none =>
    if !r.connectedPlayersReadyForScheduling then (.waiting, r)
    else
      let delayed := r.applyInitialV5InputDelay order now
      let start := delayed.startAt delayed.syncStartFrame serverTimeMs
      (.scheduled start, delayed.enterStartScheduled start)

/-- The sample answers the open request and its times are ordered. -/
def sampleAnswers (request : ClockSyncSampleRequest) (sample : ClockSyncSample)
    (serverReceiveTimeMs : Nat) : Bool :=
  sample.requestId = request.requestId
    && sample.sampleIndex < request.requestedSampleCount
    && sample.serverSendTimeMs = request.serverSendTimeMs
    && sample.clientReceiveTimeMs ≤ sample.clientSendTimeMs
    && sample.serverSendTimeMs ≤ serverReceiveTimeMs

/-- One player's sample is stored: the smallest uncertainty so far and the sample's index. -/
@[simps]
def recordClockSample (playerIndex : PlayerIndex) (sampleIndex uncertaintyMs : Nat) : NetplayRoom :=
  { r with
    clockUncertaintyByPlayer := r.clockUncertaintyByPlayer.insert playerIndex
      (match r.clockUncertaintyByPlayer.lookup playerIndex with
        | some current => if uncertaintyMs < current then uncertaintyMs else current
        | none => uncertaintyMs)
    clockSampleIndicesByPlayer := r.clockSampleIndicesByPlayer.insert playerIndex
      (insert sampleIndex ((r.clockSampleIndicesByPlayer.lookup playerIndex).getD ∅)) }

/-- There is no check of the room status here. -/
def acceptClockSyncSample (order : HashOrder) (connectionId : ConnectionId)
    (sample : ClockSyncSample) (now : Instant) (serverReceiveTimeMs : Nat) :
    Outcome StartSyncOutcome :=
  if !r.connectedPlayersSupportScheduledStart then (.error .roomNotReady, r)
  else match r.playerIndexForConnection connectionId with
    | none => (.error .unknownConnection, r)
    | some playerIndex =>
      match r.clockSyncRequest with
      | none => (.error .roomNotReady, r)
      | some request =>
        if !sampleAnswers request sample serverReceiveTimeMs then (.error .invalidPayload, r)
        else
          let serverElapsed := serverReceiveTimeMs - sample.serverSendTimeMs
          let clientElapsed := sample.clientSendTimeMs - sample.clientReceiveTimeMs
          let uncertaintyMs := (serverElapsed - clientElapsed) / 2
          let recorded := r.recordClockSample playerIndex sample.sampleIndex uncertaintyMs
          let (outcome, r) := recorded.tryScheduleStart order now serverReceiveTimeMs
          (.ok outcome, r)

/-- The player's runner is ready for synchronised frames. -/
@[simps]
def recordDeterministicReady (playerIndex : PlayerIndex) : NetplayRoom :=
  { r.updateSlot (·.playerIndex = playerIndex)
      (fun slot => { slot with runtimeState := .deterministicReady }) with
    deterministicReadyPlayers := insert playerIndex r.deterministicReadyPlayers }

/-- A vote for the start. -/
def markDeterministicReady (order : HashOrder) (connectionId : ConnectionId)
    (network : Option ClientNetworkQualityReport) (now : Instant) (serverTimeMs : Nat) :
    Outcome StartSyncOutcome :=
  if r.status ≠ .ready ∧ r.status ≠ .startScheduled then (.error .roomNotReady, r)
  else if !r.connectedPlayersSupportScheduledStart then (.error .roomNotReady, r)
  else match r.playerIndexForConnection connectionId with
    | none => (.error .unknownConnection, r)
    | some playerIndex =>
      let recorded := (r.recordNetworkReport connectionId none network now).recordDeterministicReady
        playerIndex
      let (outcome, r) := recorded.tryScheduleStart order now serverTimeMs
      (.ok outcome, r)

end NetplayRoom

end NetplayRelay.Rooms
