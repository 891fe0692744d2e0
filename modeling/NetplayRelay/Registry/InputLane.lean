import NetplayRelay.Rooms.Input

/-!
# The version 5 input lane of the registry

What the registry does around the room's own checks when a binary input socket sends a strict
batch or opens a frame, or when the timer of a held open fires: it publishes accepted batches and
releases to every input socket of the room and decides whether the sender is answered.
-/

namespace NetplayRelay.Registry

open Lib Protocol Rooms

/-- What the input sockets of a room are sent. -/
inductive RoomInputEvent
  | strictInputBatch (source : ConnectionId) (batch : StrictInputBatch)
  | serverFrameV5 (release : ServerFrameReleaseV5)
deriving DecidableEq

/-- What a batch leads to. -/
structure StrictInputRelayOutcome where
  response : InputCursorResponse
  sendResponse : Bool
  acceptedFrameCount : Nat
  duplicateFrameCount : Nat
deriving DecidableEq

/-- What an opening leads to. -/
inductive HostFrameRelayOutcome
  | broadcast
  | duplicate (release : ServerFrameReleaseV5)
  | ignoredTransitionBoundary
  | pending (delayMs roomEpoch sessionEpoch frame : Nat)
deriving DecidableEq

/-- What a timer leads to. -/
inductive ScheduledHostFrameReleaseOutcome
  | released
  | retryAfter (delayMs : Nat)
  | superseded
deriving DecidableEq

/-- The answer to one call of the input lane, the events it publishes, and the room it leaves. -/
structure LaneOutcome (α : Type) where
  result : Except RoomError α
  events : List RoomInputEvent
  room : NetplayRoom

/-- Statuses between two stretches of play. -/
def statusIsTransition : RoomStatus → Bool
  | .startScheduled | .repairingState | .recovering => true
  | _ => false

/-- Play is interrupted. -/
def transitionInProgress (r : NetplayRoom) : Bool :=
  r.status ≠ .playing
    && (r.stateRecovery.isSome || r.pauseState.isSome || statusIsTransition r.status)

/-- A refused batch is not answered while the session is in transition. -/
def refusalIsSilent (r : NetplayRoom) : InputCursorResponse → Bool
  | .nack _ => transitionInProgress r
  | .ack _ => false

/-- Errors that the lane takes for records of a session that is over. -/
def errorIsTransition : RoomError → Bool
  | .notPlaying | .staleRoomEpoch | .staleSessionEpoch => true
  | _ => false

/-- A batch on the lane. -/
def relayStrictInputBatch (r : NetplayRoom) (connectionId : ConnectionId)
    (batch : StrictInputBatch) : LaneOutcome StrictInputRelayOutcome :=
  match r.acceptStrictInputBatch connectionId batch with
  | (.error error, r) =>
    if errorIsTransition error then
      ⟨.ok ⟨.nack ⟨r.roomEpoch, r.sessionEpoch, batch.playerIndex,
        r.expectedFrame batch.playerIndex, batch.startFrame, .sessionState⟩, false, 0, 0⟩, [], r⟩
    else ⟨.error error, [], r⟩
  | (.ok outcome, r) =>
    if refusalIsSilent r outcome.response then
      ⟨.ok ⟨outcome.response, false, 0, outcome.duplicateFrameCount⟩, [], r⟩
    else
      ⟨.ok ⟨outcome.response, true, (outcome.acceptedBatch.map (·.payloads.length)).getD 0,
          outcome.duplicateFrameCount⟩,
        outcome.acceptedBatch.toList.map (.strictInputBatch connectionId), r⟩

/-- An opening on the lane. -/
def relayHostFrameOpen (r : NetplayRoom) (connectionId : ConnectionId) (frameOpen : HostFrameOpen)
    (serverTimeMs : Nat) : LaneOutcome HostFrameRelayOutcome :=
  match r.acceptHostFrameOpen connectionId frameOpen serverTimeMs with
  | (.error error, r) =>
    if errorIsTransition error then ⟨.ok .ignoredTransitionBoundary, [], r⟩
    else ⟨.error error, [], r⟩
  | (.ok (.released release), r) => ⟨.ok .broadcast, [.serverFrameV5 release], r⟩
  | (.ok (.duplicate release), r) => ⟨.ok (.duplicate release), [], r⟩
  | (.ok .ignoredTransitionBoundary, r) => ⟨.ok .ignoredTransitionBoundary, [], r⟩
  | (.ok (.pending delayMs), r) =>
    -- a pending outcome has just stored its frame, so the default is never taken
    ⟨.ok (.pending delayMs r.roomEpoch r.sessionEpoch
      (r.pendingHostFrameOpen.getD frameOpen.frame)), [], r⟩

/-- The timer that a pending open started has fired. -/
def releaseScheduledV5HostFrame (r : NetplayRoom) (roomEpoch sessionEpoch frame : Nat)
    (serverTimeMs : Nat) : LaneOutcome ScheduledHostFrameReleaseOutcome :=
  if r.roomEpoch ≠ roomEpoch ∨ r.sessionEpoch ≠ sessionEpoch
      ∨ r.pendingHostFrameOpen ≠ some frame then ⟨.ok .superseded, [], r⟩
  else match r.scheduledStart with
    | none => ⟨.error .roomNotReady, [], r⟩
    | some start =>
      if serverTimeMs < start.serverTimeMs then
        ⟨.ok (.retryAfter (start.serverTimeMs - serverTimeMs)), [], r⟩
      else match r.releaseDueV5HostFrame serverTimeMs with
        | (none, r) => ⟨.error .roomNotReady, [], r⟩
        | (some release, r) => ⟨.ok .released, [.serverFrameV5 release], r⟩

end NetplayRelay.Registry
