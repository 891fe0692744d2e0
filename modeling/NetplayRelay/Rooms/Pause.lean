import NetplayRelay.Rooms.StartSync

/-!
# Session pauses

A pause is scheduled a few frames ahead; each connected player reports when it has reached
the pause frame; the room is paused once all have. Players hold the pause independently and
the last one to let go resumes the session. A version 5 session resumes through a new
scheduled start in a new session epoch.
-/

namespace NetplayRelay.Rooms

open Lib Protocol

/-- How far ahead a pause is set. -/
def sessionPauseLeadFrames : Nat := 8

/-- What an arrival at the pause did. -/
inductive SessionPauseReachedOutcome
  | pausing (view : SessionPauseView)
  | paused (view : SessionPauseView)
  | resumed (sequence resumeAtFrame : Nat)
  | resumedV5 (sequence : Nat) (scheduledStart : ScheduledSessionStart)

/-- What a resume did. -/
inductive SessionResumeOutcome
  | stillPaused (view : SessionPauseView)
  | resumed (resumeAtFrame : Nat)
  | resumedV5 (scheduledStart : ScheduledSessionStart)

/-- First authoritative checkpoint at or after a resume frame. -/
def nextAuthoritativeCheckpointAtOrAfter (frame : Nat) : Nat :=
  if frame = 0 then authoritativeStateHashIntervalFrames
  else satMul u64Max ((frame + authoritativeStateHashIntervalFrames - 1)
    / authoritativeStateHashIntervalFrames) authoritativeStateHashIntervalFrames

namespace NetplayRoom

variable (r : NetplayRoom)

/-- The frame data of a resumed session starts at `resumeFrame`, one session epoch later. -/
@[simps]
def restartAtFrame (resumeFrame : Nat) : NetplayRoom :=
  { r.bumpSessionEpoch with
    lastInputFrames := ∅
    nextInputFrames := ∅
    pauseState := none
    snapshotTransfer := none
    snapshotFileRelayTransfer := none
    syncStartFrame := resumeFrame
    roomFrame := resumeFrame
    releasedFrame := none
    nextReleaseFrame := resumeFrame
    pendingInputDelayChange := none
    stateHashes := ∅
    stateHashTrueMismatchStreak := 0
    nextAuthoritativeStateHashFrame := nextAuthoritativeCheckpointAtOrAfter resumeFrame
    pendingHostFrameOpen := none
    scheduledStart := none
    status := .startScheduled
    players := updateWhere (·.isConnected) (·.enter .ready .deterministicReady) r.players }

/-- A strict session starts again. -/
def beginV5PauseResume (resumeFrame serverTimeMs : Nat) : ScheduledSessionStart × NetplayRoom :=
  (r.restartAtFrame resumeFrame).scheduleV5Resume resumeFrame serverTimeMs

/-- A player pauses. -/
def requestSessionPauseWithId (connectionId : ConnectionId) (requestId : Text)
    (reason : SessionPauseReason) (localFrame : Nat) : Outcome SessionPauseView :=
  if r.status ≠ .playing ∧ r.status ≠ .paused then (.error .notPlaying, r)
  else match r.playerIndexForConnection connectionId with
    | none => (.error .unknownConnection, r)
    | some playerIndex =>
      match r.pauseState with
      | some pauseState =>
        let held := pauseState.hold playerIndex requestId reason
        (.ok (held.view r.currentPauseState), { r with pauseState := some held })
      | none =>
        let pauseAtFrame := satAdd u64Max (max r.roomFrame localFrame) sessionPauseLeadFrames
        let pauseState := SessionPauseStateTracker.new r.nextPauseSequence requestId reason
          playerIndex pauseAtFrame
        (.ok (pauseState.view .pausing), { r with
          nextPauseSequence := satAdd u64Max r.nextPauseSequence 1
          pauseState := some pauseState })

/-- The legacy end of a pause. -/
@[simps]
def resumePlaying : NetplayRoom :=
  { r.updateConnected (·.enter .playing .playing) with
    pauseState := none
    status := .playing }

/-- The room is paused. -/
@[simps]
def enterPaused : NetplayRoom :=
  { r.updateConnected (·.enter .paused .paused) with status := .paused }

/-- The report is for the open pause and, in a version 5 room, the pause frame has been released
and every connected player's input reaches beyond it. -/
def pauseReportIsValid (pauseState : SessionPauseStateTracker) (sequence pausedAtFrame : Nat) :
    Bool :=
  let strictResume := r.usesStrictControllerInput
  let pauseAtFrame := pauseState.pauseAtFrame
  let frameIsInvalid := if strictResume then decide (pausedAtFrame ≠ pauseAtFrame)
    else decide (pausedAtFrame < pauseAtFrame)
  if !pauseState.hasSequence sequence || frameIsInvalid then false
  else if strictResume && (r.releasedFrame.all (· < pauseAtFrame)
      || r.connectedPlayerIndices.any fun p => r.expectedFrame p ≤ pauseAtFrame) then false
  else true

/-- The registry always passes a server time. There is no check of the room status here. -/
def markSessionPauseReachedWithOutcomeAt (connectionId : ConnectionId)
    (sequence pausedAtFrame serverTimeMs : Nat) : Outcome SessionPauseReachedOutcome :=
  match r.playerIndexForConnection connectionId with
  | none => (.error .unknownConnection, r)
  | some playerIndex =>
    match r.pauseState with
    | none => (.error .roomNotReady, r)
    | some pauseState =>
      if !r.pauseReportIsValid pauseState sequence pausedAtFrame then (.error .roomNotReady, r)
      else
        let acknowledged := pauseState.acknowledge playerIndex pausedAtFrame
        let noted := { r with pauseState := some acknowledged }
        if acknowledged.everyConnectedPlayerAcknowledged r.connectedPlayerIndices then
          if !acknowledged.hasHolders then
            if r.usesStrictControllerInput then
              let (scheduledStart, r) := noted.beginV5PauseResume acknowledged.resumeAtFrame
                serverTimeMs
              (.ok (.resumedV5 sequence scheduledStart), r)
            else (.ok (.resumed sequence acknowledged.resumeAtFrame), noted.resumePlaying)
          else (.ok (.paused (acknowledged.view .paused)), noted.enterPaused)
        else (.ok (.pausing (acknowledged.view .pausing)), noted)

/-- A player resumes. -/
def requestSessionResumeWithIdAt (connectionId : ConnectionId) (requestId : Text)
    (sequence serverTimeMs : Nat) : Outcome SessionResumeOutcome :=
  match r.playerIndexForConnection connectionId with
  | none => (.error .unknownConnection, r)
  | some playerIndex =>
    match r.pauseState with
    | none => (.error .roomNotReady, r)
    | some pauseState =>
      if !pauseState.hasSequence sequence then (.error .roomNotReady, r)
      else
        let released := pauseState.release playerIndex requestId
        let noted := { r with pauseState := some released }
        if released.hasHolders || r.status ≠ .paused then
          (.ok (.stillPaused (released.view r.currentPauseState)), noted)
        else if r.usesStrictControllerInput then
          let (scheduledStart, r) := noted.beginV5PauseResume released.resumeAtFrame serverTimeMs
          (.ok (.resumedV5 scheduledStart), r)
        else (.ok (.resumed released.resumeAtFrame), noted.resumePlaying)

end NetplayRoom

end NetplayRelay.Rooms
