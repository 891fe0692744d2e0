import NetplayRelay.Rooms.Compatibility

/-!
# Input and the frame clock

Version 5 rooms take strict input batches, which are trimmed to the frames that are new and
acknowledged with a cumulative cursor, and host frame opens, which release one frame each.
Legacy rooms take single input frames and release frames on the server's own clock.
-/

namespace NetplayRelay.Rooms

open Lib Protocol

/-- The window of strict input. -/
def v5MaxFutureFrameDistance : Nat := 96
/-- The window of legacy input. -/
def maxFutureFrameDistance : Nat := 240

/-! ## Strict input -/

/-- What became of a batch. -/
structure StrictInputBatchOutcome where
  response : InputCursorResponse
  acceptedBatch : Option StrictInputBatch
  duplicateFrameCount : Nat

/-- Statuses in which a version 5 room takes input. -/
def RoomStatus.acceptsStrictInput : RoomStatus → Bool
  | .syncingState | .ready | .startScheduled | .playing | .paused => true
  | _ => false

namespace NetplayRoom

variable (r : NetplayRoom)

/-- The socket may send the batch. -/
def validateStrictInputSender (connectionId : ConnectionId) (batch : StrictInputBatch) :
    Except RoomError Unit :=
  if !r.usesStrictControllerInput then .error .invalidPayload
  else match r.playerIndexForInputConnection connectionId with
    | none => .error .unknownConnection
    | some owned =>
      if owned ≠ batch.playerIndex then .error (.slotSpoofing batch.playerIndex) else .ok ()

/-- The status takes input and an open pause does not cut the batch off. -/
def strictInputStateAccepts (frame : Nat) : Bool :=
  r.status.acceptsStrictInput && r.pauseState.all fun pause =>
    frame ≤ satAdd u64Max pause.pauseAtFrame r.session.controller.inputDelayFrames

/-- The batch is not taken. -/
def strictInputNack (playerIndex : PlayerIndex) (expectedFrame receivedFrame : Nat)
    (reason : InputCursorNackReason) : StrictInputBatchOutcome where
  response := .nack ⟨r.roomEpoch, r.sessionEpoch, playerIndex, expectedFrame, receivedFrame, reason⟩
  acceptedBatch := none
  duplicateFrameCount := 0

/-- The batch is taken. -/
def strictInputAck (playerIndex : PlayerIndex) (nextExpectedFrame : Nat)
    (acceptedBatch : Option StrictInputBatch) (duplicateFrameCount : Nat) :
    StrictInputBatchOutcome where
  response := .ack ⟨r.roomEpoch, r.sessionEpoch, playerIndex, nextExpectedFrame⟩
  acceptedBatch := acceptedBatch
  duplicateFrameCount := duplicateFrameCount

/-- The player's input is accepted up to `lastFrame`. -/
@[simps]
def recordInput (playerIndex : PlayerIndex) (lastFrame nextFrame : Nat) : NetplayRoom :=
  { r with
    lastInputFrames := r.lastInputFrames.insert playerIndex lastFrame
    nextInputFrames := r.nextInputFrames.insert playerIndex nextFrame }

/-- A batch of a strict session. -/
def acceptStrictInputBatch (connectionId : ConnectionId) (batch : StrictInputBatch) :
    Outcome StrictInputBatchOutcome :=
  match r.validateStrictInputSender connectionId batch with
  | .error error => (.error error, r)
  | .ok () =>
    let playerIndex := batch.playerIndex
    let expected := r.expectedFrame playerIndex
    if batch.roomEpoch ≠ r.roomEpoch ∨ batch.sessionEpoch ≠ r.sessionEpoch then
      (.ok (r.strictInputNack playerIndex expected batch.startFrame .sessionState), r)
    else match checkedAdd u64Max batch.startFrame (batch.payloads.length - 1) with
      | none => (.error .invalidPayload, r)
      | some endFrame =>
        let maximumFrame := satAdd u64Max r.nextReleaseFrame v5MaxFutureFrameDistance
        if !r.strictInputStateAccepts endFrame then
          (.ok (r.strictInputNack playerIndex expected endFrame .sessionState), r)
        else if batch.startFrame > expected then
          (.ok (r.strictInputNack playerIndex expected batch.startFrame .inputGap), r)
        else if endFrame > maximumFrame then
          (.ok (r.strictInputNack playerIndex expected (satAdd u64Max maximumFrame 1)
            .futureFrameTooLarge), r)
        else
          let firstNewFrame := max expected batch.startFrame
          if firstNewFrame ≤ endFrame then
            match checkedAdd u64Max endFrame 1 with
            | none => (.error .invalidPayload, r)
            | some nextExpectedFrame =>
              let accepted := { batch with
                startFrame := firstNewFrame
                payloads := batch.payloads.drop (firstNewFrame - batch.startFrame) }
              (.ok (r.strictInputAck playerIndex nextExpectedFrame (some accepted)
                (batch.payloads.length - accepted.payloads.length)),
                r.recordInput playerIndex endFrame nextExpectedFrame)
          else (.ok (r.strictInputAck playerIndex expected none batch.payloads.length), r)

end NetplayRoom

/-! ## Host frame opens -/

/-- What became of an open. -/
inductive HostFrameOpenOutcome
  | released (release : ServerFrameReleaseV5)
  | duplicate (release : ServerFrameReleaseV5)
  | ignoredTransitionBoundary
  | pending (delayMs : Nat)
deriving DecidableEq

namespace NetplayRoom

variable (r : NetplayRoom)

/-- The socket may open frames. -/
def validateHostFrameSender (connectionId : ConnectionId) : Except RoomError Unit :=
  if !r.usesStrictControllerInput then .error .invalidPayload
  else match r.playerIndexForInputConnection connectionId with
    | none => .error .unknownConnection
    | some owned =>
      if r.players.any fun slot => slot.playerIndex = owned && slot.role = .host then .ok ()
      else .error .hostOnly

/-- The host's input reaches the frame. -/
def hostInputCovers (frame : Nat) : Bool := r.expectedFrame .one > frame

/-- The release the room would repeat: the last released frame with the current cursors. -/
def currentV5Release : Option ServerFrameReleaseV5 :=
  r.releasedFrame.map fun releasedFrame =>
    { roomEpoch := r.roomEpoch
      sessionEpoch := r.sessionEpoch
      releasedFrame := releasedFrame
      nextHostFrame := r.nextReleaseFrame
      acceptedInputs := (r.players.filter (!·.isEmpty)).map fun slot =>
        ⟨slot.playerIndex, r.expectedFrame slot.playerIndex⟩ }

/-- The release cursor moves past `frame`. -/
@[simps]
def releaseFrame (frame : Nat) : NetplayRoom :=
  { r with
    pendingHostFrameOpen := none
    nextReleaseFrame := satAdd u64Max frame 1
    releasedFrame := some frame
    roomFrame := max r.roomFrame frame }

/-- A frame is released. -/
def releaseV5HostFrame (frame : Nat) : ServerFrameReleaseV5 × NetplayRoom :=
  let released := r.releaseFrame frame
  ({ roomEpoch := released.roomEpoch
     sessionEpoch := released.sessionEpoch
     releasedFrame := frame
     nextHostFrame := released.nextReleaseFrame
     acceptedInputs := (released.players.filter (!·.isEmpty)).map fun slot =>
       ⟨slot.playerIndex, released.expectedFrame slot.playerIndex⟩ }, released)

/-- The outcome for an open that asks for something already decided. -/
def duplicateOrIgnored : HostFrameOpenOutcome :=
  match r.currentV5Release with
  | some release => .duplicate release
  | none => .ignoredTransitionBoundary

/-- An open that comes before its start is due waits. -/
@[simps]
def holdHostFrame (frame : Nat) : NetplayRoom := { r with pendingHostFrameOpen := some frame }

/-- The outcome for an open that is granted. -/
def grantHostFrame (frame : Nat) : Outcome HostFrameOpenOutcome :=
  let (release, r) := r.releaseV5HostFrame frame
  (.ok (.released release), r)

/-- The host opens a frame. -/
def acceptHostFrameOpen (connectionId : ConnectionId) (frameOpen : HostFrameOpen)
    (serverTimeMs : Nat) :
    Outcome HostFrameOpenOutcome :=
  match r.validateHostFrameSender connectionId with
  | .error error => (.error error, r)
  | .ok () =>
    if frameOpen.roomEpoch ≠ r.roomEpoch ∨ frameOpen.sessionEpoch ≠ r.sessionEpoch then
      (.ok r.duplicateOrIgnored, r)
    else if r.status = .repairingState then (.ok .ignoredTransitionBoundary, r)
    else if frameOpen.frame < r.nextReleaseFrame then
      match r.currentV5Release with
      | some release => (.ok (.duplicate release), r)
      | none => (.error .outOfOrderFrame, r)
    else if r.pauseState.any fun pause => frameOpen.frame > pause.pauseAtFrame then
      (.ok .ignoredTransitionBoundary, r)
    else if r.status = .startScheduled ∧ frameOpen.frame > r.nextReleaseFrame then
      (.ok .ignoredTransitionBoundary, r)
    else if r.status ≠ .startScheduled ∧ r.status ≠ .playing then
      (.ok .ignoredTransitionBoundary, r)
    else if frameOpen.frame > r.nextReleaseFrame ∨ !r.hostInputCovers frameOpen.frame then
      (.error .outOfOrderFrame, r)
    else if r.status = .startScheduled then
      match r.scheduledStart with
      | none => (.error .roomNotReady, r)
      | some start =>
        if frameOpen.frame ≠ start.startFrame then (.error .outOfOrderFrame, r)
        else if serverTimeMs < start.serverTimeMs then
          (.ok (.pending (start.serverTimeMs - serverTimeMs)),
            r.holdHostFrame frameOpen.frame)
        else r.enterPlaying.grantHostFrame frameOpen.frame
    else r.grantHostFrame frameOpen.frame

/-- A held open is released once its start is due. -/
def releaseDueV5HostFrame (serverTimeMs : Nat) : Option ServerFrameReleaseV5 × NetplayRoom :=
  match r.pendingHostFrameOpen, r.scheduledStart with
  | some frame, some start =>
    if r.status ≠ .startScheduled ∨ serverTimeMs < start.serverTimeMs then (none, r)
    else
      let (release, r) :=
        { r with pendingHostFrameOpen := none }.enterPlaying.releaseV5HostFrame frame
      (some release, r)
  | _, _ => (none, r)

end NetplayRoom

/-! ## Legacy input and the server frame clock -/

/-- Whether input goes on to the other player. -/
inductive InputFrameAcceptance
  | relay
  | ignore
deriving DecidableEq

/-- Cursors of a batch in progress; the room changes only when the whole batch is accepted. -/
structure InputFrameCursorStage where
  lastInputFrames : PlayerMap Nat
  nextInputFrames : PlayerMap Nat

namespace NetplayRoom

variable (r : NetplayRoom)

/-- Input beyond a pause is dropped. -/
def pauseFrameAcceptance (frame : Nat) : InputFrameAcceptance :=
  match r.pauseState with
  | none => .relay
  | some pauseState =>
    if frame ≤ satAdd u64Max pauseState.pauseAtFrame r.session.controller.inputDelayFrames then
      .relay
    else .ignore

/-- What becomes of a frame's input. -/
def inputFrameAcceptance (frame : Nat) : Except RoomError InputFrameAcceptance :=
  match r.status with
  | .playing | .paused => .ok (r.pauseFrameAcceptance frame)
  | _ => .error .notPlaying

/-- One frame of a batch. The future limit is an unchecked `u64` addition, which wraps in a
release build. -/
def stageInputFrameCursor (ownedIndex : PlayerIndex) (staged : InputFrameCursorStage)
    (input : InputCursor) : Except RoomError (InputFrameAcceptance × InputFrameCursorStage) :=
  if ownedIndex ≠ input.playerIndex then .error (.slotSpoofing input.playerIndex)
  else match r.inputFrameAcceptance input.frame with
    | .error error => .error error
    | .ok .ignore => .ok (.ignore, staged)
    | .ok .relay =>
      if input.frame > (r.roomFrame + maxFutureFrameDistance) % 2 ^ 64 then
        .error .futureFrameTooLarge
      else if input.frame
          < (staged.nextInputFrames.lookup input.playerIndex).getD r.syncStartFrame then
        .ok (.ignore, staged)
      else .ok (.relay,
        { lastInputFrames := staged.lastInputFrames.insert input.playerIndex input.frame
          nextInputFrames := staged.nextInputFrames.insert input.playerIndex
            (satAdd u64Max input.frame 1) })

/-- The checks on frame after frame. -/
def stageInputFrameCursors (ownedIndex : PlayerIndex) :
    InputFrameCursorStage → List InputCursor →
      Except RoomError (List InputFrameAcceptance × InputFrameCursorStage)
  | staged, [] => .ok ([], staged)
  | staged, input :: inputs =>
    match r.stageInputFrameCursor ownedIndex staged input with
    | .error error => .error error
    | .ok (acceptance, staged) =>
      match stageInputFrameCursors ownedIndex staged inputs with
      | .error error => .error error
      | .ok (acceptances, staged) => .ok (acceptance :: acceptances, staged)

/-- All frames are taken or none. -/
def acceptInputFrameCursors (connectionId : ConnectionId) (inputs : List InputCursor) :
    Outcome (List InputFrameAcceptance) :=
  if r.session.mode ≠ .controllerNetplay then (.error .notPlaying, r)
  else match r.playerIndexForInputConnection connectionId with
    | none => (.error .unknownConnection, r)
    | some ownedIndex =>
      match r.stageInputFrameCursors ownedIndex ⟨r.lastInputFrames, r.nextInputFrames⟩ inputs with
      | .error error => (.error error, r)
      | .ok (acceptances, staged) =>
        (.ok acceptances, { r with
          lastInputFrames := staged.lastInputFrames
          nextInputFrames := staged.nextInputFrames })

/-- A single frame. -/
def acceptInputFrame (connectionId : ConnectionId) (input : InputCursor) :
    Outcome InputFrameAcceptance :=
  match r.acceptInputFrameCursors connectionId [input] with
  | (.error error, r) => (.error error, r)
  | (.ok [acceptance], r) => (.ok acceptance, r)
  | (.ok _, r) => (.error .invalidPayload, r)

/-- A new delay begins at its frame. -/
def applyPendingInputDelayIfDue : NetplayRoom :=
  match r.pendingInputDelayChange with
  | none => r
  | some change =>
    if r.nextReleaseFrame < change.effectiveFrame then r
    else { r.withInputDelay change.inputDelayFrames with pendingInputDelayChange := none }

/-- The host has sent the frame. -/
def hostHasInputForFrame (frame : Nat) : Bool :=
  ((r.players.find? (·.role = .host)).bind fun slot =>
    r.lastInputFrames.lookup slot.playerIndex).any (· ≥ frame)

/-- A scheduled legacy start that is due begins on the server clock. -/
@[simps]
def startPlaying : NetplayRoom :=
  { r.updateConnected (·.enter .playing .playing) with status := .playing }

/-- One tick of the legacy clock in a playing room. -/
def tickPlaying : Option ServerFrame × NetplayRoom :=
  let r := r.applyPendingInputDelayIfDue
  let frame := r.nextReleaseFrame
  if !r.hostHasInputForFrame frame then (none, r)
  else
    let released := { r with
      nextReleaseFrame := satAdd u64Max r.nextReleaseFrame 1
      releasedFrame := some frame
      roomFrame := max r.roomFrame frame }
    (some ⟨released.roomEpoch, released.sessionEpoch, frame, released.roomFrame⟩, released)

/-- The tick of a legacy session. -/
def releaseNextServerFrame (serverTimeMs : Nat) : Option ServerFrame × NetplayRoom :=
  if r.usesStrictControllerInput then (none, r)
  else if r.status = .startScheduled then
    match r.scheduledStart with
    | none => (none, r)
    | some start =>
      if serverTimeMs < start.serverTimeMs then (none, r) else r.startPlaying.tickPlaying
  else if r.status ≠ .playing then (none, r)
  else r.tickPlaying

end NetplayRoom

end NetplayRelay.Rooms
