import NetplayRelay.Lib.Buffer
import NetplayRelay.Protocol.InputBatch
import NetplayRelay.Registry.StoredRoom

/-!
# The legacy input lane of the registry

Accepted legacy input is published when the server's own clock has released its frame: at once if
that has happened already, otherwise in the tick that releases the frame. Until then it waits in one
of two buffers, `SBI1` frames with the epochs the room had when they came in, `SBI2` records as they
are. Whatever the lane does first, it empties both buffers when the room has moved to other epochs.
-/

namespace NetplayRelay.Protocol

/-- Whose frame it is. -/
def InputFrame.cursor (input : InputFrame) : InputCursor := ⟨input.playerIndex, input.frame⟩

/-- Whose record it is. -/
def FastInputFrame.cursor (input : FastInputFrame) : InputCursor := ⟨input.playerIndex, input.frame⟩

end NetplayRelay.Protocol

namespace NetplayRelay.Registry

open Lib Protocol Rooms

/-- What the legacy input sockets of a room are sent. -/
inductive LegacyInputEvent
  | inputFrameBatch (source : ConnectionId) (batch : InputFrameBatch)
  | fastInputFrame (source : ConnectionId) (frame : FastInputFrame)
  | serverFrame (frame : ServerFrame)
deriving DecidableEq

/-! ## The two buffers -/

/-- A frame that waits. -/
structure BufferedInputFrame where
  roomEpoch : Nat
  sessionEpoch : Nat
  source : ConnectionId
  input : InputFrame
deriving DecidableEq

/-- A batch to be sent. -/
structure BufferedInputFrameBatch where
  source : ConnectionId
  batch : InputFrameBatch
deriving DecidableEq

/-- Waiting frames. -/
abbrev InputFrameRelayBuffer := Buffer BufferedInputFrame

/-- A frame joins the batch of its socket and player, if there is one. -/
def pushToBatch (batches : List BufferedInputFrameBatch) (source : ConnectionId)
    (roomEpoch sessionEpoch : Nat) (input : InputFrame) : List BufferedInputFrameBatch :=
  let isTheirs := fun batch : BufferedInputFrameBatch =>
    decide (batch.source = source) && decide (batch.batch.playerIndex = input.playerIndex)
  if batches.any isTheirs then
    updateFirst isTheirs (fun existing =>
      { existing with batch := { existing.batch with frames := existing.batch.frames ++ [input] } })
      batches
  else batches ++ [⟨source, ⟨roomEpoch, sessionEpoch, input.playerIndex, [input]⟩⟩]

namespace InputFrameRelayBuffer

/-- A frame is to wait. -/
def push (self : InputFrameRelayBuffer) (source : ConnectionId) (roomEpoch sessionEpoch : Nat)
    (input : InputFrame) : InputFrameRelayBuffer :=
  Buffer.add self input.frame ⟨roomEpoch, sessionEpoch, source, input⟩

/-- What waited for a frame. -/
def drainFrame (self : InputFrameRelayBuffer) (frame roomEpoch sessionEpoch : Nat) :
    List BufferedInputFrameBatch × InputFrameRelayBuffer :=
  let (buffered, rest) := Buffer.takeOut self frame
  (buffered.foldl (fun batches buffered =>
    if buffered.roomEpoch ≠ roomEpoch ∨ buffered.sessionEpoch ≠ sessionEpoch then batches
    else pushToBatch batches buffered.source roomEpoch sessionEpoch buffered.input) [], rest)

end InputFrameRelayBuffer

/-- A record that waits. -/
structure BufferedFastInputFrame where
  source : ConnectionId
  frame : FastInputFrame
deriving DecidableEq

/-- Waiting records. -/
abbrev FastInputRelayBuffer := Buffer BufferedFastInputFrame

namespace FastInputRelayBuffer

/-- A record is to wait. -/
def push (self : FastInputRelayBuffer) (source : ConnectionId) (frame : FastInputFrame) :
    FastInputRelayBuffer :=
  Buffer.add self frame.frame ⟨source, frame⟩

/-- The records of a frame. -/
def drainFrame (self : FastInputRelayBuffer) (frame roomEpoch sessionEpoch : Nat) :
    List BufferedFastInputFrame × FastInputRelayBuffer :=
  let (buffered, rest) := Buffer.takeOut self frame
  (buffered.filter fun buffered =>
    buffered.frame.roomEpoch = roomEpoch && buffered.frame.sessionEpoch = sessionEpoch, rest)

end FastInputRelayBuffer

/-! ## The lane -/

/-- A stored room with the part of it that relays legacy input. -/
structure LegacyLane where
  room : NetplayRoom
  relayRoomEpoch : Nat
  relaySessionEpoch : Nat
  inputRelayBuffer : InputFrameRelayBuffer
  fastInputRelayBuffer : FastInputRelayBuffer

/-- The answer to one call, what it publishes, and the lane it leaves. -/
structure LegacyOutcome where
  result : Except RoomError (List InputFrameAcceptance)
  events : List LegacyInputEvent
  lane : LegacyLane

namespace LegacyLane

variable (self : LegacyLane)

/-- The lane of a new room. -/
def new (room : NetplayRoom) : LegacyLane where
  room := room
  relayRoomEpoch := room.roomEpoch
  relaySessionEpoch := room.sessionEpoch
  inputRelayBuffer := ∅
  fastInputRelayBuffer := ∅

/-- Other epochs empty it. -/
def synchronizeInputRuntimeEpoch : LegacyLane :=
  if self.relayRoomEpoch = self.room.roomEpoch
      ∧ self.relaySessionEpoch = self.room.sessionEpoch then
    self
  else
    { self with
      inputRelayBuffer := ∅
      fastInputRelayBuffer := ∅
      relayRoomEpoch := self.room.roomEpoch
      relaySessionEpoch := self.room.sessionEpoch }

/-- The frame has been released already. -/
def hasReleased (frame : Nat) : Bool := self.room.releasedFrame.any (frame ≤ ·)

/-- Send or keep. -/
def relayAcceptedInputFrame (source : ConnectionId) (input : InputFrame) :
    List LegacyInputEvent × LegacyLane :=
  let self := self.synchronizeInputRuntimeEpoch
  if self.hasReleased input.frame then
    ([.inputFrameBatch source
      ⟨self.room.roomEpoch, self.room.sessionEpoch, input.playerIndex, [input]⟩], self)
  else ([], { self with
    inputRelayBuffer := self.inputRelayBuffer.push source self.room.roomEpoch self.room.sessionEpoch
      input })

/-- Send or keep. -/
def relayAcceptedFastInputFrame (source : ConnectionId) (input : FastInputFrame) :
    List LegacyInputEvent × LegacyLane :=
  let self := self.synchronizeInputRuntimeEpoch
  if self.hasReleased input.frame then ([.fastInputFrame source input], self)
  else ([], { self with fastInputRelayBuffer := self.fastInputRelayBuffer.push source input })

/-- The loop over the frames of a message and the answers the room gave. -/
def relayAccepted {α : Type} (relayOne : LegacyLane → α → List LegacyInputEvent × LegacyLane) :
    LegacyLane → List (α × InputFrameAcceptance) → List LegacyInputEvent × LegacyLane
  | self, [] => ([], self)
  | self, (_, .ignore) :: rest => relayAccepted relayOne self rest
  | self, (input, .relay) :: rest =>
    let (events, self) := relayOne self input
    let (more, self) := relayAccepted relayOne self rest
    (events ++ more, self)

/-- One frame. -/
def relayInputFrame (connectionId : ConnectionId) (input : InputFrame) : LegacyOutcome :=
  match self.room.acceptInputFrame connectionId input.cursor with
  | (.error error, room) => ⟨.error error, [], { self with room }⟩
  | (.ok acceptance, room) =>
    let (events, lane) := relayAccepted (fun self => self.relayAcceptedInputFrame connectionId)
      { self with room } [(input, acceptance)]
    ⟨.ok [acceptance], events, lane⟩

/-- A batch. -/
def relayInputFrameBatch (connectionId : ConnectionId) (batch : InputFrameBatch) : LegacyOutcome :=
  match Registry.relayInputFrameBatch self.room connectionId batch.roomEpoch batch.sessionEpoch
      (batch.frames.map (·.cursor)) with
  | (.error error, room) => ⟨.error error, [], { self with room }⟩
  | (.ok acceptances, room) =>
    let (events, lane) := relayAccepted (fun self => self.relayAcceptedInputFrame connectionId)
      { self with room } (batch.frames.zip acceptances)
    ⟨.ok acceptances, events, lane⟩

/-- Records. -/
def relayFastInputBatch (connectionId : ConnectionId) (batch : FastInputBatch) : LegacyOutcome :=
  match Registry.relayFastInputBatch self.room connectionId
      (batch.frames.map fun frame => (frame.roomEpoch, frame.sessionEpoch, frame.cursor)) with
  | (.error error, room) => ⟨.error error, [], { self with room }⟩
  | (.ok acceptances, room) =>
    let (events, lane) := relayAccepted (fun self => self.relayAcceptedFastInputFrame connectionId)
      { self with room } (batch.frames.zip acceptances)
    ⟨.ok acceptances, events, lane⟩

/-- One tick of the server's clock: at most one frame is released, and what waited for it. -/
def emitNextServerFrame (serverTimeMs : Nat) : List LegacyInputEvent × LegacyLane :=
  let self := self.synchronizeInputRuntimeEpoch
  match self.room.releaseNextServerFrame serverTimeMs with
  | (none, room) => ([], { self with room })
  | (some frame, room) =>
    let (batches, inputRelayBuffer) := self.inputRelayBuffer.drainFrame frame.frame frame.roomEpoch
      frame.sessionEpoch
    let (records, fastInputRelayBuffer) := self.fastInputRelayBuffer.drainFrame frame.frame
      frame.roomEpoch frame.sessionEpoch
    (batches.map (fun ready => .inputFrameBatch ready.source ready.batch)
        ++ records.map (fun ready => .fastInputFrame ready.source ready.frame)
        ++ [.serverFrame frame],
      { self with room, inputRelayBuffer, fastInputRelayBuffer })

end LegacyLane

/-! ## Calls -/

/-- One call of the registry on a room, with the input it carries. -/
inductive LegacyCall
  | inputFrame (connectionId : ConnectionId) (input : InputFrame)
  | inputFrameBatch (connectionId : ConnectionId) (batch : InputFrameBatch)
  | fastInputBatch (connectionId : ConnectionId) (batch : FastInputBatch)
  | tick (now : Instant)
  /-- A call that does not touch the buffers. -/
  | other (op : RoomOp)

/-- One call. -/
def LegacyLane.step (relay : Relay) (self : LegacyLane) : LegacyCall → LegacyOutcome
  | .inputFrame connectionId input => self.relayInputFrame connectionId input
  | .inputFrameBatch connectionId batch => self.relayInputFrameBatch connectionId batch
  | .fastInputBatch connectionId batch => self.relayFastInputBatch connectionId batch
  | .tick now =>
    let (events, lane) := self.emitNextServerFrame (relay.serverTimeMsAt now)
    ⟨.ok [], events, lane⟩
  | .other op => ⟨.ok [], [], { self with room := applyOp relay self.room op }⟩

end NetplayRelay.Registry
