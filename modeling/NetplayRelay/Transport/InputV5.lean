import NetplayRelay.Protocol.StrictCodec
import NetplayRelay.Registry.InputLane

/-!
# The handler of binary input messages

One binary message on an input socket of a version 5 room: it is decoded, handed to the registry,
and answered. The handler returns whether the socket stays open. A message that cannot be decoded,
or an error of the registry that is not on the short list of droppable ones, closes it. A write to
the socket is taken to succeed; one that fails closes the socket as well.
-/

namespace NetplayRelay.Transport

open Lib Protocol Rooms Registry

/-- An error the lane passes over. -/
def isDroppableInputError : RoomError → Bool
  | .notPlaying | .staleRoomEpoch | .staleSessionEpoch => true
  | _ => false

/-- The wait for a held open. -/
structure FirstFrameRelease where
  delayMs : Nat
  roomEpoch : Nat
  sessionEpoch : Nat
  frame : Nat
deriving DecidableEq

/-- What comes of one message: the bytes that are sent back, the wait that is started, whether the
socket stays open, what the other sockets are sent, and the room. -/
structure InputHandling where
  reply : Option Bytes
  wait : Option FirstFrameRelease
  staysOpen : Bool
  events : List RoomInputEvent
  room : NetplayRoom

/-- The message is rejected and the socket closed. -/
def rejectV5Message (r : NetplayRoom) : InputHandling := ⟨none, none, false, [], r⟩

/-- An answer on the wire. -/
def encodeResponse : InputCursorResponse → Bytes
  | .ack ack => encodeInputCursorAck ack
  | .nack nack => encodeInputCursorNack nack

/-- A batch arrives. -/
def handleStrictInput (r : NetplayRoom) (connectionId : ConnectionId) (payload : Bytes) :
    InputHandling :=
  match decodeStrictInputBatch payload with
  | .error _ => rejectV5Message r
  | .ok batch =>
    match relayStrictInputBatch r connectionId batch with
    | ⟨.error error, events, r⟩ =>
      if isDroppableInputError error then ⟨none, none, true, events, r⟩ else rejectV5Message r
    | ⟨.ok outcome, events, r⟩ =>
      if !outcome.sendResponse then ⟨none, none, true, events, r⟩
      else ⟨some (encodeResponse outcome.response), none, true, events, r⟩

/-- An opening arrives. -/
def handleHostOpen (r : NetplayRoom) (connectionId : ConnectionId) (payload : Bytes)
    (serverTimeMs : Nat) : InputHandling :=
  match decodeHostFrameOpen payload with
  | .error _ => rejectV5Message r
  | .ok frameOpen =>
    match relayHostFrameOpen r connectionId frameOpen serverTimeMs with
    | ⟨.ok (.duplicate release), events, r⟩ =>
      match encodeServerFrameReleaseV5 release with
      | .error _ => ⟨none, none, false, events, r⟩
      | .ok encoded => ⟨some encoded, none, true, events, r⟩
    | ⟨.ok .broadcast, events, r⟩ => ⟨none, none, true, events, r⟩
    | ⟨.ok .ignoredTransitionBoundary, events, r⟩ => ⟨none, none, true, events, r⟩
    | ⟨.ok (.pending delayMs roomEpoch sessionEpoch frame), events, r⟩ =>
      ⟨none, some ⟨delayMs, roomEpoch, sessionEpoch, frame⟩, true, events, r⟩
    | ⟨.error error, events, r⟩ =>
      if isDroppableInputError error then ⟨none, none, true, events, r⟩ else rejectV5Message r

/-- The magic decides. -/
def handleV5BinaryMessage (r : NetplayRoom) (connectionId : ConnectionId) (payload : Bytes)
    (serverTimeMs : Nat) : InputHandling :=
  if inputBatchMagic.isPrefixOf payload then handleStrictInput r connectionId payload
  else if hostOpenMagic.isPrefixOf payload then handleHostOpen r connectionId payload serverTimeMs
  else rejectV5Message r

end NetplayRelay.Transport
