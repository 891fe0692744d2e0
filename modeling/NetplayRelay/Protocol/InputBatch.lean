import NetplayRelay.Protocol.StrictCodec

/-!
# The bytes of the legacy input lane

Clients before version 5 send their input in one of two binary formats. An `SBI1` message has one
header and up to four frames of one player. An `SBI2` message is up to four records that stand on
their own, so that the relay can check each and pass its bytes on unchanged.
-/

namespace NetplayRelay.Protocol

open Lib Rooms

/-- The source has two of these, one for each format, with the same cases. -/
inductive InputCodecError
  | malformed | unsupported | tooManyFrames | invalidPlayerIndex | empty
deriving DecidableEq

/-- One controller input of a player. -/
structure InputFrame where
  playerIndex : PlayerIndex
  frame : Nat
  payload : Bytes
deriving DecidableEq

/-- The longest payload. -/
def maxInputPayloadBytes : Nat := 65535

/-- The player byte of a message, if it names one of the two players of a room. -/
def decodePlayerIndex (byte : UInt8) : Except InputCodecError PlayerIndex :=
  match PlayerIndex.new byte.toNat mvpRoomCapacity with
  | none => .error .invalidPlayerIndex
  | some playerIndex => .ok playerIndex

/-! ## `SBI1` -/

/-- Frames of one player. -/
structure InputFrameBatch where
  roomEpoch : Nat
  sessionEpoch : Nat
  playerIndex : PlayerIndex
  frames : List InputFrame
deriving DecidableEq

/-- `SBI1` -/
def legacyBatchMagic : Bytes := [83, 66, 73, 49]
/-- The type byte of a batch. -/
def legacyBatchType : UInt8 := 1
/-- The size of a batch's header. -/
def legacyBatchHeaderBytes : Nat := 4 + 1 + 8 + 8 + 1 + 1
/-- The size of a frame's header. -/
def inputFrameHeaderBytes : Nat := 8 + 2

/-- A frame on the wire: its number, the length of its payload and the payload. -/
def frameBytes (frame : Nat) (payload : Bytes) : Bytes :=
  toBeBytes 8 frame ++ (toBeBytes 2 payload.length ++ payload)

/-- The header of a batch. -/
def legacyBatchHeader (roomEpoch sessionEpoch playerByte frameCount : Nat) : Bytes :=
  (writeHeader legacyBatchMagic legacyBatchType roomEpoch sessionEpoch
    ++ [[UInt8.ofNat playerByte], [UInt8.ofNat frameCount]]).flatten

/-- A batch in bytes. -/
def legacyBatchBytes (batch : InputFrameBatch) : Bytes :=
  legacyBatchHeader batch.roomEpoch batch.sessionEpoch batch.playerIndex.zeroBased
    batch.frames.length
    ++ (batch.frames.map fun frame => frameBytes frame.frame frame.payload).flatten

/-- A checked batch in bytes. -/
def encodeInputFrameBatch (batch : InputFrameBatch) : Except InputCodecError Bytes := do
  checked .empty (batch.frames ≠ [])
  checked .tooManyFrames (batch.frames.length ≤ maxInputBatchFrames)
  checked .malformed (∀ frame ∈ batch.frames,
    frame.playerIndex = batch.playerIndex ∧ frame.payload.length ≤ maxInputPayloadBytes)
  checked .malformed ((legacyBatchBytes batch).length ≤ maxInputBatchBytes)
  return legacyBatchBytes batch

/-- The loop over the frames of a batch. It returns where it ended. -/
def decodeInputFrames (payload : Bytes) (playerIndex : PlayerIndex) :
    Nat → Nat → Except InputCodecError (List InputFrame × Nat)
  | 0, offset => .ok ([], offset)
  | count + 1, offset => do
    checked .malformed (inputFrameHeaderBytes ≤ payload.length - offset)
    let frame ← readBe .malformed 8 payload offset
    let payloadLen ← readBe .malformed 2 payload (offset + 8)
    let input ← takeBytes .malformed payloadLen payload (offset + 10)
    let (frames, finish) ← decodeInputFrames payload playerIndex count (offset + 10 + payloadLen)
    return (⟨playerIndex, frame, input⟩ :: frames, finish)

/-- The batch in the bytes. -/
def decodeInputFrameBatch (payload : Bytes) : Except InputCodecError InputFrameBatch := do
  checked .malformed (payload.length ≤ maxInputBatchBytes ∧ legacyBatchHeaderBytes ≤ payload.length)
  checked .unsupported (slice payload 0 4 = legacyBatchMagic
    ∧ payload.getD 4 0 = legacyBatchType)
  let roomEpoch ← readBe .malformed 8 payload 5
  let sessionEpoch ← readBe .malformed 8 payload 13
  let playerIndex ← decodePlayerIndex (payload.getD 21 0)
  let frameCount := (payload.getD 22 0).toNat
  checked .empty (frameCount ≠ 0)
  checked .tooManyFrames (frameCount ≤ maxInputBatchFrames)
  let (frames, finish) ← decodeInputFrames payload playerIndex frameCount legacyBatchHeaderBytes
  checked .malformed (finish = payload.length)
  return { roomEpoch, sessionEpoch, playerIndex, frames }

/-! ## `SBI2` -/

/-- One record, with the bytes it came as. -/
structure FastInputFrame where
  roomEpoch : Nat
  sessionEpoch : Nat
  playerIndex : PlayerIndex
  frame : Nat
  payload : Bytes
  encoded : Bytes
deriving DecidableEq

/-- Records that stand on their own. -/
structure FastInputBatch where
  frames : List FastInputFrame
deriving DecidableEq

/-- `SBI2` -/
def fastInputMagic : Bytes := [83, 66, 73, 50]
/-- The type byte of a record. -/
def fastInputType : UInt8 := 2
/-- The size of a record's header. -/
def fastInputRecordHeaderBytes : Nat := 4 + 1 + 8 + 8 + 1 + 8 + 2

/-- A record in bytes. -/
def fastInputBytes (roomEpoch sessionEpoch : Nat) (playerIndex : PlayerIndex) (frame : Nat)
    (inputPayload : Bytes) : Bytes :=
  (writeHeader fastInputMagic fastInputType roomEpoch sessionEpoch
    ++ [[UInt8.ofNat playerIndex.zeroBased]]).flatten ++ frameBytes frame inputPayload

/-- A checked record in bytes. -/
def encodeFastInputFrame (roomEpoch sessionEpoch : Nat) (playerIndex : PlayerIndex) (frame : Nat)
    (inputPayload : Bytes) : Except InputCodecError Bytes := do
  checked .malformed (inputPayload.length ≤ maxInputPayloadBytes)
  let payload := fastInputBytes roomEpoch sessionEpoch playerIndex frame inputPayload
  checked .malformed (payload.length ≤ maxInputBatchBytes)
  return payload

/-- The loop over the records of a message, with room for so many more of them. -/
def decodeFastInputFrames (payload : Bytes) (room : Nat) (offset : Nat) :
    Except InputCodecError (List FastInputFrame) :=
  if offset < payload.length then do
    checked .malformed (fastInputRecordHeaderBytes ≤ payload.length - offset)
    checked .unsupported (slice payload offset 4 = fastInputMagic
      ∧ payload.getD (offset + 4) 0 = fastInputType)
    match room with
    | 0 => .error .tooManyFrames
    | room + 1 =>
      let roomEpoch ← readBe .malformed 8 payload (offset + 5)
      let sessionEpoch ← readBe .malformed 8 payload (offset + 13)
      let playerIndex ← decodePlayerIndex (payload.getD (offset + 21) 0)
      let frame ← readBe .malformed 8 payload (offset + 22)
      let payloadLen ← readBe .malformed 2 payload (offset + 30)
      let input ← takeBytes .malformed payloadLen payload (offset + fastInputRecordHeaderBytes)
      let finish := offset + fastInputRecordHeaderBytes + payloadLen
      let frames ← decodeFastInputFrames payload room finish
      return { roomEpoch, sessionEpoch, playerIndex, frame, payload := input,
               encoded := slice payload offset (finish - offset) } :: frames
  else .ok []

/-- The records in the bytes. -/
def decodeFastInputBatch (payload : Bytes) : Except InputCodecError FastInputBatch := do
  checked .malformed (payload.length ≤ maxInputBatchBytes)
  let frames ← decodeFastInputFrames payload maxInputBatchFrames 0
  checked .empty (frames ≠ [])
  return ⟨frames⟩

end NetplayRelay.Protocol
