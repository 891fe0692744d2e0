import NetplayRelay.Protocol.InputBatch

/-!
# `SBI1` in the client libraries

The TypeScript and the Kotlin library each have a codec for the legacy input lane. The two are the
same program up to the numbers their platforms can hold and the words of a few errors, so there is
one codec here with these as parameters. Numbers and payload bytes are integers, as a caller may
pass anything; an error is its message.
-/

namespace NetplayRelay.Sdk

open Lib Protocol

/-- A frame as the client libraries have it. -/
structure SdkInputFrame where
  playerIndex : Int
  frame : Int
  payload : List Int
deriving DecidableEq

/-- A batch as the client libraries have it. -/
structure SdkInputBatch where
  roomEpoch : Int
  sessionEpoch : Int
  playerIndex : Int
  frames : List SdkInputFrame
deriving DecidableEq

/-- What the two libraries do not share. -/
structure NetplayInputBatchCodec where
  /-- The largest number the library takes. -/
  maxInteger : Int
  /-- The error for a field that is not such a number. -/
  integerError : Text → Text
  /-- The error for such a number on the wire. -/
  wireIntegerError : Text

/-- `Number.MAX_SAFE_INTEGER` -/
def maxSafeInteger : Nat := 2 ^ 53 - 1

/-- In TypeScript a number is a double: only integers up to `maxSafeInteger` are taken. -/
def typescriptCodec : NetplayInputBatchCodec where
  maxInteger := maxSafeInteger
  integerError field :=
    "Netplay ".toList ++ field ++ " must be a non-negative safe integer.".toList
  wireIntegerError := "Netplay input batch integer exceeds JavaScript safe range.".toList

/-- In Kotlin a number is a signed `Long`. Nothing above its range can be passed in, and on the wire
such a number reads as a negative one. -/
def kotlinCodec : NetplayInputBatchCodec where
  maxInteger := 2 ^ 63 - 1
  integerError field := "Netplay ".toList ++ field ++ " must be non-negative.".toList
  wireIntegerError := "Netplay input batch integer is out of range.".toList

/-- The message for a number that is no byte. -/
def byteError (field : Text) : Text :=
  "Netplay ".toList ++ field ++ " must fit in one byte.".toList

/-- The message for bytes that are no batch. -/
def malformedError : Text := "Netplay input batch is malformed.".toList
/-- The message for another kind of batch. -/
def unsupportedError : Text := "Netplay input batch type is unsupported.".toList
/-- The message for a batch without frames. -/
def emptyError : Text := "Netplay input batch is empty.".toList
/-- The message for a batch with too many frames. -/
def tooManyFramesError : Text := "Netplay input batch contains too many frames.".toList
/-- The message for a batch with too many bytes. -/
def tooLargeError : Text := "Netplay input batch is too large.".toList
/-- The message for a frame of another player. -/
def otherPlayerError : Text := "Netplay input frame player does not match batch player.".toList
/-- The message for a payload that is too long. -/
def payloadTooLargeError : Text := "Netplay input frame payload is too large.".toList

/-- The bytes of a payload. -/
def payloadBytes (payload : List Int) : Bytes := payload.map fun value => UInt8.ofNat value.toNat

namespace NetplayInputBatchCodec

variable (codec : NetplayInputBatchCodec)

/-- The platform can hold the number. -/
def assertInteger (field : Text) (value : Int) : Except Text Unit :=
  checked (codec.integerError field) (0 ≤ value ∧ value ≤ codec.maxInteger)

/-- The number is a byte. -/
def assertByte (field : Text) (value : Int) : Except Text Unit :=
  checked (byteError field) (0 ≤ value ∧ value ≤ 255)

/-- The checks on a frame. -/
def validateFrame (playerIndex : Int) (frame : SdkInputFrame) : Except Text Unit := do
  codec.assertInteger "frame".toList frame.frame
  checked otherPlayerError (frame.playerIndex = playerIndex)
  checked payloadTooLargeError (frame.payload.length ≤ maxInputPayloadBytes)
  frame.payload.forM (assertByte "payload byte".toList)

/-- The checks on a batch. -/
def validateBatch (batch : SdkInputBatch) : Except Text Unit := do
  codec.assertInteger "roomEpoch".toList batch.roomEpoch
  codec.assertInteger "sessionEpoch".toList batch.sessionEpoch
  assertByte "playerIndex".toList batch.playerIndex
  checked emptyError (batch.frames ≠ [])
  checked tooManyFramesError (batch.frames.length ≤ maxInputBatchFrames)
  batch.frames.forM (codec.validateFrame batch.playerIndex)

/-- The size of the encoded batch. -/
def totalBytes (batch : SdkInputBatch) : Nat :=
  legacyBatchHeaderBytes
    + (batch.frames.map fun frame => inputFrameHeaderBytes + frame.payload.length).sum

/-- The batch in bytes. -/
def encode (batch : SdkInputBatch) : Except Text Bytes := do
  codec.validateBatch batch
  checked tooLargeError (totalBytes batch ≤ maxInputBatchBytes)
  return legacyBatchHeader batch.roomEpoch.toNat batch.sessionEpoch.toNat batch.playerIndex.toNat
      batch.frames.length
    ++ (batch.frames.map fun frame =>
      frameBytes frame.frame.toNat (payloadBytes frame.payload)).flatten

/-- A number on the wire. All reads are behind checks of the length. -/
def readInteger (payload : Bytes) (offset : Nat) : Except Text Int := do
  let value ← readBe malformedError 8 payload offset
  checked codec.wireIntegerError ((value : Int) ≤ codec.maxInteger)
  return value

/-- The loop over the frames of a batch. It returns where it ended. -/
def decodeFrames (payload : Bytes) (playerIndex : Int) :
    Nat → Nat → Except Text (List SdkInputFrame × Nat)
  | 0, offset => .ok ([], offset)
  | count + 1, offset => do
    checked malformedError (inputFrameHeaderBytes ≤ payload.length - offset)
    let frame ← codec.readInteger payload offset
    let payloadLength ← readBe malformedError 2 payload (offset + 8)
    let input ← takeBytes malformedError payloadLength payload (offset + 10)
    let (frames, finish) ← decodeFrames payload playerIndex count (offset + 10 + payloadLength)
    return (⟨playerIndex, frame, input.map fun byte => (byte.toNat : Int)⟩ :: frames, finish)

/-- The batch that the bytes spell. -/
def decode (payload : Bytes) : Except Text SdkInputBatch := do
  checked malformedError
    (legacyBatchHeaderBytes ≤ payload.length ∧ payload.length ≤ maxInputBatchBytes)
  checked unsupportedError (slice payload 0 4 = legacyBatchMagic
    ∧ payload.getD 4 0 = legacyBatchType)
  let roomEpoch ← codec.readInteger payload 5
  let sessionEpoch ← codec.readInteger payload 13
  let playerIndex : Int := (payload.getD 21 0).toNat
  let frameCount := (payload.getD 22 0).toNat
  checked emptyError (1 ≤ frameCount)
  checked tooManyFramesError (frameCount ≤ maxInputBatchFrames)
  let (frames, finish) ← codec.decodeFrames payload playerIndex frameCount legacyBatchHeaderBytes
  checked malformedError (finish = payload.length)
  return { roomEpoch, sessionEpoch, playerIndex, frames }

end NetplayInputBatchCodec

end NetplayRelay.Sdk
