import NetplayRelay.Lib.Bytes
import NetplayRelay.Rooms.Room

/-!
# The bytes of the version 5 input lane

Five binary messages: input batches (`SBI3`), cursor answers (`SBA1`, `SBN1`), host frame opens
(`SBO1`) and frame releases (`SBF2`). Each begins with its magic, its type and the two epochs;
numbers are big-endian. An encoder takes any message the source's types can hold, and fails where
the source's does; a decoder takes any bytes.
-/

namespace NetplayRelay.Protocol

open Lib Rooms

/-- Why bytes or messages are refused. -/
inductive StrictInputCodecError
  | malformed | unsupported | empty | tooManyFrames | invalidPlayerIndex | invalidPayloadSize
  | invalidNackReason | invalidCursors
deriving DecidableEq

/-- A result of the strict codec. -/
abbrev Coded (α : Type) := Except StrictInputCodecError α

/-- The largest message. -/
def maxInputBatchBytes : Nat := 8192
/-- The most frames in a batch. -/
def maxInputBatchFrames : Nat := 4

/-! ## Shared by all messages -/

/-- The size of the common header. -/
def commonEpochHeaderBytes : Nat := 4 + 1 + 8 + 8

/-- The common header: magic, type and epochs. -/
def writeHeader (magic : Bytes) (messageType : UInt8) (roomEpoch sessionEpoch : Nat) : List Bytes :=
  [magic, [messageType], toBeBytes 8 roomEpoch, toBeBytes 8 sessionEpoch]

/-- The header is of this message. -/
def validateMessageHeader (payload : Bytes) (minimumBytes : Nat) (magic : Bytes)
    (messageType : UInt8) : Coded Unit :=
  if payload.length < minimumBytes then .error .malformed
  else if slice payload 0 4 ≠ magic ∨ payload.getD 4 0 ≠ messageType then .error .unsupported
  else .ok ()

/-- The same, with no byte more or less. -/
def validateExactMessageHeader (payload : Bytes) (expectedBytes : Nat) (magic : Bytes)
    (messageType : UInt8) : Coded Unit :=
  if payload.length ≠ expectedBytes then .error .malformed
  else validateMessageHeader payload expectedBytes magic messageType

/-- A player of the room. -/
def readPlayerIndex (payload : Bytes) (offset : Nat) : Coded PlayerIndex :=
  match payload[offset]? with
  | none => .error .malformed
  | some byte =>
    match PlayerIndex.new byte.toNat mvpRoomCapacity with
    | none => .error .invalidPlayerIndex
    | some playerIndex => .ok playerIndex

/-- Eight bytes, the highest first. -/
def readU64 : Bytes → Nat → Coded Nat := readBe .malformed 8
/-- Two bytes, the highest first. -/
def readU16 : Bytes → Nat → Coded Nat := readBe .malformed 2

/-! ## Input batches -/

/-- `SBI3` -/
def inputBatchMagic : Bytes := [83, 66, 73, 51]
/-- The type byte of a batch. -/
def inputBatchType : UInt8 := 3
/-- The size of a batch's header. -/
def inputBatchHeaderBytes : Nat := commonEpochHeaderBytes + 1 + 1 + 2 + 8

/-- A batch has some frames and not too many. -/
def validatePayloadCount (frameCount : Nat) : Coded Unit :=
  if frameCount = 0 then .error .empty
  else if frameCount > maxInputBatchFrames then .error .tooManyFrames
  else .ok ()

/-- The payload of a chunk of ten bytes. -/
def RetropadInputPayload.ofChunk (chunk : Bytes) : RetropadInputPayload :=
  Vector.ofFn fun i => chunk.getD i 0

/-- A batch, field by field. -/
def inputBatchFields (batch : StrictInputBatch) : List Bytes :=
  writeHeader inputBatchMagic inputBatchType batch.roomEpoch batch.sessionEpoch
    ++ [[UInt8.ofNat batch.playerIndex.zeroBased], [UInt8.ofNat batch.payloads.length],
      toBeBytes 2 v5RetropadInputBytes, toBeBytes 8 batch.startFrame,
      (batch.payloads.map Vector.toList).flatten]

/-- A checked batch in bytes. -/
def encodeStrictInputBatch (batch : StrictInputBatch) : Coded Bytes := do
  validatePayloadCount batch.payloads.length
  checked .malformed (inputBatchHeaderBytes + batch.payloads.length * v5RetropadInputBytes
    ≤ maxInputBatchBytes)
  return (inputBatchFields batch).flatten

/-- The batch in the bytes. -/
def decodeStrictInputBatch (payload : Bytes) : Coded StrictInputBatch := do
  validateMessageHeader payload inputBatchHeaderBytes inputBatchMagic inputBatchType
  checked .malformed (payload.length ≤ maxInputBatchBytes)
  let frameCount := (payload.getD 22 0).toNat
  validatePayloadCount frameCount
  let payloadSize ← readU16 payload 23
  checked .invalidPayloadSize (payloadSize = v5RetropadInputBytes)
  checked .malformed (payload.length = inputBatchHeaderBytes + frameCount * v5RetropadInputBytes)
  let payloads := (chunksExact v5RetropadInputBytes (payload.drop inputBatchHeaderBytes)).map
    RetropadInputPayload.ofChunk
  let roomEpoch ← readU64 payload 5
  let sessionEpoch ← readU64 payload 13
  let playerIndex ← readPlayerIndex payload 21
  let startFrame ← readU64 payload 25
  return { roomEpoch, sessionEpoch, playerIndex, startFrame, payloads }

/-! ## Cursor answers -/

/-- `SBA1` -/
def ackMagic : Bytes := [83, 66, 65, 49]
/-- The type byte of an ack. -/
def ackType : UInt8 := 4
/-- `SBN1` -/
def nackMagic : Bytes := [83, 66, 78, 49]
/-- The type byte of a nack. -/
def nackType : UInt8 := 5
/-- The size of an ack. -/
def ackBytes : Nat := commonEpochHeaderBytes + 1 + 8
/-- The size of a nack. -/
def nackBytes : Nat := commonEpochHeaderBytes + 1 + 8 + 8 + 1

/-- The byte of a reason. -/
def InputCursorNackReason.code : InputCursorNackReason → UInt8
  | .inputGap => 1
  | .futureFrameTooLarge => 2
  | .sessionState => 3

/-- The reason of a byte. -/
def InputCursorNackReason.tryFrom (value : UInt8) : Coded InputCursorNackReason :=
  if value = 1 then .ok .inputGap
  else if value = 2 then .ok .futureFrameTooLarge
  else if value = 3 then .ok .sessionState
  else .error .invalidNackReason

/-- An ack, field by field. -/
def ackFields (ack : InputCursorAck) : List Bytes :=
  writeHeader ackMagic ackType ack.roomEpoch ack.sessionEpoch
    ++ [[UInt8.ofNat ack.playerIndex.zeroBased], toBeBytes 8 ack.nextExpectedFrame]

/-- An ack in bytes. -/
def encodeInputCursorAck (ack : InputCursorAck) : Bytes := (ackFields ack).flatten

/-- The ack in the bytes. -/
def decodeInputCursorAck (payload : Bytes) : Coded InputCursorAck := do
  validateExactMessageHeader payload ackBytes ackMagic ackType
  let roomEpoch ← readU64 payload 5
  let sessionEpoch ← readU64 payload 13
  let playerIndex ← readPlayerIndex payload 21
  let nextExpectedFrame ← readU64 payload 22
  return { roomEpoch, sessionEpoch, playerIndex, nextExpectedFrame }

/-- A nack, field by field. -/
def nackFields (nack : InputCursorNack) : List Bytes :=
  writeHeader nackMagic nackType nack.roomEpoch nack.sessionEpoch
    ++ [[UInt8.ofNat nack.playerIndex.zeroBased], toBeBytes 8 nack.expectedFrame,
      toBeBytes 8 nack.receivedFrame, [nack.reason.code]]

/-- A nack in bytes. -/
def encodeInputCursorNack (nack : InputCursorNack) : Bytes := (nackFields nack).flatten

/-- The nack in the bytes. -/
def decodeInputCursorNack (payload : Bytes) : Coded InputCursorNack := do
  validateExactMessageHeader payload nackBytes nackMagic nackType
  let roomEpoch ← readU64 payload 5
  let sessionEpoch ← readU64 payload 13
  let playerIndex ← readPlayerIndex payload 21
  let expectedFrame ← readU64 payload 22
  let receivedFrame ← readU64 payload 30
  let reason ← InputCursorNackReason.tryFrom (payload.getD 38 0)
  return { roomEpoch, sessionEpoch, playerIndex, expectedFrame, receivedFrame, reason }

/-! ## The frame clock -/

/-- `SBO1` -/
def hostOpenMagic : Bytes := [83, 66, 79, 49]
/-- The type byte of an open. -/
def hostOpenType : UInt8 := 6
/-- `SBF2` -/
def releaseMagic : Bytes := [83, 66, 70, 50]
/-- The type byte of a release. -/
def releaseType : UInt8 := 7
/-- The size of an open. -/
def hostOpenBytes : Nat := commonEpochHeaderBytes + 8
/-- The size of a release's header. -/
def releaseHeaderBytes : Nat := commonEpochHeaderBytes + 8 + 8 + 1
/-- The size of a cursor. -/
def releaseCursorBytes : Nat := 1 + 8

/-- An open, field by field. -/
def hostOpenFields (frameOpen : HostFrameOpen) : List Bytes :=
  writeHeader hostOpenMagic hostOpenType frameOpen.roomEpoch frameOpen.sessionEpoch
    ++ [toBeBytes 8 frameOpen.frame]

/-- An open in bytes. -/
def encodeHostFrameOpen (frameOpen : HostFrameOpen) : Bytes := (hostOpenFields frameOpen).flatten

/-- The open in the bytes. -/
def decodeHostFrameOpen (payload : Bytes) : Coded HostFrameOpen := do
  validateExactMessageHeader payload hostOpenBytes hostOpenMagic hostOpenType
  let roomEpoch ← readU64 payload 5
  let sessionEpoch ← readU64 payload 13
  let frame ← readU64 payload 21
  return { roomEpoch, sessionEpoch, frame }

/-- The size of a release. -/
def releaseMessageBytes (cursorCount : Nat) : Coded Nat :=
  if cursorCount > 255 then .error .malformed
  else if releaseHeaderBytes + cursorCount * releaseCursorBytes ≤ maxInputBatchBytes then
    .ok (releaseHeaderBytes + cursorCount * releaseCursorBytes)
  else .error .malformed

/-- Cursors stand in increasing order of their players. -/
def validateReleaseCursors (cursors : List AcceptedInputCursor) : Coded Unit :=
  if (cursors.zip cursors.tail).any fun (first, second) =>
      first.playerIndex.zeroBased ≥ second.playerIndex.zeroBased then .error .invalidCursors
  else .ok ()

/-- A cursor, field by field. -/
def cursorFields (cursor : AcceptedInputCursor) : List Bytes :=
  [[UInt8.ofNat cursor.playerIndex.zeroBased], toBeBytes 8 cursor.nextExpectedFrame]

/-- The cursors in bytes. -/
def cursorsBytes (cursors : List AcceptedInputCursor) : Bytes :=
  (cursors.map fun cursor => (cursorFields cursor).flatten).flatten

/-- A release, field by field. -/
def releaseFields (release : ServerFrameReleaseV5) : List Bytes :=
  writeHeader releaseMagic releaseType release.roomEpoch release.sessionEpoch
    ++ [toBeBytes 8 release.releasedFrame, toBeBytes 8 release.nextHostFrame,
      [UInt8.ofNat release.acceptedInputs.length],
      cursorsBytes release.acceptedInputs]

/-- A checked release in bytes. -/
def encodeServerFrameReleaseV5 (release : ServerFrameReleaseV5) : Coded Bytes := do
  validateReleaseCursors release.acceptedInputs
  let _totalBytes ← releaseMessageBytes release.acceptedInputs.length
  return (releaseFields release).flatten

/-- The loop over the cursors of a release. -/
def readCursors (payload : Bytes) : Nat → Nat → Coded (List AcceptedInputCursor)
  | 0, _ => .ok []
  | count + 1, offset => do
    let playerIndex ← readPlayerIndex payload offset
    let nextExpectedFrame ← readU64 payload (offset + 1)
    let cursors ← readCursors payload count (offset + releaseCursorBytes)
    return ⟨playerIndex, nextExpectedFrame⟩ :: cursors

/-- The release in the bytes. -/
def decodeServerFrameReleaseV5 (payload : Bytes) : Coded ServerFrameReleaseV5 := do
  validateMessageHeader payload releaseHeaderBytes releaseMagic releaseType
  let cursorCount := (payload.getD 37 0).toNat
  let totalBytes ← releaseMessageBytes cursorCount
  checked .malformed (payload.length = totalBytes)
  let acceptedInputs ← readCursors payload cursorCount releaseHeaderBytes
  validateReleaseCursors acceptedInputs
  let roomEpoch ← readU64 payload 5
  let sessionEpoch ← readU64 payload 13
  let releasedFrame ← readU64 payload 21
  let nextHostFrame ← readU64 payload 29
  return { roomEpoch, sessionEpoch, releasedFrame, nextHostFrame, acceptedInputs }

end NetplayRelay.Protocol
