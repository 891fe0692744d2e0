import NetplayRelay.Protocol.Descriptors

/-!
# Message payloads

The records that client messages, input records and relay grants carry into a room.
Machine integers are natural numbers; `u64Max` is the largest value of the counters and
frame numbers, which are all `u64`.
-/

namespace NetplayRelay.Protocol

/-- Largest value of a `u64`. -/
abbrev u64Max : Nat := 18446744073709551615

/-- A point of the monotonic clock, in nanoseconds. -/
abbrev Instant := Nat

/-- A length of time, in nanoseconds. -/
abbrev Duration := Nat

/-- Seconds, in nanoseconds. -/
def secs (n : Nat) : Duration := n * 1000000000

/-- A player slot number. The source wraps a `u8`; any byte can arrive in a message. -/
structure PlayerIndex where
  zeroBased : Nat
deriving DecidableEq

/-- The host's seat. -/
def PlayerIndex.one : PlayerIndex := ⟨0⟩
/-- The guest's seat. -/
def PlayerIndex.two : PlayerIndex := ⟨1⟩

/-- A slot number from a message, if there is such a slot. -/
def PlayerIndex.new (value maxPlayers : Nat) : Option PlayerIndex :=
  if value < maxPlayers then some ⟨value⟩ else none

/-! ## Snapshots -/

/-- How large a snapshot may be. -/
structure SnapshotLimits where
  maxChunkBytes : Nat
  maxTotalBytes : Nat

/-- The limits of the server. -/
def SnapshotLimits.default : SnapshotLimits := ⟨256 * 1024, 100 * 1024 * 1024⟩

/-- Why a snapshot is refused. -/
inductive SnapshotError
  | chunkTooLarge | totalTooLarge | invalidChecksum | invalidSnapshotId
deriving DecidableEq

/-- A SHA-256 digest in hex digits. -/
def isSha256Hex (value : Text) : Bool := value.len == 64 && value.all Text.isAsciiHexdigit

/-- The id is short and plain. -/
def isSnapshotId (value : Text) : Bool :=
  !value.isEmpty && value.len ≤ 64
    && value.all (fun c => c.isAlphanum || c == '-' || c == '_')

/-- What a snapshot is, before its bytes come. -/
structure SnapshotManifest where
  snapshotId : Text
  repairFrame : Nat
  totalBytes : Nat
  sha256 : Text
deriving DecidableEq

/-- The checks on a manifest. -/
def SnapshotManifest.validate (self : SnapshotManifest) (limits : SnapshotLimits) :
    Except SnapshotError Unit :=
  if !isSnapshotId self.snapshotId then .error .invalidSnapshotId
  else if self.totalBytes > limits.maxTotalBytes then .error .totalTooLarge
  else if !isSha256Hex self.sha256 then .error .invalidChecksum
  else .ok ()

/-- A piece of a snapshot. -/
structure SnapshotChunk where
  snapshotId : Text
  repairFrame : Nat
  index : Nat
  bytes : List UInt8
deriving DecidableEq

/-- The checks on a piece. -/
def SnapshotChunk.validate (self : SnapshotChunk) (limits : SnapshotLimits) :
    Except SnapshotError Unit :=
  if !isSnapshotId self.snapshotId then .error .invalidSnapshotId
  else if self.bytes.length > limits.maxChunkBytes then .error .chunkTooLarge
  else .ok ()

/-- The right to move a snapshot file. -/
structure SnapshotFileRelayGrant where
  transferId : Text
  token : Text
  manifest : SnapshotManifest
deriving DecidableEq

/-- The grants of both ends. -/
structure SnapshotFileRelayGrantPair where
  upload : SnapshotFileRelayGrant
  download : SnapshotFileRelayGrant

/-! ## ROM relay -/

/-- The two ends of a transfer. -/
inductive RomRelayGrantRole
  | upload
  | download
deriving DecidableEq

/-- The right to move a ROM. -/
structure RomRelayGrant where
  transferId : Text
  token : Text
deriving DecidableEq

/-- The grants of both ends. -/
structure RomRelayGrantPair where
  upload : RomRelayGrant
  download : RomRelayGrant

/-- How far an end is. -/
structure RomRelayProgress where
  transferId : Text
  role : RomRelayGrantRole

/-- An end is done. -/
structure RomRelayCompletion where
  transferId : Text
  role : RomRelayGrantRole
  contentHash : Text

/-- Why a ROM is not relayed. -/
inductive RomRelayBlockReason
  | disabled | brokerUnavailable | wrongPlayer | clientUnsupported | unsupportedSystem | tooLarge
  | missingIdentity | transferActive
deriving DecidableEq

/-! ## Start synchronisation, pauses, state hashes -/

/-- What a client measured of its network. -/
structure ClientNetworkQualityReport where
  roundTripMs : Option Nat
  jitterMs : Option Nat
  predictionFrames : Option Nat
  lateInputFrames : Option Nat
  clockUncertaintyMs : Option Nat
deriving DecidableEq

/-- The server asks for clock samples. -/
structure ClockSyncSampleRequest where
  requestId : Text
  requestedSampleCount : Nat
  serverSendTimeMs : Nat
deriving DecidableEq

/-- A client's answer, with its clock. -/
structure ClockSyncSample where
  requestId : Text
  sampleIndex : Nat
  serverSendTimeMs : Nat
  clientReceiveTimeMs : Nat
  clientSendTimeMs : Nat

/-- The start that was fixed. -/
structure ScheduledSessionStart where
  roomEpoch : Nat
  sessionEpoch : Nat
  startFrame : Nat
  serverTimeMs : Nat
  createdAtServerTimeMs : Nat
  minimumStartDelayMs : Nat
  clockUncertaintyBudgetMs : Nat
deriving DecidableEq

/-- Why a player pauses. -/
inductive SessionPauseReason
  | menu | backgrounded | system | connectionLost
deriving DecidableEq

/-- How far a pause is. -/
inductive SessionPauseState
  | pausing
  | paused
deriving DecidableEq

/-- How often the state is compared. -/
def authoritativeStateHashIntervalFrames : Nat := 600

/-- A player's state at a frame. -/
structure StateHashReport where
  frame : Nat
  sha256 : Text

/-- The check on a report. -/
def StateHashReport.validate (self : StateHashReport) : Except SessionDescriptorError Unit :=
  validateSha256 "sha256" self.sha256

/-- The hash that a player reported. -/
structure PlayerStateHashView where
  playerIndex : PlayerIndex
  sha256 : Text
deriving DecidableEq

/-- Equal hashes at different frames. -/
structure NearbyStateHashMatchView where
  sourcePlayerIndex : PlayerIndex
  sourceFrame : Nat
  matchedPlayerIndex : PlayerIndex
  matchedFrame : Nat
  frameOffset : Int
deriving DecidableEq

/-- The hashes that differ. -/
structure StateHashMismatchView where
  frame : Nat
  repairFrame : Nat
  hashes : List PlayerStateHashView
  nearbyMatches : List NearbyStateHashMatchView
deriving DecidableEq

/-- The host's snapshot for a repair. -/
structure StateRecoveryPin where
  recoveryId : Nat
  manifest : SnapshotManifest

/-- What a client says it is doing. -/
inductive ClientRuntimeState
  | connected | checkingCompatibility | syncing | ready | deterministicReady | playing | pausing
  | paused | reconnecting | disconnected
deriving DecidableEq

/-! ## Input records -/

/-- One frame of controller input, ten bytes. -/
abbrev RetropadInputPayload := Vector UInt8 10

/-- A player's input, frame after frame. -/
structure StrictInputBatch where
  roomEpoch : Nat
  sessionEpoch : Nat
  playerIndex : PlayerIndex
  startFrame : Nat
  payloads : List RetropadInputPayload
deriving DecidableEq

/-- The host opens a frame. -/
structure HostFrameOpen where
  roomEpoch : Nat
  sessionEpoch : Nat
  frame : Nat
deriving DecidableEq

/-- How far a player's input is. -/
structure AcceptedInputCursor where
  playerIndex : PlayerIndex
  nextExpectedFrame : Nat
deriving DecidableEq

/-- A frame is released to both players. -/
structure ServerFrameReleaseV5 where
  roomEpoch : Nat
  sessionEpoch : Nat
  releasedFrame : Nat
  nextHostFrame : Nat
  acceptedInputs : List AcceptedInputCursor
deriving DecidableEq

/-- Input was taken. -/
structure InputCursorAck where
  roomEpoch : Nat
  sessionEpoch : Nat
  playerIndex : PlayerIndex
  nextExpectedFrame : Nat
deriving DecidableEq

/-- Why input was not taken. -/
inductive InputCursorNackReason
  | inputGap | futureFrameTooLarge | sessionState
deriving DecidableEq

/-- Input was not taken. -/
structure InputCursorNack where
  roomEpoch : Nat
  sessionEpoch : Nat
  playerIndex : PlayerIndex
  expectedFrame : Nat
  receivedFrame : Nat
  reason : InputCursorNackReason
deriving DecidableEq

/-- The answer to input. -/
inductive InputCursorResponse
  | ack (ack : InputCursorAck)
  | nack (nack : InputCursorNack)
deriving DecidableEq

/-- A legacy input frame without its payload: all a room checks. -/
structure InputCursor where
  playerIndex : PlayerIndex
  frame : Nat
deriving DecidableEq

/-- A frame of a legacy session. -/
structure ServerFrame where
  roomEpoch : Nat
  sessionEpoch : Nat
  frame : Nat
  canonicalFrame : Nat
deriving DecidableEq

/-- A packet between two consoles. -/
structure LinkCablePacket where
  playerIndex : PlayerIndex
  sequence : Nat
  payload : List UInt8

/-- The largest packet. -/
def maxLinkCablePacketBytes : Nat := 4 * 1024

end NetplayRelay.Protocol
