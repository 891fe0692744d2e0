import NetplayRelay.Lib.Counter
import NetplayRelay.Lib.Slots
import NetplayRelay.Protocol.Messages
import Mathlib.Data.List.AList
import Mathlib.Data.List.Sort
import Mathlib.Data.Finset.Card

/-!
# Player slots

The seats of one netplay room: who holds each, through which sockets, and the deadlines under
which a lost player may come back.

Hash maps keyed by player are association lists without repeated keys, hash sets are finite
sets. A hash map iterates in an order the program does not control: where a result can depend
on it, the order is a parameter (`HashOrder`).
-/

namespace NetplayRelay.Rooms

open Lib Protocol

/-! ## Identifiers and enumerations -/

/-- A control or input socket. The source draws a fresh UUID for each one. -/
structure ConnectionId where
  id : Nat
deriving DecidableEq

/-- A room's id. -/
structure RoomId where
  id : Nat
deriving DecidableEq

/-- Tokens are stored hashed. -/
abbrev ResumeTokenHash := Text

/-- A value per player. -/
abbrev PlayerMap (α : Type) := AList fun _ : PlayerIndex => α

/-- Order in which a hash map yields its entries. A room keys its maps by its two players, so
the stored order and its reverse are all the orders there are. -/
inductive HashOrder
  | stored
  | reversed
deriving DecidableEq

/-- The values, in the order of the hash map. -/
def PlayerMap.values {α : Type} (order : HashOrder) (m : PlayerMap α) : List α :=
  match order with
  | .stored => m.entries.map (·.2)
  | .reversed => (m.entries.map (·.2)).reverse

/-- What a room is doing. -/
inductive RoomStatus
  | waitingForGuest | checkingCompatibility | syncingState | ready | startScheduled | playing
  | paused | repairingState | recovering | closed
deriving DecidableEq

/-- Why a call is refused. -/
inductive RoomError
  | notFound | roomFull | roomClosed | unknownConnection
  | slotSpoofing (playerIndex : PlayerIndex)
  | hostSubjectMismatch | outOfOrderFrame | futureFrameTooLarge | notPlaying | roomNotReady
  | hostOnly | snapshotInvalid | snapshotFileRelayUnavailable | linkPacketInvalid
  | outOfOrderLinkPacket | invalidPayload | compatibilityMismatch | staleRoomEpoch
  | staleSessionEpoch | resumeTokenInvalid | recoveryExpired | voiceUnavailable
deriving DecidableEq

/-- Who somebody is in the room. -/
inductive PlayerRole
  | host
  | guest
deriving DecidableEq

/-- What a player is doing. -/
inductive PlayerStatus
  | empty | connected | checkingCompatibility | compatibilityFailed | syncingState | ready
  | playing | paused | reconnecting | recoveryExpired | disconnected
deriving DecidableEq

/-- What a player's client is doing. -/
inductive PlayerRuntimeState
  | empty | connected | checkingCompatibility | syncing | ready | deterministicReady | playing
  | pausing | paused | reconnecting | stale | disconnected | recoveryExpired
deriving DecidableEq

/-- What the client said. -/
def PlayerRuntimeState.ofClient : ClientRuntimeState → PlayerRuntimeState
  | .connected => .connected
  | .checkingCompatibility => .checkingCompatibility
  | .syncing => .syncing
  | .ready => .ready
  | .deterministicReady => .deterministicReady
  | .playing => .playing
  | .pausing => .pausing
  | .paused => .paused
  | .reconnecting => .reconnecting
  | .disconnected => .disconnected

/-- The runtime state that goes with a player status set by the room. -/
def PlayerRuntimeState.ofStatus : PlayerStatus → PlayerRuntimeState
  | .empty => .empty
  | .connected => .connected
  | .checkingCompatibility => .checkingCompatibility
  | .compatibilityFailed => .connected
  | .syncingState => .syncing
  | .ready => .ready
  | .playing => .playing
  | .paused => .paused
  | .reconnecting => .reconnecting
  | .recoveryExpired => .recoveryExpired
  | .disconnected => .disconnected

/-- What a client can do. -/
structure ClientTransportCapabilities where
  supportsStateFileRelay : Bool
  supportsRomFileRelay : Bool
  supportsScheduledStart : Bool
  supportsClockSync : Bool
  supportsFastInputRelay : Bool

/-! ## Player slots -/

/-- A seat. -/
structure PlayerSlot where
  playerIndex : PlayerIndex
  role : PlayerRole
  subjectKey : Option Text
  connectionId : Option ConnectionId
  inputConnectionId : Option ConnectionId
  status : PlayerStatus
  runtimeState : PlayerRuntimeState
  resumeTokenHash : Option ResumeTokenHash
  inputSocketTokenHash : Option ResumeTokenHash
  inputSocketControlConnectionId : Option ConnectionId
  lastSeenAt : Option Instant
  latestLocalFrame : Option Nat
  latestLocalFrameReportedAt : Option Instant
  latestNetworkReport : Option ClientNetworkQualityReport
  latestNetworkReportedAt : Option Instant
  supportsStateFileRelay : Bool
  supportsRomFileRelay : Bool
  supportsScheduledStart : Bool
  supportsClockSync : Bool
  supportsFastInputRelay : Bool
  reconnectDeadline : Option Instant
  reconnectRoomEpoch : Option Nat
  runnerHandoffDeadline : Option Instant

namespace PlayerSlot

/-- A free seat. -/
def empty (playerIndex : PlayerIndex) : PlayerSlot where
  playerIndex := playerIndex
  role := .guest
  subjectKey := none
  connectionId := none
  inputConnectionId := none
  status := .empty
  runtimeState := .empty
  resumeTokenHash := none
  inputSocketTokenHash := none
  inputSocketControlConnectionId := none
  lastSeenAt := none
  latestLocalFrame := none
  latestLocalFrameReportedAt := none
  latestNetworkReport := none
  latestNetworkReportedAt := none
  supportsStateFileRelay := false
  supportsRomFileRelay := false
  supportsScheduledStart := false
  supportsClockSync := false
  supportsFastInputRelay := false
  reconnectDeadline := none
  reconnectRoomEpoch := none
  runnerHandoffDeadline := none

/-- The host's seat. -/
def host (identityKey : Text) (connectionId : ConnectionId) (resumeTokenHash : ResumeTokenHash)
    (inputSocketTokenHash : ResumeTokenHash) (now : Instant) : PlayerSlot :=
  { empty .one with
    role := .host
    subjectKey := some identityKey
    connectionId := some connectionId
    status := .connected
    runtimeState := .connected
    resumeTokenHash := some resumeTokenHash
    inputSocketTokenHash := some inputSocketTokenHash
    inputSocketControlConnectionId := some connectionId
    lastSeenAt := some now }

/-- Nobody has the seat. -/
def isEmpty (self : PlayerSlot) : Bool := self.status = .empty

/-- The player has a control socket. -/
def isConnected (self : PlayerSlot) : Bool := self.connectionId.isSome

/-- The room moves the player to a new status. -/
def enter (self : PlayerSlot) (status : PlayerStatus) (runtimeState : PlayerRuntimeState) :
    PlayerSlot := { self with status := status, runtimeState := runtimeState }

/-- The per-connection health samples are forgotten. -/
def clearReports (self : PlayerSlot) : PlayerSlot :=
  { self with
    latestLocalFrame := none
    latestLocalFrameReportedAt := none
    latestNetworkReport := none
    latestNetworkReportedAt := none }

/-- Health samples that came with a message replace the stored ones. -/
def recordReports (self : PlayerSlot) (localFrame : Option Nat)
    (network : Option ClientNetworkQualityReport) (now : Instant) : PlayerSlot :=
  { self with
    latestLocalFrame := localFrame.or self.latestLocalFrame
    latestLocalFrameReportedAt :=
      if localFrame.isSome then some now else self.latestLocalFrameReportedAt
    latestNetworkReport := network.or self.latestNetworkReport
    latestNetworkReportedAt :=
      if network.isSome then some now else self.latestNetworkReportedAt }

/-- Take over the transport capabilities a client announced. -/
def withCapabilities (self : PlayerSlot) (c : ClientTransportCapabilities) : PlayerSlot :=
  { self with
    supportsStateFileRelay := c.supportsStateFileRelay
    supportsRomFileRelay := c.supportsRomFileRelay
    supportsScheduledStart := c.supportsScheduledStart
    supportsClockSync := c.supportsClockSync
    supportsFastInputRelay := c.supportsFastInputRelay }

/-- A guest takes the seat. -/
def occupyGuest (self : PlayerSlot) (identityKey : Text) (connectionId : ConnectionId)
    (resumeTokenHash inputSocketTokenHash : ResumeTokenHash) (now : Instant)
    (capabilities : ClientTransportCapabilities) : PlayerSlot :=
  { (self.withCapabilities capabilities).clearReports with
    role := .guest
    subjectKey := some identityKey
    connectionId := some connectionId
    inputConnectionId := none
    status := .connected
    runtimeState := .connected
    resumeTokenHash := some resumeTokenHash
    inputSocketTokenHash := some inputSocketTokenHash
    inputSocketControlConnectionId := some connectionId
    lastSeenAt := some now
    reconnectDeadline := none
    reconnectRoomEpoch := none
    runnerHandoffDeadline := none }

end PlayerSlot

end NetplayRelay.Rooms
