import NetplayRelay.Auth.License
import NetplayRelay.Rooms.PlayerSlot

/-!
# Lobby seats

A lobby has four seats. A seat belongs to a subject, not to a socket: it stays taken while its
player plays a game or reconnects.
-/

namespace NetplayRelay.Lobbies

open Lib Protocol Rooms Auth

/-- Why a call is refused. -/
inductive LobbyError
  | notFound | lobbyFull | lobbyClosed | staleLobbyEpoch | resumeTokenInvalid
  | playerSlotUnavailable | unknownConnection | hostOnly | playerRemovalHostOnly
  | lobbyPlayerNotFound | cannotRemoveLobbyHost | lobbyPlayerRemovalUnavailable
  | staleGameProposal | playersNotReady | gameLaunchNotReady | romRelayUnavailable
  | romRelayUnsupported | romRelayTooLarge | startupStateRelayUnavailable
  | startupStateRelayUnsupported | startupStateRelayTooLarge | voiceUnavailable | invalidPayload
deriving DecidableEq

/-- What a client can do. -/
structure LobbyClientCapabilities where
  supportsLobby : Bool
  supportsTemporarySessionRomRelay : Bool
  supportsLobbyVoice : Bool
  supportsMultiGameLobby : Bool
  supportsLobbyReturnedEvent : Bool
  supportsLobbyGameplayStarted : Bool
  supportsLobbyPlayerRemovedEvent : Bool
deriving DecidableEq

/-- A client that says nothing. -/
def LobbyClientCapabilities.default : LobbyClientCapabilities :=
  ⟨false, false, false, false, false, false, false⟩

/-- Who somebody is in the lobby. -/
inductive LobbyPlayerRole
  | host | guest
deriving DecidableEq

/-- What a seat is doing. -/
inductive LobbyPlayerStatus
  | empty | connected | reconnecting | disconnected
deriving DecidableEq

/-- The colors of the seats. -/
def playerColors : List Text :=
  ["cyan".toList, "violet".toList, "amber".toList, "emerald".toList]

/-- The color of a seat. -/
def playerColor (playerIndex : PlayerIndex) : Text :=
  (playerColors[playerIndex.zeroBased]?).getD "cyan".toList

/-- A seat. -/
structure LobbyPlayerSlot where
  playerIndex : PlayerIndex
  role : LobbyPlayerRole
  color : Text
  subjectKey : Option Text
  clientKind : Option ClientKind
  connectionId : Option ConnectionId
  displayName : Option Text
  status : LobbyPlayerStatus
  capabilities : LobbyClientCapabilities
  resumeTokenHash : Option ResumeTokenHash
  lastSeenAtMs : Option Nat
deriving DecidableEq

/-- What a player takes or refreshes a seat with. -/
structure LobbyPlayerOccupancy where
  role : LobbyPlayerRole
  license : VerifiedLicense
  connectionId : ConnectionId
  displayName : Option Text
  capabilities : LobbyClientCapabilities
  resumeTokenHash : ResumeTokenHash
  nowMs : Nat

namespace LobbyPlayerSlot

/-- A free seat. -/
def empty (playerIndex : PlayerIndex) : LobbyPlayerSlot where
  playerIndex := playerIndex
  role := .guest
  color := playerColor playerIndex
  subjectKey := none
  clientKind := none
  connectionId := none
  displayName := none
  status := .empty
  capabilities := .default
  resumeTokenHash := none
  lastSeenAtMs := none

variable (slot : LobbyPlayerSlot)

/-- Nobody has the seat. -/
def isEmpty : Bool := slot.status = .empty

/-- The seat is this client's. -/
def belongsTo (license : VerifiedLicense) : Bool := slot.subjectKey = some license.identityKey

/-- A display name is kept when the new one is missing. -/
def occupy (occupancy : LobbyPlayerOccupancy) : LobbyPlayerSlot :=
  { slot with
    role := occupancy.role
    subjectKey := some occupancy.license.identityKey
    clientKind := some occupancy.license.clientKind
    connectionId := some occupancy.connectionId
    displayName := occupancy.displayName <|> slot.displayName
    status := .connected
    capabilities := occupancy.capabilities
    resumeTokenHash := some occupancy.resumeTokenHash
    lastSeenAtMs := some occupancy.nowMs }

/-- The host's seat. -/
def host (license : VerifiedLicense) (connectionId : ConnectionId) (displayName : Option Text)
    (capabilities : LobbyClientCapabilities) (resumeTokenHash : ResumeTokenHash) (nowMs : Nat) :
    LobbyPlayerSlot :=
  (empty .one).occupy
    ⟨.host, license, connectionId, displayName, capabilities, resumeTokenHash, nowMs⟩

/-- Somebody sits here with an open socket. -/
def isPresent : Bool := slot.subjectKey.isSome && slot.connectionId.isSome

end LobbyPlayerSlot

end NetplayRelay.Lobbies
