import NetplayRelay.Lib.Run
import NetplayRelay.Lib.Store
import NetplayRelay.Lobbies.Lobby

/-!
# The lobby registry

All lobbies of a relay, under their invite codes. As with rooms, a call works on one lobby under the
write lock, and creating a lobby waits for the voice broker between drawing the code and storing the
lobby.
-/

namespace NetplayRelay.Lobbies

open Lib Protocol Rooms Auth

/-- What the registry is set up with. -/
structure LobbyServer where
  hashResumeToken : Text → ResumeTokenHash
  supportsLobbyPlayerRemoval : Bool

/-- One call for a lobby. A call carries what the registry draws for it: the resume token and the
socket of a join, the id of a proposal, the time. -/
inductive LobbyOp
  /-- `join_lobby` and `connect_lobby`, which differ in who draws the connection id. -/
  | join (license : VerifiedLicense) (connectionId : ConnectionId) (displayName : Option Text)
    (capabilities : LobbyClientCapabilities) (resumeToken : Text) (nowMs : Nat)
  | reconnect (request : LobbyReconnectRequest)
  | disconnect (connectionId : ConnectionId) (nowMs : Nat)
  | leave (connectionId : ConnectionId) (nowMs : Nat)
  | removePlayer (connectionId : ConnectionId) (lobbyEpoch : Nat) (targetPlayerIndex : PlayerIndex)
    (nowMs : Nat)
  | selectGame (connectionId : ConnectionId) (game : LobbyGameCandidate) (proposalId : ProposalId)
    (nowMs : Nat)
  | setGameReadiness (connectionId : ConnectionId) (proposalId : ProposalId)
    (status : LobbyGameReadinessStatus) (detail : Option Text) (nowMs : Nat)
  | requestGameLaunch (connectionId : ConnectionId) (proposalId : ProposalId) (nowMs : Nat)
  | prepareRomRelayTransfer (connectionId : ConnectionId) (proposalId : ProposalId)
    (receiverPlayerIndex : PlayerIndex) (maxBytes : Nat) (nowMs : Nat)
  | prepareStartupStateRelayTransfer (connectionId : ConnectionId) (proposalId : ProposalId)
    (receiverPlayerIndex : PlayerIndex) (state : Lobby.StartupStateTransferMetadata)
    (maxBytes : Nat) (nowMs : Nat)
  | publishGameRoom (connectionId : ConnectionId) (proposalId : ProposalId)
    (roomInviteCode : InviteCode) (nowMs : Nat)
  | markGameplayStarted (connectionId : ConnectionId) (lobbyEpoch : Nat) (proposalId : ProposalId)
    (nowMs : Nat)
  | returnFromGame (request : LobbyReturnRequest)
  | sendChat (connectionId : ConnectionId) (body : Text) (nowMs : Nat)
  | refreshVoiceGrant (connectionId : ConnectionId) (participantIdentity token expiresAt : Text)
  | recordActivity (connectionId : ConnectionId) (kind : LobbyActivityKind) (nowMs : Nat)

section

variable (server : LobbyServer) (l : Lobby)

/-- A leave, and its cleanup. -/
def leaveLobby (connectionId : ConnectionId) (nowMs : Nat) : LobbyOutcome Unit :=
  match l.leave connectionId nowMs with
  | (.error error, l') => (.error error, l')
  | (.ok (), l') => (.ok (), if l'.status = .closed then l'.takeVoiceRoomIdForCleanup else l')

/-- A removal, where the server has it. -/
def removeLobbyPlayer (connectionId : ConnectionId) (lobbyEpoch : Nat)
    (targetPlayerIndex : PlayerIndex) (nowMs : Nat) : LobbyOutcome LobbyPlayerRemoval :=
  if !server.supportsLobbyPlayerRemoval then (.error .lobbyPlayerRemovalUnavailable, l)
  else l.removePlayer connectionId lobbyEpoch targetPlayerIndex nowMs

/-- A prepared transfer counts as activity. -/
def withActivity {α : Type} (prepared : Except LobbyError α) (connectionId : ConnectionId)
    (nowMs : Nat) : LobbyOutcome α :=
  match prepared with
  | .error error => (.error error, l)
  | .ok intent =>
    match l.recordActivity connectionId .romRelay nowMs with
    | (.error error, l') => (.error error, l')
    | (.ok (), l') => (.ok intent, l')

/-- A ROM transfer is activity. -/
def prepareLobbyRomRelayTransfer (connectionId : ConnectionId) (proposalId : ProposalId)
    (receiverPlayerIndex : PlayerIndex) (maxBytes nowMs : Nat) :
    LobbyOutcome Lobby.RomRelayTransferIntent :=
  withActivity l (l.prepareRomRelayTransfer connectionId proposalId receiverPlayerIndex maxBytes)
    connectionId nowMs

/-- A state transfer is activity. -/
def prepareLobbyStartupStateRelayTransfer (connectionId : ConnectionId) (proposalId : ProposalId)
    (receiverPlayerIndex : PlayerIndex) (state : Lobby.StartupStateTransferMetadata)
    (maxBytes nowMs : Nat) : LobbyOutcome Lobby.StartupStateRelayTransferIntent :=
  withActivity l
    (l.prepareStartupStateRelayTransfer connectionId proposalId receiverPlayerIndex state maxBytes)
    connectionId nowMs

/-- A chat line is activity. -/
def sendLobbyChat (connectionId : ConnectionId) (body : Text) (nowMs : Nat) : LobbyOutcome Text :=
  match l.playerIndexForConnection connectionId, sanitizeChatBody body with
  | .error error, _ => (.error error, l)
  | .ok _, .error error => (.error error, l)
  | .ok _, .ok body => (.ok body, l.markMeaningfulActivity nowMs)

/-- The lobby after a call. -/
def applyLobbyOp : LobbyOp → Lobby
  | .join license c displayName capabilities resumeToken nowMs =>
    (l.joinOrRefreshPlayer license c displayName capabilities
      (server.hashResumeToken resumeToken) nowMs).2
  | .reconnect request => (l.reconnectPlayer server.hashResumeToken request).2
  | .disconnect c nowMs => (l.disconnect c nowMs).2
  | .leave c nowMs => (leaveLobby l c nowMs).2
  | .removePlayer c lobbyEpoch target nowMs =>
    (removeLobbyPlayer server l c lobbyEpoch target nowMs).2
  | .selectGame c game proposalId nowMs => (l.selectGame c game proposalId nowMs).2
  | .setGameReadiness c proposalId status detail nowMs =>
    (l.setGameReadiness c proposalId status detail nowMs).2
  | .requestGameLaunch c proposalId nowMs => (l.requestGameLaunch c proposalId nowMs).2
  | .prepareRomRelayTransfer c proposalId receiver maxBytes nowMs =>
    (prepareLobbyRomRelayTransfer l c proposalId receiver maxBytes nowMs).2
  | .prepareStartupStateRelayTransfer c proposalId receiver state maxBytes nowMs =>
    (prepareLobbyStartupStateRelayTransfer l c proposalId receiver state maxBytes nowMs).2
  | .publishGameRoom c proposalId code nowMs => (l.publishGameRoom c proposalId code nowMs).2
  | .markGameplayStarted c lobbyEpoch proposalId nowMs =>
    (l.markGameplayStarted c lobbyEpoch proposalId nowMs).2
  | .returnFromGame request => (l.returnToLobby request).2
  | .sendChat c body nowMs => (sendLobbyChat l c body nowMs).2
  | .refreshVoiceGrant c identity token expiresAt =>
    (l.refreshVoiceGrant c identity token expiresAt).2
  | .recordActivity c kind nowMs => (l.recordActivity c kind nowMs).2

end

/-! ## All lobbies -/

/-- The lobby is completed with what the voice broker answered, if it was asked. -/
def LobbyCreateRequest.complete (request : LobbyCreateRequest) (voice : Option RoomVoiceState) :
    Lobby :=
  match voice with
  | none => .new request
  | some voice => (Lobby.new request).setVoiceState voice

/-- The stored lobbies and those that are being created. -/
abbrev LobbyRegistry := Intake Text LobbyCreateRequest Lobby

namespace LobbyRegistry

variable (server : LobbyServer) (registry : LobbyRegistry)

/-- `create_lobby` up to the call of the broker. -/
def beginCreateLobby (request : LobbyCreateRequest) : LobbyRegistry :=
  registry.begin request.inviteCode.normalized request

/-- The rest of `create_lobby`: the lobby is inserted under its code. -/
def finishCreateLobby (i : Nat) (voice : Option RoomVoiceState) : LobbyRegistry :=
  registry.finish LobbyCreateRequest.complete i voice

/-- A call for the lobby with this code. -/
def call (code : InviteCode) (op : LobbyOp) : LobbyRegistry :=
  match registry.stored.lookup code.normalized with
  | none => registry
  | some lobby =>
    { registry with
      stored := registry.stored.insert code.normalized (applyLobbyOp server lobby op) }

/-- Idle lobbies are closed first and removed afterwards. The result is their number. -/
def expireIdleLobbies (nowMs idleTimeoutMs : Nat) : Nat × LobbyRegistry :=
  let expires : Lobby → Bool := fun lobby =>
    lobby.isMeaningfullyIdle nowMs idleTimeoutMs && (lobby.closeDueToIdle nowMs).1
  let expiredKeys := Store.keysWhere expires registry.stored
  let worked := Store.mapValues (fun lobby =>
    if expires lobby then (lobby.closeDueToIdle nowMs).2.takeVoiceRoomIdForCleanup else lobby)
    registry.stored
  (expiredKeys.length, { registry with stored := Store.eraseAll expiredKeys worked })

end LobbyRegistry

/-- One thing that happens to a lobby registry. -/
inductive LobbyRegistryOp
  | beginCreateLobby (request : LobbyCreateRequest)
  | finishCreateLobby (i : Nat) (voice : Option RoomVoiceState)
  | call (code : InviteCode) (op : LobbyOp)
  | expireIdleLobbies (nowMs idleTimeoutMs : Nat)

/-- The registry after a call. -/
def LobbyRegistry.apply (server : LobbyServer) (registry : LobbyRegistry) :
    LobbyRegistryOp → LobbyRegistry
  | .beginCreateLobby request => LobbyRegistry.beginCreateLobby registry request
  | .finishCreateLobby i voice => LobbyRegistry.finishCreateLobby registry i voice
  | .call code op => LobbyRegistry.call server registry code op
  | .expireIdleLobbies nowMs idleTimeoutMs =>
    (LobbyRegistry.expireIdleLobbies registry nowMs idleTimeoutMs).2

end NetplayRelay.Lobbies
