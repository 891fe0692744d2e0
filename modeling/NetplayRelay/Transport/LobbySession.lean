import NetplayRelay.Lobbies.LobbyRegistry

/-!
# Lobby sockets

Each member of a lobby talks to it through a socket task of its own. Many messages carry the lobby
epoch that the client has seen, and the task compares it with the lobby's before it acts. The
comparison and the action are two calls: the first reads the lobby under the read lock, the second
takes the write lock, and other tasks run in between.

What the comparison found goes through `applyLobbyResult`, which reports an error to the client. Its
own result is whether that report could be sent.
-/

namespace NetplayRelay.Transport

open Lib Protocol Rooms Auth Lobbies

/-- What a lobby client sends. -/
inductive LobbyClientMessage
  | ping
  | selectGame (lobbyEpoch : Nat) (game : LobbyGameCandidate)
  | setGameReadiness (lobbyEpoch : Nat) (proposalId : ProposalId)
    (status : LobbyGameReadinessStatus) (detail : Option Text)
  | launchGame (lobbyEpoch : Nat) (proposalId : ProposalId)
  | requestRomTransfer (lobbyEpoch : Nat) (proposalId : ProposalId) (receiverPlayerIndex : Nat)
  | requestStartupStateTransfer (lobbyEpoch : Nat) (proposalId : ProposalId)
    (receiverPlayerIndex : Nat) (state : Lobby.StartupStateTransferMetadata)
  | publishGameRoom (lobbyEpoch : Nat) (proposalId : ProposalId) (roomInviteCode : Text)
  | gameplayStarted (lobbyEpoch : Nat) (proposalId : ProposalId)
  | returnToLobby (lobbyEpoch : Nat) (proposalId : ProposalId)
    (returnRequestedByPlayerIndex : Option Nat) (reason : Option LobbyReturnReason)
  | chat (lobbyEpoch : Nat) (body : Text)
  | refreshVoiceToken (lobbyEpoch : Nat)
  | removePlayer (lobbyEpoch : Nat) (playerIndex : Nat)
  | reportActivity (lobbyEpoch : Nat) (kind : LobbyActivityKind)
  | leave (lobbyEpoch : Nat) (reason : Option Text)

/-- The epoch that the task checks with `validate_lobby_epoch` before it acts. -/
def LobbyClientMessage.guardedEpoch : LobbyClientMessage → Option Nat
  | .selectGame lobbyEpoch _ | .setGameReadiness lobbyEpoch _ _ _ | .launchGame lobbyEpoch _
  | .requestRomTransfer lobbyEpoch _ _ | .requestStartupStateTransfer lobbyEpoch _ _ _
  | .publishGameRoom lobbyEpoch _ _ | .refreshVoiceToken lobbyEpoch
  | .reportActivity lobbyEpoch _ | .leave lobbyEpoch _ => some lobbyEpoch
  | .ping | .gameplayStarted _ _ | .returnToLobby _ _ _ _ | .chat _ _ | .removePlayer _ _ => none

/-- The relay with its file relay. -/
structure LobbyServices extends LobbyServer where
  temporaryRomsEnabled : Bool
  temporaryRomMaxBytes : Nat
  saveStatesEnabled : Bool
  fileRelayEnabled : Bool
  fileRelayPublicBaseUrl : Option Text

/-- The largest snapshot. -/
def maxSnapshotBytes : Nat := 100 * 1024 * 1024

/-- What the task reads or draws when it acts: the clock, a proposal id, and what the voice broker
answered. -/
structure Drawn where
  nowMs : Nat
  proposalId : ProposalId
  voiceGrant : Option (Text × Text × Text)

/-- The lobby is at this epoch. -/
def validateLobbyEpoch (l : Lobby) (lobbyEpoch : Nat) : Except LobbyError Unit :=
  if l.lobbyEpoch ≠ lobbyEpoch then .error .staleLobbyEpoch else .ok ()

/-- An error is sent to the client. The task goes on unless sending failed. -/
def applyLobbyResult (delivers : Bool) : Except LobbyError Unit → Bool
  | .ok () => true
  | .error _ => delivers

variable (services : LobbyServices)

/-- The call that a task makes for a message once it has passed the epoch check; `none` where it
only sends something to its own client. -/
def LobbyClientMessage.op (connectionId : ConnectionId) (drawn : Drawn) :
    LobbyClientMessage → Option LobbyOp
  | .ping => none
  | .selectGame _ game => some (.selectGame connectionId game drawn.proposalId drawn.nowMs)
  | .setGameReadiness _ proposalId status detail =>
    some (.setGameReadiness connectionId proposalId status detail drawn.nowMs)
  | .launchGame _ proposalId => some (.requestGameLaunch connectionId proposalId drawn.nowMs)
  | .requestRomTransfer _ proposalId receiverPlayerIndex =>
    match PlayerIndex.new receiverPlayerIndex maxLobbyPlayers with
    | none => none
    | some receiver =>
      if !(services.temporaryRomsEnabled && services.fileRelayEnabled)
          || services.fileRelayPublicBaseUrl.isNone then none
      else some (.prepareRomRelayTransfer connectionId proposalId receiver
        services.temporaryRomMaxBytes drawn.nowMs)
  | .requestStartupStateTransfer _ proposalId receiverPlayerIndex state =>
    match PlayerIndex.new receiverPlayerIndex maxLobbyPlayers with
    | none => none
    | some receiver =>
      if !(services.saveStatesEnabled && services.fileRelayEnabled)
          || services.fileRelayPublicBaseUrl.isNone then none
      else some (.prepareStartupStateRelayTransfer connectionId proposalId receiver state
        maxSnapshotBytes drawn.nowMs)
  | .publishGameRoom _ proposalId roomInviteCode =>
    (InviteCode.parse roomInviteCode).map fun code =>
      .publishGameRoom connectionId proposalId code drawn.nowMs
  | .gameplayStarted lobbyEpoch proposalId =>
    some (.markGameplayStarted connectionId lobbyEpoch proposalId drawn.nowMs)
  | .returnToLobby lobbyEpoch proposalId none reason =>
    some (.returnFromGame ⟨connectionId, lobbyEpoch, proposalId, none, reason, drawn.nowMs⟩)
  | .returnToLobby lobbyEpoch proposalId (some playerIndex) reason =>
    (PlayerIndex.new playerIndex maxLobbyPlayers).map fun playerIndex =>
      .returnFromGame ⟨connectionId, lobbyEpoch, proposalId, some playerIndex, reason, drawn.nowMs⟩
  | .chat _ body => some (.sendChat connectionId body drawn.nowMs)
  | .refreshVoiceToken _ => drawn.voiceGrant.map fun (participantIdentity, token, expiresAt) =>
    .refreshVoiceGrant connectionId participantIdentity token expiresAt
  | .removePlayer lobbyEpoch playerIndex =>
    (PlayerIndex.new playerIndex maxLobbyPlayers).map fun playerIndex =>
      .removePlayer connectionId lobbyEpoch playerIndex drawn.nowMs
  | .reportActivity _ kind => some (.recordActivity connectionId kind drawn.nowMs)
  | .leave _ _ => some (.leave connectionId drawn.nowMs)

/-- A lobby, and the messages that socket tasks have in hand: checked, and not yet acted on. -/
structure LobbySessions where
  lobby : Lobby
  inHand : List (ConnectionId × LobbyClientMessage)

/-- What can happen next. -/
inductive LobbySessionEvent
  /-- A task receives a message and checks its epoch; `delivers` says whether an error reaches the
  client. -/
  | receive (connectionId : ConnectionId) (message : LobbyClientMessage) (delivers : Bool)
  /-- The task that has message `i` in hand acts on it. -/
  | act (i : Nat) (drawn : Drawn)
  /-- Any other call: joins, reconnects, disconnects. -/
  | call (op : LobbyOp)

namespace LobbySessions

variable (s : LobbySessions)

/-- The first half of `handle_lobby_message`. -/
def receive (connectionId : ConnectionId) (message : LobbyClientMessage) (delivers : Bool) :
    LobbySessions :=
  if message.guardedEpoch.all
      (fun lobbyEpoch => applyLobbyResult delivers (validateLobbyEpoch s.lobby lobbyEpoch)) then
    { s with inHand := s.inHand ++ [(connectionId, message)] }
  else s

/-- The second half. -/
def act (i : Nat) (drawn : Drawn) : LobbySessions :=
  match s.inHand[i]? with
  | none => s
  | some (connectionId, message) =>
    { lobby := ((message.op services connectionId drawn).map
        (applyLobbyOp services.toLobbyServer s.lobby)).getD s.lobby
      inHand := s.inHand.eraseIdx i }

/-- One event. -/
def step : LobbySessionEvent → LobbySessions
  | .receive connectionId message delivers => s.receive connectionId message delivers
  | .act i drawn => s.act services i drawn
  | .call op => { s with lobby := applyLobbyOp services.toLobbyServer s.lobby op }

end LobbySessions

end NetplayRelay.Transport
