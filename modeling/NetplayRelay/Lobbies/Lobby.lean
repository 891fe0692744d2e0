import NetplayRelay.Lobbies.LobbyGame
import NetplayRelay.Rooms.Room

/-!
# The lobby

`Lobby` and its operations. Each operation checks its request against the lobby and changes nothing
unless it succeeds; whatever changes the roster, the game or the launch also moves `eventSeq` and
`lobbyEpoch` on. Reported activity moves only the time that idle cleanup goes by.
-/

namespace NetplayRelay.Lobbies

open Lib Protocol Rooms Auth

/-- The seats of a lobby. -/
def maxLobbyPlayers : Nat := 4

/-- What a lobby is doing. -/
inductive LobbyStatus
  | «open» | gameSelected | inGame | closed
deriving DecidableEq

/-- Who finds a lobby. -/
inductive LobbyVisibility
  | «private» | «public»
deriving DecidableEq

/-- A lobby. -/
structure Lobby where
  lobbyId : RoomId
  inviteCode : InviteCode
  eventSeq : Nat
  lobbyEpoch : Nat
  createdAtMs : Nat
  updatedAtMs : Nat
  lastMeaningfulActivityAtMs : Nat
  status : LobbyStatus
  visibility : LobbyVisibility
  players : List LobbyPlayerSlot
  selectedGame : Option LobbyGameSelectionView
  gameReadiness : List LobbyGameReadinessView
  pendingLaunch : Option LobbyGameLaunchView
  lastReturn : Option LobbyReturnedView
  voice : Option RoomVoiceState

/-- What a fallible operation returns, and the lobby it leaves behind. -/
abbrev LobbyOutcome (α : Type) := Except LobbyError α × Lobby

/-- What a lobby is made from. -/
structure LobbyCreateRequest where
  lobbyId : RoomId
  inviteCode : InviteCode
  host : VerifiedLicense
  hostConnection : ConnectionId
  hostDisplayName : Option Text
  hostCapabilities : LobbyClientCapabilities
  hostResumeTokenHash : ResumeTokenHash
  initialGame : Option LobbyGameCandidate
  /-- The id drawn for the proposal of the first game. -/
  proposalId : ProposalId
  visibility : LobbyVisibility
  nowMs : Nat

/-- A member comes back. -/
structure LobbyReconnectRequest where
  license : VerifiedLicense
  playerIndex : PlayerIndex
  lobbyEpoch : Nat
  resumeToken : Text
  connectionId : ConnectionId
  displayName : Option Text
  capabilities : LobbyClientCapabilities
  nowMs : Nat

/-- What a removal leaves to clean up. -/
structure LobbyPlayerRemoval where
  playerIndex : PlayerIndex
  connectionId : Option ConnectionId
  voiceRoomId : Option Text
  participantIdentity : Option Text

namespace Lobby

/-- A lobby with its host. -/
def new (request : LobbyCreateRequest) : Lobby where
  lobbyId := request.lobbyId
  inviteCode := request.inviteCode
  eventSeq := 1
  lobbyEpoch := 1
  createdAtMs := request.nowMs
  updatedAtMs := request.nowMs
  lastMeaningfulActivityAtMs := request.nowMs
  status := if request.initialGame.isSome then .gameSelected else .open
  visibility := request.visibility
  players := [.host request.host request.hostConnection request.hostDisplayName
      request.hostCapabilities request.hostResumeTokenHash request.nowMs,
    .empty ⟨1⟩, .empty ⟨2⟩, .empty ⟨3⟩]
  selectedGame := request.initialGame.map fun game =>
    ⟨request.proposalId, PlayerIndex.one.zeroBased, request.nowMs, game⟩
  gameReadiness := []
  pendingLaunch := none
  lastReturn := none
  voice := none

variable (l : Lobby)

/-- Both counters go up. They are `u64` in the source and have no limit here. -/
def bump (nowMs : Nat) : Lobby :=
  { l with eventSeq := l.eventSeq + 1, lobbyEpoch := l.lobbyEpoch + 1, updatedAtMs := nowMs }

/-- The lobby is not idle. -/
def markMeaningfulActivity (nowMs : Nat) : Lobby := { l with lastMeaningfulActivityAtMs := nowMs }

/-- A change is activity. -/
def bumpWithActivity (nowMs : Nat) : Lobby := (l.bump nowMs).markMeaningfulActivity nowMs

/-- A seat by its number. -/
def slot (playerIndex : PlayerIndex) : Option LobbyPlayerSlot :=
  l.players.find? (·.playerIndex = playerIndex)

/-- The slot that a socket holds. -/
def slotForConnection (connectionId : ConnectionId) : Option LobbyPlayerSlot :=
  l.players.find? (·.connectionId = some connectionId)

/-- An edit of one seat. -/
def updateSlot (test : LobbyPlayerSlot → Bool) (edit : LobbyPlayerSlot → LobbyPlayerSlot) : Lobby :=
  { l with players := updateFirst test edit l.players }

/-- Whose socket it is. -/
def playerIndexForConnection (connectionId : ConnectionId) : Except LobbyError PlayerIndex :=
  match l.slotForConnection connectionId with
  | none => .error .unknownConnection
  | some slot => .ok slot.playerIndex

/-- The slot of the player that a socket speaks for. -/
def memberSlot (connectionId : ConnectionId) : Option LobbyPlayerSlot :=
  (l.slotForConnection connectionId).bind (l.slot ·.playerIndex)

/-- The status of a lobby without a launch. -/
def idleStatus : LobbyStatus := if l.selectedGame.isSome then .gameSelected else .open

/-- The proposal is the selected one. -/
def requireSelectedProposal (proposalId : ProposalId) : Except LobbyError Unit :=
  if l.selectedGame.any (·.proposalId = proposalId) then .ok () else .error .staleGameProposal

/-! ## Taking and giving up a seat -/

/-- A player takes a seat, or its own again. -/
def joinOrRefreshPlayer (license : VerifiedLicense) (connectionId : ConnectionId)
    (displayName : Option Text) (capabilities : LobbyClientCapabilities)
    (resumeTokenHash : ResumeTokenHash) (nowMs : Nat) : LobbyOutcome PlayerIndex :=
  if l.status = .closed then (.error .lobbyClosed, l)
  else match l.players.find? (·.belongsTo license) with
    | some slot =>
      (.ok slot.playerIndex,
        (l.updateSlot (·.belongsTo license) fun slot => slot.occupy
          ⟨slot.role, license, connectionId, displayName, capabilities, resumeTokenHash,
            nowMs⟩).bumpWithActivity nowMs)
    | none =>
      match l.players.find? (·.isEmpty) with
      | none => (.error .lobbyFull, l)
      | some slot =>
        (.ok slot.playerIndex,
          (l.updateSlot (·.isEmpty) fun slot => slot.occupy
            ⟨.guest, license, connectionId, displayName, capabilities, resumeTokenHash,
              nowMs⟩).bumpWithActivity nowMs)

/-- The resume token stays valid: the seat keeps its hash. An epoch from the past is accepted. -/
def reconnectPlayer (hashResumeToken : Text → ResumeTokenHash) (request : LobbyReconnectRequest) :
    LobbyOutcome PlayerIndex :=
  if l.status = .closed then (.error .lobbyClosed, l)
  else if request.lobbyEpoch > l.lobbyEpoch then (.error .staleLobbyEpoch, l)
  else match l.slot request.playerIndex with
    | none => (.error .playerSlotUnavailable, l)
    | some slot =>
      if !slot.belongsTo request.license then (.error .playerSlotUnavailable, l)
      else if slot.resumeTokenHash ≠ some (hashResumeToken request.resumeToken) then
        (.error .resumeTokenInvalid, l)
      else
        (.ok request.playerIndex,
          (l.updateSlot (·.playerIndex = request.playerIndex) fun slot => slot.occupy
            ⟨slot.role, request.license, request.connectionId, request.displayName,
              request.capabilities, hashResumeToken request.resumeToken,
              request.nowMs⟩).bumpWithActivity request.nowMs)

/-- A member's socket is gone. -/
def disconnect (connectionId : ConnectionId) (nowMs : Nat) : Bool × Lobby :=
  match l.slotForConnection connectionId with
  | none => (false, l)
  | some _ =>
    (true, (l.updateSlot (·.connectionId = some connectionId) fun slot =>
      { slot with
        connectionId := none
        status := .reconnecting
        lastSeenAtMs := some nowMs }).bump nowMs)

/-- The lobby is over. -/
def close (nowMs : Nat) : Lobby :=
  { l with
    status := .closed
    pendingLaunch := none
    players := updateWhere (·.subjectKey.isSome) (fun slot =>
      { slot with
        connectionId := none
        status := .disconnected
        lastSeenAtMs := some nowMs }) l.players }.bump nowMs

/-- The seat and its readiness are gone. -/
def vacate (playerIndex : PlayerIndex) : Lobby :=
  { l.updateSlot (·.playerIndex = playerIndex) (fun _ => .empty playerIndex) with
    gameReadiness := l.gameReadiness.filter (·.playerIndex ≠ playerIndex.zeroBased)
    status := l.idleStatus }

/-- A guest leaves; the host closes the lobby. -/
def leave (connectionId : ConnectionId) (nowMs : Nat) : LobbyOutcome Unit :=
  match l.memberSlot connectionId with
  | none => (.error .unknownConnection, l)
  | some slot =>
    if slot.role = .host then (.ok (), l.close nowMs)
    else (.ok (), { l.vacate slot.playerIndex with pendingLaunch := none }.bumpWithActivity nowMs)

/-- A member's voice grant. -/
def voiceGrantFor (playerIndex : PlayerIndex) : Option VoiceJoinGrant :=
  l.voice.bind (·.grants.lookup playerIndex)

/-- The host removes a guest. -/
def removePlayer (requesterConnectionId : ConnectionId) (lobbyEpoch : Nat)
    (targetPlayerIndex : PlayerIndex) (nowMs : Nat) : LobbyOutcome LobbyPlayerRemoval :=
  if l.lobbyEpoch ≠ lobbyEpoch then (.error .staleLobbyEpoch, l)
  else match l.memberSlot requesterConnectionId with
    | none => (.error .unknownConnection, l)
    | some requester =>
      if requester.role ≠ .host then (.error .playerRemovalHostOnly, l)
      else if l.status = .closed || l.status = .inGame || l.pendingLaunch.isSome then
        (.error .lobbyPlayerRemovalUnavailable, l)
      else match l.slot targetPlayerIndex with
        | none => (.error .lobbyPlayerNotFound, l)
        | some target =>
          if target.role = .host then (.error .cannotRemoveLobbyHost, l)
          else if target.subjectKey.isNone then (.error .lobbyPlayerNotFound, l)
          else
            let voice := l.voiceGrantFor targetPlayerIndex
            (.ok ⟨targetPlayerIndex, target.connectionId, voice.map (·.voiceRoomId),
                voice.map (·.participantIdentity)⟩,
              (l.vacate targetPlayerIndex).bumpWithActivity nowMs)

/-! ## Games -/

/-- The host selects a game. -/
def selectGame (connectionId : ConnectionId) (game : LobbyGameCandidate) (proposalId : ProposalId)
    (nowMs : Nat) : LobbyOutcome LobbyGameSelectionView :=
  match l.memberSlot connectionId with
  | none => (.error .unknownConnection, l)
  | some slot =>
    if slot.role ≠ .host then (.error .hostOnly, l)
    else match validateGameCandidate game with
      | .error error => (.error error, l)
      | .ok () =>
        let proposal := ⟨proposalId, slot.playerIndex.zeroBased, nowMs, game⟩
        (.ok proposal,
          { l with
            selectedGame := some proposal
            gameReadiness := []
            pendingLaunch := none
            lastReturn := none
            status := .gameSelected }.bumpWithActivity nowMs)

/-- A player has one readiness entry. -/
def putReadiness (readiness : LobbyGameReadinessView) : List LobbyGameReadinessView :=
  if l.gameReadiness.any (·.playerIndex = readiness.playerIndex) then
    updateFirst (·.playerIndex = readiness.playerIndex) (fun _ => readiness) l.gameReadiness
  else l.gameReadiness ++ [readiness]

/-- A member says whether it has the game. -/
def setGameReadiness (connectionId : ConnectionId) (proposalId : ProposalId)
    (status : LobbyGameReadinessStatus) (detail : Option Text) (nowMs : Nat) :
    LobbyOutcome LobbyGameReadinessView :=
  match l.playerIndexForConnection connectionId with
  | .error error => (.error error, l)
  | .ok playerIndex =>
    match l.requireSelectedProposal proposalId with
    | .error error => (.error error, l)
    | .ok () =>
      match LobbyGameReadinessView.new playerIndex proposalId status detail nowMs with
      | .error error => (.error error, l)
      | .ok readiness =>
        (.ok readiness,
          { l with
            gameReadiness := l.putReadiness readiness
            pendingLaunch := none
            status := .gameSelected }.bumpWithActivity nowMs)

/-- Everybody present has the game. -/
def connectedPlayersAreReady (proposalId : ProposalId) : Bool :=
  (l.players.filter (·.isPresent)).all fun slot =>
    l.gameReadiness.any fun readiness =>
      readiness.playerIndex = slot.playerIndex.zeroBased && readiness.proposalId = proposalId
        && readiness.status = .ready

/-- The host launches the game. -/
def requestGameLaunch (connectionId : ConnectionId) (proposalId : ProposalId) (nowMs : Nat) :
    LobbyOutcome LobbyGameLaunchView :=
  match l.memberSlot connectionId with
  | none => (.error .unknownConnection, l)
  | some slot =>
    if slot.role ≠ .host then (.error .hostOnly, l)
    else match l.requireSelectedProposal proposalId with
      | .error error => (.error error, l)
      | .ok () =>
        if !l.connectedPlayersAreReady proposalId then (.error .playersNotReady, l)
        else
          let launch := LobbyGameLaunchView.new proposalId slot.playerIndex nowMs
          (.ok launch,
            { l with
              pendingLaunch := some launch
              lastReturn := none
              status := .inGame }.bumpWithActivity nowMs)

/-- The host names the game's room. -/
def publishGameRoom (connectionId : ConnectionId) (proposalId : ProposalId)
    (roomInviteCode : InviteCode) (nowMs : Nat) : LobbyOutcome LobbyGameLaunchView :=
  match l.memberSlot connectionId with
  | none => (.error .unknownConnection, l)
  | some slot =>
    if slot.role ≠ .host then (.error .hostOnly, l)
    else match l.requireSelectedProposal proposalId, l.pendingLaunch with
      | .error error, _ => (.error error, l)
      | .ok (), none => (.error .staleGameProposal, l)
      | .ok (), some launch =>
        if launch.proposalId ≠ proposalId then (.error .staleGameProposal, l)
        else
          let published := launch.publishRoom roomInviteCode.display nowMs
          (.ok published,
            { l with
              pendingLaunch := some published
              status := .inGame }.bumpWithActivity nowMs)

/-- The players whose reports a launch waits for. There are none to wait for when somebody present
cannot report. -/
def gameplayStartExpectedPlayerIndexes : Option (List PlayerIndex) :=
  let connectedPlayers := l.players.filter (·.isPresent)
  if connectedPlayers.any (fun slot => !slot.capabilities.supportsLobbyGameplayStarted) then none
  else some (connectedPlayers.map (·.playerIndex))

/-- A member plays. -/
def markGameplayStarted (connectionId : ConnectionId) (lobbyEpoch : Nat) (proposalId : ProposalId)
    (nowMs : Nat) : LobbyOutcome Bool :=
  match l.memberSlot connectionId with
  | none => (.error .unknownConnection, l)
  | some slot =>
    if !slot.capabilities.supportsLobbyGameplayStarted then (.ok false, l)
    else match l.requireSelectedProposal proposalId with
      | .error error => (.error error, l)
      | .ok () =>
        if lobbyEpoch ≠ l.lobbyEpoch then
          if l.pendingLaunch.any fun launch =>
              launch.proposalId = proposalId && launch.status = .playing then
            (.ok false, l)
          else (.error .staleLobbyEpoch, l)
        else match l.gameplayStartExpectedPlayerIndexes, l.pendingLaunch with
          | none, _ => (.ok false, l)
          | some _, none => (.error .staleGameProposal, l)
          | some expected, some launch =>
            if launch.proposalId ≠ proposalId then (.error .staleGameProposal, l)
            else match launch.markPlayerStarted slot.playerIndex expected nowMs with
              | (.error error, _) => (.error error, l)
              | (.ok false, _) => (.ok false, l)
              | (.ok true, started) =>
                (.ok true,
                  { l with
                    pendingLaunch := some started
                    status := .inGame }.bumpWithActivity nowMs)

/-- The answer to a repeated return. -/
def idempotentReturnOutcome (proposalId : ProposalId) : Option LobbyReturnOutcome :=
  (l.lastReturn.filter (·.proposalId = proposalId)).map (⟨·, false⟩)

/-- A request that comes too late is answered with the return it may have been about. -/
def returnToLobby (request : LobbyReturnRequest) : LobbyOutcome LobbyReturnOutcome :=
  match l.playerIndexForConnection request.connectionId with
  | .error error => (.error error, l)
  | .ok _ =>
    match l.requireSelectedProposal request.proposalId with
    | .error error => (.error error, l)
    | .ok () =>
      if request.lobbyEpoch ≠ l.lobbyEpoch then
        match l.idempotentReturnOutcome request.proposalId with
        | none => (.error .staleLobbyEpoch, l)
        | some outcome => (.ok outcome, l)
      else if !l.pendingLaunch.any (·.proposalId = request.proposalId) then
        match l.idempotentReturnOutcome request.proposalId with
        | none => (.error .staleGameProposal, l)
        | some outcome => (.ok outcome, l)
      else
        let returned : LobbyReturnedView :=
          ⟨request.proposalId, request.returnRequestedByPlayerIndex.map (·.zeroBased),
            request.reason, request.nowMs⟩
        (.ok ⟨returned, true⟩,
          { l with
            gameReadiness := []
            pendingLaunch := none
            status := l.idleStatus
            lastReturn := some returned }.bumpWithActivity request.nowMs)

/-! ## Activity and idle cleanup -/

/-- A member is active. -/
def recordActivity (connectionId : ConnectionId) (_kind : LobbyActivityKind) (nowMs : Nat) :
    LobbyOutcome Unit :=
  match l.playerIndexForConnection connectionId with
  | .error error => (.error error, l)
  | .ok _ => (.ok (), l.markMeaningfulActivity nowMs)

/-- Nobody was active for too long. -/
def isMeaningfullyIdle (nowMs idleTimeoutMs : Nat) : Bool :=
  l.status ≠ .closed && nowMs - l.lastMeaningfulActivityAtMs ≥ idleTimeoutMs

/-- An idle lobby is over. -/
def closeDueToIdle (nowMs : Nat) : Bool × Lobby :=
  if l.status = .closed then (false, l) else (true, l.close nowMs)

/-! ## Voice -/

/-- The lobby has a voice room. -/
def setVoiceState (voice : RoomVoiceState) : Lobby := { l with voice := some voice }

/-- A member's voice grant is renewed. -/
def refreshVoiceGrant (connectionId : ConnectionId) (participantIdentity token expiresAt : Text) :
    LobbyOutcome VoiceJoinGrant :=
  match l.playerIndexForConnection connectionId, l.voice with
  | .error error, _ => (.error error, l)
  | .ok _, none => (.error .voiceUnavailable, l)
  | .ok playerIndex, some voice =>
    match voice.grants.lookup playerIndex with
    | none => (.error .voiceUnavailable, l)
    | some grant =>
      if grant.participantIdentity ≠ participantIdentity then (.error .voiceUnavailable, l)
      else
        let refreshed := { grant with token := token, expiresAt := expiresAt }
        (.ok refreshed, { l with
          voice := some { voice with grants := voice.grants.replace playerIndex refreshed } })

/-- The voice room is given up. -/
def takeVoiceRoomIdForCleanup : Lobby :=
  { l with voice := if (l.voice.bind (·.voiceRoomId)).isSome then none else l.voice }

/-! ## Relayed files -/

/-- The checks that both kinds of transfer begin with: the host asks, the receiver is here, and
both can use the file relay. -/
def relayParties (connectionId : ConnectionId) (receiverPlayerIndex : PlayerIndex)
    (unsupported : LobbyError) : Except LobbyError (PlayerIndex × ConnectionId) :=
  match l.memberSlot connectionId with
  | none => .error .unknownConnection
  | some sender =>
    if sender.role ≠ .host then .error .hostOnly
    else match l.slot receiverPlayerIndex with
      | none => .error .playerSlotUnavailable
      | some receiver =>
        match receiver.connectionId with
        | none => .error .playerSlotUnavailable
        | some receiverConnectionId =>
          if !sender.capabilities.supportsTemporarySessionRomRelay
              || !receiver.capabilities.supportsTemporarySessionRomRelay then .error unsupported
          else .ok (sender.playerIndex, receiverConnectionId)

/-- A ROM to relay, and between whom. -/
structure RomRelayTransferIntent where
  lobbyId : RoomId
  proposalId : ProposalId
  game : LobbyGameCandidate
  sha256 : Text
  sizeBytes : Nat
  senderPlayerIndex : PlayerIndex
  senderConnectionId : ConnectionId
  receiverPlayerIndex : PlayerIndex
  receiverConnectionId : ConnectionId

/-- The checks before a ROM is relayed. -/
def prepareRomRelayTransfer (connectionId : ConnectionId) (proposalId : ProposalId)
    (receiverPlayerIndex : PlayerIndex) (maxBytes : Nat) :
    Except LobbyError RomRelayTransferIntent :=
  match l.relayParties connectionId receiverPlayerIndex .romRelayUnsupported with
  | .error error => .error error
  | .ok (senderPlayerIndex, receiverConnectionId) =>
    match l.selectedGame.filter (·.proposalId = proposalId) with
    | none => .error .staleGameProposal
    | some selectedGame =>
      match selectedGame.game.contentSha256, selectedGame.game.romSizeBytes with
      | some sha256, some sizeBytes =>
        if !isSha256Hex sha256 then .error .invalidPayload
        else if sizeBytes > maxBytes then .error .romRelayTooLarge
        else .ok ⟨l.lobbyId, proposalId, selectedGame.game, sha256, sizeBytes, senderPlayerIndex,
          connectionId, receiverPlayerIndex, receiverConnectionId⟩
      | _, _ => .error .invalidPayload

/-- When a startup state is loaded. -/
inductive StartupStateRestorePolicy
  | immediate
  | afterFrames (frames : Nat)
deriving DecidableEq

/-- What a startup state is. -/
structure StartupStateTransferMetadata where
  sha256 : Text
  sizeBytes : Nat
  label : Option Text
  restorePolicy : StartupStateRestorePolicy
  stateFormat : Option Text
deriving DecidableEq

/-- A label counts only if something is left of it after trimming. -/
def trimmedLabel (label : Option Text) : Option Text :=
  (label.map Text.trim).filter fun label => !label.isEmpty

/-- The checks on a startup state. -/
def validStartupStateMetadata (state : StartupStateTransferMetadata) (selectedLabel : Text) :
    Bool :=
  isSha256Hex state.sha256 && state.sizeBytes > 0
    && (trimmedLabel state.label).all (· = selectedLabel)
    && state.stateFormat.all (fun format => !format.trim.isEmpty)

/-- A state to relay, and between whom. -/
structure StartupStateRelayTransferIntent where
  lobbyId : RoomId
  proposalId : ProposalId
  game : LobbyGameCandidate
  state : StartupStateTransferMetadata
  senderPlayerIndex : PlayerIndex
  senderConnectionId : ConnectionId
  receiverPlayerIndex : PlayerIndex
  receiverConnectionId : ConnectionId

/-- The checks before a state is relayed. -/
def prepareStartupStateRelayTransfer (connectionId : ConnectionId) (proposalId : ProposalId)
    (receiverPlayerIndex : PlayerIndex) (state : StartupStateTransferMetadata) (maxBytes : Nat) :
    Except LobbyError StartupStateRelayTransferIntent :=
  match l.relayParties connectionId receiverPlayerIndex .startupStateRelayUnsupported with
  | .error error => .error error
  | .ok (senderPlayerIndex, receiverConnectionId) =>
    match l.selectedGame.filter (·.proposalId = proposalId) with
    | none => .error .staleGameProposal
    | some selectedGame =>
      match trimmedLabel selectedGame.game.startStateLabel with
      | none => .error .invalidPayload
      | some selectedLabel =>
        if !validStartupStateMetadata state selectedLabel then .error .invalidPayload
        else if state.sizeBytes > maxBytes then .error .startupStateRelayTooLarge
        else
          let label := if (trimmedLabel state.label).isNone then some selectedLabel else state.label
          .ok ⟨l.lobbyId, proposalId, selectedGame.game, { state with label := label },
            senderPlayerIndex, connectionId, receiverPlayerIndex, receiverConnectionId⟩

end Lobby

end NetplayRelay.Lobbies
