import NetplayRelay.Lobbies.LobbyRegistry

/-!
# What a call does to a lobby

`LobbyStep` says once what each call can do, with the checks that let it through. A call that is
not let through changes nothing (`refused`), and `accepts` is the exact test for it: later proofs
never look at the code of the operations again.
-/

namespace NetplayRelay.Proof

open Lib Protocol Rooms Auth Lobbies

/-- The socket speaks for the host. -/
def hosts (l : Lobby) (c : ConnectionId) : Bool := (l.memberSlot c).any (·.role = .host)

def selected (l : Lobby) (proposalId : ProposalId) : Bool :=
  l.selectedGame.any (·.proposalId = proposalId)

/-- The call passes all checks of its operation. -/
def accepts (server : LobbyServer) (l : Lobby) : LobbyOp → Bool
  | .join license _ _ _ _ _ => l.status ≠ .closed
    && (l.players.any (·.belongsTo license) || l.players.any (·.isEmpty))
  | .reconnect request => l.status ≠ .closed && request.lobbyEpoch ≤ l.lobbyEpoch
    && (l.slot request.playerIndex).any fun slot => slot.belongsTo request.license
      && slot.resumeTokenHash = some (server.hashResumeToken request.resumeToken)
  | .disconnect c _ => (l.slotForConnection c).isSome
  | .leave c _ => (l.memberSlot c).isSome
  | .removePlayer c lobbyEpoch target _ => server.supportsLobbyPlayerRemoval
    && l.lobbyEpoch = lobbyEpoch && hosts l c
    && !(l.status = .closed || l.status = .inGame || l.pendingLaunch.isSome)
    && (l.slot target).any fun slot => slot.role ≠ .host && slot.subjectKey.isSome
  | .selectGame c game _ _ => hosts l c && (validateGameCandidate game).isOk
  | .setGameReadiness c proposalId _ detail _ => (l.slotForConnection c).isSome
    && selected l proposalId && (sanitizeReadinessDetail detail).isOk
  | .requestGameLaunch c proposalId _ => hosts l c && selected l proposalId
    && l.connectedPlayersAreReady proposalId
  | .prepareRomRelayTransfer c proposalId receiver maxBytes _ =>
    (l.prepareRomRelayTransfer c proposalId receiver maxBytes).isOk
  | .prepareStartupStateRelayTransfer c proposalId receiver state maxBytes _ =>
    (l.prepareStartupStateRelayTransfer c proposalId receiver state maxBytes).isOk
  | .publishGameRoom c proposalId _ _ => hosts l c && selected l proposalId
    && l.pendingLaunch.any (·.proposalId = proposalId)
  | .markGameplayStarted c lobbyEpoch proposalId _ =>
    (l.memberSlot c).any (fun slot => slot.capabilities.supportsLobbyGameplayStarted
        && l.pendingLaunch.any fun launch => launch.proposalId = proposalId
          && launch.status = .ready
          && slot.playerIndex.zeroBased ∉ launch.startedPlayerIndexes)
      && selected l proposalId && lobbyEpoch = l.lobbyEpoch
      && l.gameplayStartExpectedPlayerIndexes.isSome
  | .returnFromGame request => (l.slotForConnection request.connectionId).isSome
    && selected l request.proposalId && request.lobbyEpoch = l.lobbyEpoch
    && l.pendingLaunch.any (·.proposalId = request.proposalId)
  | .sendChat c body _ => (l.slotForConnection c).isSome && (sanitizeChatBody body).isOk
  | .refreshVoiceGrant c participantIdentity _ _ => (l.slotForConnection c).any fun slot =>
    l.voice.any fun voice => (voice.grants.lookup slot.playerIndex).any
      (·.participantIdentity = participantIdentity)
  | .recordActivity c _ _ => (l.slotForConnection c).isSome

/-- The calls that only move the time of the last activity. -/
def notes : LobbyOp → Option (ConnectionId × Nat)
  | .prepareRomRelayTransfer c _ _ _ nowMs | .prepareStartupStateRelayTransfer c _ _ _ _ nowMs
  | .sendChat c _ nowMs | .recordActivity c _ nowMs => some (c, nowMs)
  | _ => none

/-- What a call does to a lobby. -/
inductive LobbyStep (server : LobbyServer) (l : Lobby) : LobbyOp → Lobby → Prop
  /-- A check failed. -/
  | refused {op} (h : accepts server l op = false) : LobbyStep server l op l
  /-- A member takes its seat again. -/
  | refreshed {license c displayName capabilities resumeToken nowMs slot}
      (hopen : l.status ≠ .closed) (hslot : l.players.find? (·.belongsTo license) = some slot) :
      LobbyStep server l (.join license c displayName capabilities resumeToken nowMs)
        ((l.updateSlot (·.belongsTo license) fun slot => slot.occupy ⟨slot.role, license, c,
          displayName, capabilities, server.hashResumeToken resumeToken, nowMs⟩).bumpWithActivity
            nowMs)
  /-- Somebody new takes the first empty seat. -/
  | joined {license c displayName capabilities resumeToken nowMs slot} (hopen : l.status ≠ .closed)
      (hnew : l.players.find? (·.belongsTo license) = none)
      (hslot : l.players.find? (·.isEmpty) = some slot) :
      LobbyStep server l (.join license c displayName capabilities resumeToken nowMs)
        ((l.updateSlot (·.isEmpty) fun slot => slot.occupy ⟨.guest, license, c, displayName,
          capabilities, server.hashResumeToken resumeToken, nowMs⟩).bumpWithActivity nowMs)
  | reconnected {request slot} (hopen : l.status ≠ .closed)
      (hepoch : request.lobbyEpoch ≤ l.lobbyEpoch) (hslot : l.slot request.playerIndex = some slot)
      (howner : slot.belongsTo request.license)
      (htoken : slot.resumeTokenHash = some (server.hashResumeToken request.resumeToken)) :
      LobbyStep server l (.reconnect request)
        ((l.updateSlot (·.playerIndex = request.playerIndex) fun slot => slot.occupy
          ⟨slot.role, request.license, request.connectionId, request.displayName,
            request.capabilities, server.hashResumeToken request.resumeToken,
            request.nowMs⟩).bumpWithActivity request.nowMs)
  | disconnected {c nowMs slot} (hslot : l.slotForConnection c = some slot) :
      LobbyStep server l (.disconnect c nowMs)
        ((l.updateSlot (·.connectionId = some c) fun slot =>
          { slot with
            connectionId := none
            status := .reconnecting
            lastSeenAtMs := some nowMs }).bump nowMs)
  /-- The host leaves, and the lobby closes. -/
  | closed {c nowMs} (hhost : hosts l c) :
      LobbyStep server l (.leave c nowMs) (l.close nowMs).takeVoiceRoomIdForCleanup
  | left {c nowMs slot} (hslot : l.memberSlot c = some slot) (hguest : slot.role ≠ .host) :
      LobbyStep server l (.leave c nowMs)
        ({ l.vacate slot.playerIndex with pendingLaunch := none }.bumpWithActivity nowMs)
  | removed {c target nowMs slot} (hsupported : server.supportsLobbyPlayerRemoval)
      (hhost : hosts l c) (hstatus : l.status ≠ .closed ∧ l.status ≠ .inGame)
      (hlaunch : l.pendingLaunch = none) (hslot : l.slot target = some slot)
      (hguest : slot.role ≠ .host) (htaken : slot.subjectKey.isSome) :
      LobbyStep server l (.removePlayer c l.lobbyEpoch target nowMs)
        ((l.vacate target).bumpWithActivity nowMs)
  | chosen {c game proposalId nowMs slot} (hslot : l.memberSlot c = some slot)
      (hhost : slot.role = .host) (hgame : validateGameCandidate game = .ok ()) :
      LobbyStep server l (.selectGame c game proposalId nowMs)
        ({ l with
          selectedGame := some ⟨proposalId, slot.playerIndex.zeroBased, nowMs, game⟩
          gameReadiness := []
          pendingLaunch := none
          lastReturn := none
          status := .gameSelected }.bumpWithActivity nowMs)
  | readied {c proposalId status detail nowMs slot readiness}
      (hslot : l.slotForConnection c = some slot) (hselected : selected l proposalId)
      (hreadiness : LobbyGameReadinessView.new slot.playerIndex proposalId status detail nowMs
        = .ok readiness) :
      LobbyStep server l (.setGameReadiness c proposalId status detail nowMs)
        ({ l with
          gameReadiness := l.putReadiness readiness
          pendingLaunch := none
          status := .gameSelected }.bumpWithActivity nowMs)
  | launched {c proposalId nowMs slot} (hslot : l.memberSlot c = some slot)
      (hhost : slot.role = .host) (hselected : selected l proposalId)
      (hready : l.connectedPlayersAreReady proposalId) :
      LobbyStep server l (.requestGameLaunch c proposalId nowMs)
        ({ l with
          pendingLaunch := some (.new proposalId slot.playerIndex nowMs)
          lastReturn := none
          status := .inGame }.bumpWithActivity nowMs)
  | published {c proposalId code nowMs launch} (hhost : hosts l c)
      (hselected : selected l proposalId) (hlaunch : l.pendingLaunch = some launch)
      (hproposal : launch.proposalId = proposalId) :
      LobbyStep server l (.publishGameRoom c proposalId code nowMs)
        ({ l with
          pendingLaunch := some (launch.publishRoom code.display nowMs)
          status := .inGame }.bumpWithActivity nowMs)
  | started {c proposalId nowMs slot launch launch' expected} (hslot : l.memberSlot c = some slot)
      (hreports : slot.capabilities.supportsLobbyGameplayStarted)
      (hselected : selected l proposalId)
      (hexpected : l.gameplayStartExpectedPlayerIndexes = some expected)
      (hlaunch : l.pendingLaunch = some launch) (hproposal : launch.proposalId = proposalId)
      (hstarted : launch.markPlayerStarted slot.playerIndex expected nowMs = (.ok true, launch')) :
      LobbyStep server l (.markGameplayStarted c l.lobbyEpoch proposalId nowMs)
        ({ l with
          pendingLaunch := some launch'
          status := .inGame }.bumpWithActivity nowMs)
  | returned {request slot launch} (hslot : l.slotForConnection request.connectionId = some slot)
      (hselected : selected l request.proposalId) (hepoch : request.lobbyEpoch = l.lobbyEpoch)
      (hlaunch : l.pendingLaunch = some launch)
      (hproposal : launch.proposalId = request.proposalId) :
      LobbyStep server l (.returnFromGame request)
        ({ l with
          gameReadiness := []
          pendingLaunch := none
          status := l.idleStatus
          lastReturn := some ⟨request.proposalId,
            request.returnRequestedByPlayerIndex.map PlayerIndex.zeroBased, request.reason,
            request.nowMs⟩ }.bumpWithActivity request.nowMs)
  /-- Activity: the clock of idle cleanup starts again. -/
  | noted {op c nowMs} (hop : notes op = some (c, nowMs)) (hslot : (l.slotForConnection c).isSome)
      (h : accepts server l op) : LobbyStep server l op (l.markMeaningfulActivity nowMs)
  | voiced {c participantIdentity token expiresAt slot voice grant}
      (hslot : l.slotForConnection c = some slot) (hvoice : l.voice = some voice)
      (hgrant : voice.grants.lookup slot.playerIndex = some grant)
      (hidentity : grant.participantIdentity = participantIdentity) :
      LobbyStep server l (.refreshVoiceGrant c participantIdentity token expiresAt)
        { l with voice := some { voice with
            grants := voice.grants.replace slot.playerIndex
              { grant with token := token, expiresAt := expiresAt } } }

variable {server : LobbyServer} {l l' : Lobby} {op : LobbyOp} {c : ConnectionId}
  {error : LobbyError} {proposalId : ProposalId} {nowMs : Nat} {α : Type} {receiver : PlayerIndex}

/-! ## The operations -/

theorem playerIndexForConnection_ok {p : PlayerIndex} (h : l.playerIndexForConnection c = .ok p) :
    ∃ slot, l.slotForConnection c = some slot ∧ slot.playerIndex = p := by
  unfold Lobby.playerIndexForConnection at h
  split at h
  · exact absurd h (by simp)
  · rename_i slot hslot
    exact ⟨slot, hslot, Except.ok.inj h⟩

theorem playerIndexForConnection_error (h : l.playerIndexForConnection c = .error error) :
    l.slotForConnection c = none := by
  unfold Lobby.playerIndexForConnection at h
  split at h
  · assumption
  · exact absurd h (by simp)

theorem requireSelectedProposal_ok {u : Unit} (h : l.requireSelectedProposal proposalId = .ok u) :
    selected l proposalId := by
  unfold Lobby.requireSelectedProposal at h
  split at h
  · assumption
  · exact absurd h (by simp)

theorem requireSelectedProposal_error (h : l.requireSelectedProposal proposalId = .error error) :
    selected l proposalId = false := by
  unfold Lobby.requireSelectedProposal at h
  split at h
  · exact absurd h (by simp)
  · rename_i hother
    exact Bool.eq_false_iff.mpr hother

theorem join_step {license : VerifiedLicense} {displayName : Option Text}
    {capabilities : LobbyClientCapabilities} {resumeToken : Text} :
    LobbyStep server l (.join license c displayName capabilities resumeToken nowMs)
      (l.joinOrRefreshPlayer license c displayName capabilities
        (server.hashResumeToken resumeToken) nowMs).2 := by
  unfold Lobby.joinOrRefreshPlayer
  split
  · rename_i hclosed
    exact .refused (by simp [accepts, hclosed])
  rename_i hopen
  split
  · rename_i slot hslot
    exact .refreshed hopen hslot
  rename_i hnew
  split
  · rename_i hfull
    refine .refused ?_
    have hnobody : l.players.any (·.belongsTo license) = false :=
      List.any_eq_false.mpr fun slot hslot => by simpa using List.find?_eq_none.mp hnew slot hslot
    have hnone : l.players.any (·.isEmpty) = false :=
      List.any_eq_false.mpr fun slot hslot => by simpa using List.find?_eq_none.mp hfull slot hslot
    simp [accepts, hnobody, hnone]
  · rename_i slot hslot
    exact .joined hopen hnew hslot

/-- A call that succeeds exactly if it is accepted. -/
structure Answered {α : Type} (server : LobbyServer) (l : Lobby) (op : LobbyOp)
    (outcome : LobbyOutcome α) : Prop where
  step : LobbyStep server l op outcome.2
  isOk : outcome.1.isOk = accepts server l op

theorem Answered.refused (h : accepts server l op = false) :
    Answered (α := α) server l op (.error error, l) :=
  ⟨.refused h, h.symm⟩

theorem Answered.done {answer : α} (h : accepts server l op) (hstep : LobbyStep server l op l') :
    Answered server l op (.ok answer, l') :=
  ⟨hstep, h.symm⟩

theorem reconnectPlayer_answered {request : LobbyReconnectRequest} :
    Answered server l (.reconnect request) (l.reconnectPlayer server.hashResumeToken request) := by
  unfold Lobby.reconnectPlayer
  split
  · rename_i hclosed
    exact .refused (by simp [accepts, hclosed])
  rename_i hopen
  split
  · rename_i hepoch
    exact .refused (by simp [accepts, Nat.not_le.mpr hepoch])
  rename_i hepoch
  have hpast : request.lobbyEpoch ≤ l.lobbyEpoch := Nat.not_lt.mp hepoch
  split
  · rename_i hslot
    exact .refused (by simp [accepts, hslot])
  rename_i slot hslot
  split
  · rename_i hother
    exact .refused (by simp_all [accepts])
  rename_i howner
  have howns : slot.belongsTo request.license := by simpa using howner
  split
  · rename_i htoken
    exact .refused (by simp [accepts, hslot, htoken])
  rename_i htoken
  have hpresents := Decidable.not_not.mp htoken
  exact .done (by simp [accepts, hopen, hpast, hslot, howns, hpresents])
    (.reconnected hopen hpast hslot howns hpresents)

theorem disconnect_step : LobbyStep server l (.disconnect c nowMs) (l.disconnect c nowMs).2 := by
  unfold Lobby.disconnect
  split
  · rename_i hslot
    exact .refused (by simp [accepts, hslot])
  · rename_i slot hslot
    exact .disconnected hslot

theorem leave_step : LobbyStep server l (.leave c nowMs) (leaveLobby l c nowMs).2 := by
  unfold leaveLobby Lobby.leave
  cases hslot : l.memberSlot c with
  | none => exact .refused (by simp [accepts, hslot])
  | some slot =>
    by_cases hhost : slot.role = .host
    · simp only [if_pos hhost]
      exact .closed (by simp [hosts, hslot, hhost])
    simp only [if_neg hhost]
    have hopen : ({ l.vacate slot.playerIndex with pendingLaunch := none }.bumpWithActivity
        nowMs).status ≠ .closed := by
      simp only [Lobby.bumpWithActivity, Lobby.bump, Lobby.markMeaningfulActivity, Lobby.vacate,
        Lobby.idleStatus]
      split <;> simp
    rw [if_neg hopen]
    exact .left hslot hhost

theorem removePlayer_answered {lobbyEpoch : Nat} {target : PlayerIndex} :
    Answered server l (.removePlayer c lobbyEpoch target nowMs)
      (removeLobbyPlayer server l c lobbyEpoch target nowMs) := by
  unfold removeLobbyPlayer Lobby.removePlayer
  split
  · rename_i hunsupported
    exact .refused (by simp_all [accepts])
  rename_i hunsupported
  have hsupported : server.supportsLobbyPlayerRemoval := by simpa using hunsupported
  split
  · rename_i hepoch
    exact .refused (by simp [accepts, hepoch])
  rename_i hepoch
  obtain rfl := Decidable.not_not.mp hepoch
  split
  · rename_i hslot
    exact .refused (by simp [accepts, hosts, hslot])
  rename_i requester hslot
  split
  · rename_i hguest
    exact .refused (by simp [accepts, hosts, hslot, hguest])
  rename_i hrole
  have hhost : hosts l c := by simpa [hosts, hslot] using hrole
  split
  · rename_i hbusy
    exact .refused (by simp only [accepts, hbusy]; simp)
  rename_i hidle
  simp only [Bool.or_eq_true, decide_eq_true_eq, not_or] at hidle
  have hlaunch : l.pendingLaunch = none := by simpa using hidle.2
  split
  · rename_i htarget
    exact .refused (by simp [accepts, htarget])
  rename_i target' htarget
  split
  · rename_i hisHost
    exact .refused (by simp [accepts, htarget, hisHost])
  rename_i hisGuest
  split
  · rename_i hempty
    exact .refused (by simp_all [accepts])
  rename_i hempty
  have htaken : target'.subjectKey.isSome :=
    Option.isSome_iff_ne_none.mpr (by simpa using hempty)
  exact .done
    (by simp [accepts, hsupported, hhost, hidle.1, hlaunch, htarget, hisGuest, htaken])
    (.removed hsupported hhost hidle.1 hlaunch htarget hisGuest htaken)

theorem selectGame_step {game : LobbyGameCandidate} :
    LobbyStep server l (.selectGame c game proposalId nowMs)
      (l.selectGame c game proposalId nowMs).2 := by
  unfold Lobby.selectGame
  split
  · rename_i hslot
    exact .refused (by simp [accepts, hosts, hslot])
  rename_i slot hslot
  split
  · rename_i hguest
    exact .refused (by simp [accepts, hosts, hslot, hguest])
  rename_i hhost
  split
  · rename_i hgame
    exact .refused (by simp [accepts, hgame, Except.isOk, Except.toBool])
  · rename_i hgame
    exact .chosen hslot (Decidable.not_not.mp hhost) hgame

theorem setGameReadiness_step {status : LobbyGameReadinessStatus} {detail : Option Text} :
    LobbyStep server l (.setGameReadiness c proposalId status detail nowMs)
      (l.setGameReadiness c proposalId status detail nowMs).2 := by
  unfold Lobby.setGameReadiness
  split
  · rename_i hslot
    exact .refused (by simp [accepts, playerIndexForConnection_error hslot])
  rename_i p hp
  obtain ⟨slot, hslot, rfl⟩ := playerIndexForConnection_ok hp
  split
  · rename_i hother
    exact .refused (by simp [accepts, requireSelectedProposal_error hother])
  rename_i hselected
  split
  · rename_i hdetail
    refine .refused ?_
    have hfailed : (sanitizeReadinessDetail detail).isOk = false := by
      unfold LobbyGameReadinessView.new at hdetail
      cases h : sanitizeReadinessDetail detail with
      | error => rfl
      | ok => exact absurd hdetail (by simp [h, Except.map])
    simp [accepts, hfailed]
  · rename_i readiness hreadiness
    exact .readied hslot (requireSelectedProposal_ok hselected) hreadiness

theorem requestGameLaunch_step :
    LobbyStep server l (.requestGameLaunch c proposalId nowMs)
      (l.requestGameLaunch c proposalId nowMs).2 := by
  unfold Lobby.requestGameLaunch
  split
  · rename_i hslot
    exact .refused (by simp [accepts, hosts, hslot])
  rename_i slot hslot
  split
  · rename_i hguest
    exact .refused (by simp [accepts, hosts, hslot, hguest])
  rename_i hhost
  split
  · rename_i hother
    exact .refused (by simp [accepts, requireSelectedProposal_error hother])
  rename_i hselected
  split
  · rename_i hunready
    exact .refused (by simp_all [accepts])
  · rename_i hready
    exact .launched hslot (Decidable.not_not.mp hhost) (requireSelectedProposal_ok hselected)
      (by simpa using hready)

theorem publishGameRoom_step {code : InviteCode} :
    LobbyStep server l (.publishGameRoom c proposalId code nowMs)
      (l.publishGameRoom c proposalId code nowMs).2 := by
  unfold Lobby.publishGameRoom
  split
  · rename_i hslot
    exact .refused (by simp [accepts, hosts, hslot])
  rename_i slot hslot
  split
  · rename_i hguest
    exact .refused (by simp [accepts, hosts, hslot, hguest])
  rename_i hhost
  split
  · rename_i hother
    exact .refused (by simp [accepts, requireSelectedProposal_error hother])
  · rename_i hlaunch
    exact .refused (by simp [accepts, hlaunch])
  rename_i launch hselected hlaunch
  split
  · rename_i hother
    exact .refused (by simp [accepts, hlaunch, hother])
  · rename_i hproposal
    exact .published (by simpa [hosts, hslot] using hhost)
      (requireSelectedProposal_ok hselected) hlaunch (Decidable.not_not.mp hproposal)

/-- A report is recorded exactly if the launch is ready and the player has not reported. -/
theorem markPlayerStarted_ok_iff {launch : LobbyGameLaunchView} {p : PlayerIndex}
    {expected : List PlayerIndex} :
    (launch.markPlayerStarted p expected nowMs).1 = .ok true
      ↔ launch.status = .ready ∧ p.zeroBased ∉ launch.startedPlayerIndexes := by
  unfold LobbyGameLaunchView.markPlayerStarted
  cases launch.status with
  | preparing => simp
  | playing => simp
  | ready =>
    by_cases hstarted : p.zeroBased ∈ launch.startedPlayerIndexes
    · simp [hstarted]
    · simp only [hstarted, if_false]
      split <;> simp

theorem markGameplayStarted_step {lobbyEpoch : Nat} :
    LobbyStep server l (.markGameplayStarted c lobbyEpoch proposalId nowMs)
      (l.markGameplayStarted c lobbyEpoch proposalId nowMs).2 := by
  unfold Lobby.markGameplayStarted
  split
  · rename_i hslot
    exact .refused (by simp [accepts, hslot])
  rename_i slot hslot
  split
  · rename_i hsilent
    exact .refused (by simp_all [accepts])
  rename_i hreports
  split
  · rename_i hother
    exact .refused (by simp [accepts, requireSelectedProposal_error hother])
  rename_i hselected
  split
  · rename_i hepoch
    have hrefused : accepts server l (.markGameplayStarted c lobbyEpoch proposalId nowMs)
        = false := by
      simp [accepts, hepoch]
    split
    · exact .refused hrefused
    · exact .refused hrefused
  · rename_i hepoch
    obtain rfl := Decidable.not_not.mp hepoch
    split
    · rename_i hexpected
      exact .refused (by simp [accepts, hexpected])
    · rename_i hlaunch
      exact .refused (by simp [accepts, hlaunch])
    rename_i expected launch hexpected hlaunch
    split
    · rename_i hother
      exact .refused (by simp [accepts, hslot, hlaunch, hother])
    rename_i hproposal
    have hanswer := @markPlayerStarted_ok_iff nowMs launch slot.playerIndex expected
    have hrefused : (launch.markPlayerStarted slot.playerIndex expected nowMs).1 ≠ .ok true →
        accepts server l (.markGameplayStarted c l.lobbyEpoch proposalId nowMs) = false := by
      rw [Ne, hanswer, not_and_or, Decidable.not_not]
      rintro (hstatus | hstarted)
      · simp [accepts, hslot, hlaunch, hstatus]
      · simp [accepts, hslot, hlaunch, hstarted]
    split
    · rename_i hmarked
      exact .refused (hrefused (by simp [hmarked]))
    · rename_i hmarked
      exact .refused (hrefused (by simp [hmarked]))
    · rename_i launch' hmarked
      exact .started hslot (by simpa using hreports) (requireSelectedProposal_ok hselected)
        hexpected hlaunch (Decidable.not_not.mp hproposal) hmarked

theorem returnFromGame_step {request : LobbyReturnRequest} :
    LobbyStep server l (.returnFromGame request) (l.returnToLobby request).2 := by
  unfold Lobby.returnToLobby
  split
  · rename_i hslot
    exact .refused (by simp [accepts, playerIndexForConnection_error hslot])
  rename_i p hp
  obtain ⟨slot, hslot, rfl⟩ := playerIndexForConnection_ok hp
  split
  · rename_i hother
    exact .refused (by simp [accepts, requireSelectedProposal_error hother])
  rename_i hselected
  split
  · rename_i hepoch
    have hrefused : accepts server l (.returnFromGame request) = false := by
      simp [accepts, hepoch]
    split
    · exact .refused hrefused
    · exact .refused hrefused
  · rename_i hepoch
    split
    · rename_i hlaunch
      have hrefused : accepts server l (.returnFromGame request) = false := by
        simp_all [accepts]
      split
      · exact .refused hrefused
      · exact .refused hrefused
    · rename_i hlaunch
      have hpending : l.pendingLaunch.any (·.proposalId = request.proposalId) := by
        simpa using hlaunch
      obtain ⟨launch, hsome, hproposal⟩ := (Option.any_eq_true _ _).mp hpending
      exact .returned hslot (requireSelectedProposal_ok hselected) (Decidable.not_not.mp hepoch)
        hsome (by simpa using hproposal)

theorem recordActivity_step {kind : LobbyActivityKind} :
    LobbyStep server l (.recordActivity c kind nowMs) (l.recordActivity c kind nowMs).2 := by
  unfold Lobby.recordActivity
  split
  · rename_i hslot
    exact .refused (by simp [accepts, playerIndexForConnection_error hslot])
  · rename_i p hp
    obtain ⟨slot, hslot, rfl⟩ := playerIndexForConnection_ok hp
    exact .noted rfl (by simp [hslot]) (by simp [accepts, hslot])

theorem sendChat_step {body : Text} :
    LobbyStep server l (.sendChat c body nowMs) (sendLobbyChat l c body nowMs).2 := by
  unfold sendLobbyChat
  split
  · rename_i hslot
    exact .refused (by simp [accepts, playerIndexForConnection_error hslot])
  · rename_i hbody
    exact .refused (by simp [accepts, hbody, Except.isOk, Except.toBool])
  rename_i p body' hp hbody
  obtain ⟨slot, hslot, rfl⟩ := playerIndexForConnection_ok hp
  exact .noted rfl (by simp [hslot])
    (by simp [accepts, hslot, hbody, Except.isOk, Except.toBool])

theorem refreshVoiceGrant_step {participantIdentity token expiresAt : Text} :
    LobbyStep server l (.refreshVoiceGrant c participantIdentity token expiresAt)
      (l.refreshVoiceGrant c participantIdentity token expiresAt).2 := by
  unfold Lobby.refreshVoiceGrant
  split
  · rename_i hslot
    exact .refused (by simp [accepts, playerIndexForConnection_error hslot])
  · rename_i hvoice
    exact .refused (by simp [accepts, hvoice])
  rename_i p voice hp hvoice
  obtain ⟨slot, hslot, rfl⟩ := playerIndexForConnection_ok hp
  split
  · rename_i hgrant
    exact .refused (by simp [accepts, hslot, hvoice, hgrant])
  rename_i grant hgrant
  split
  · rename_i hidentity
    exact .refused (by simp [accepts, hslot, hvoice, hgrant, hidentity])
  · rename_i hidentity
    exact .voiced hslot hvoice hgrant (Decidable.not_not.mp hidentity)

/-- Whoever may have a file relayed is a member. -/
theorem relayParties_ok {unsupported : LobbyError} {parties : PlayerIndex × ConnectionId}
    (h : l.relayParties c receiver unsupported = .ok parties) : (l.slotForConnection c).isSome := by
  unfold Lobby.relayParties at h
  split at h
  · exact absurd h (by simp)
  rename_i sender hsender
  obtain ⟨slot, hslot, _⟩ := Option.bind_eq_some_iff.mp hsender
  rw [hslot]
  rfl

/-- A transfer that is prepared for a member is noted as activity. -/
theorem withActivity_step {prepared : Except LobbyError α} (hop : notes op = some (c, nowMs))
    (haccepts : accepts server l op = prepared.isOk)
    (hmember : prepared.isOk → (l.slotForConnection c).isSome) :
    LobbyStep server l op (withActivity l prepared c nowMs).2 := by
  cases prepared with
  | error => exact .refused haccepts
  | ok intent =>
    obtain ⟨slot, hslot⟩ := Option.isSome_iff_exists.mp (hmember rfl)
    have hnoted : (withActivity l (.ok intent) c nowMs).2 = l.markMeaningfulActivity nowMs := by
      simp [withActivity, Lobby.recordActivity, Lobby.playerIndexForConnection, hslot]
    rw [hnoted]
    exact .noted hop (hmember rfl) haccepts

theorem prepareRomRelayTransfer_member {maxBytes : Nat}
    (h : (l.prepareRomRelayTransfer c proposalId receiver maxBytes).isOk) :
    (l.slotForConnection c).isSome := by
  unfold Lobby.prepareRomRelayTransfer at h
  split at h
  · exact absurd h (by simp [Except.isOk, Except.toBool])
  · rename_i hparties
    exact relayParties_ok hparties

theorem prepareStartupStateRelayTransfer_member {state : Lobby.StartupStateTransferMetadata}
    {maxBytes : Nat}
    (h : (l.prepareStartupStateRelayTransfer c proposalId receiver state maxBytes).isOk) :
    (l.slotForConnection c).isSome := by
  unfold Lobby.prepareStartupStateRelayTransfer at h
  split at h
  · exact absurd h (by simp [Except.isOk, Except.toBool])
  · rename_i hparties
    exact relayParties_ok hparties

/-- **What a call does**, for every call. -/
theorem applyLobbyOp_step (server : LobbyServer) (l : Lobby) (op : LobbyOp) :
    LobbyStep server l op (applyLobbyOp server l op) := by
  cases op with
  | join => exact join_step
  | reconnect => exact reconnectPlayer_answered.step
  | disconnect => exact disconnect_step
  | leave => exact leave_step
  | removePlayer => exact removePlayer_answered.step
  | selectGame => exact selectGame_step
  | setGameReadiness => exact setGameReadiness_step
  | requestGameLaunch => exact requestGameLaunch_step
  | prepareRomRelayTransfer =>
    exact withActivity_step rfl rfl prepareRomRelayTransfer_member
  | prepareStartupStateRelayTransfer =>
    exact withActivity_step rfl rfl prepareStartupStateRelayTransfer_member
  | publishGameRoom => exact publishGameRoom_step
  | markGameplayStarted => exact markGameplayStarted_step
  | returnFromGame => exact returnFromGame_step
  | sendChat => exact sendChat_step
  | refreshVoiceGrant => exact refreshVoiceGrant_step
  | recordActivity => exact recordActivity_step

/-! ## Accepted calls -/

theorem any_of_find? {test : LobbyPlayerSlot → Bool} {slot : LobbyPlayerSlot}
    (h : l.players.find? test = some slot) : l.players.any test :=
  List.any_eq_true.mpr ⟨slot, List.mem_of_find?_eq_some h, List.find?_some h⟩

theorem sanitizeReadinessDetail_isOk {p : PlayerIndex} {status : LobbyGameReadinessStatus}
    {detail : Option Text} {readiness : LobbyGameReadinessView}
    (h : LobbyGameReadinessView.new p proposalId status detail nowMs = .ok readiness) :
    (sanitizeReadinessDetail detail).isOk := by
  unfold LobbyGameReadinessView.new at h
  cases hdetail : sanitizeReadinessDetail detail with
  | error => exact absurd h (by simp [hdetail, Except.map])
  | ok => rfl

/-- Only a call that passes its checks changes the lobby. -/
theorem LobbyStep.accepted (h : LobbyStep server l op l') (hchanged : l' ≠ l) :
    accepts server l op := by
  cases h with
  | refused => exact absurd rfl hchanged
  | noted _ _ h => exact h
  | voiced hslot hvoice hgrant hidentity => simp [accepts, hslot, hvoice, hgrant, hidentity]
  | refreshed hopen hslot | joined hopen _ hslot => simp [accepts, hopen, any_of_find? hslot]
  | reconnected hopen hepoch hslot howner htoken =>
    simp [accepts, hopen, hepoch, hslot, howner, htoken]
  | disconnected hslot | left hslot _ => simp [accepts, hslot]
  | closed hhost =>
    obtain ⟨slot, hslot, _⟩ := (Option.any_eq_true _ _).mp hhost
    simp [accepts, hslot]
  | removed hsupported hhost hstatus hlaunch hslot hguest htaken =>
    simp [accepts, hsupported, hhost, hstatus, hlaunch, hslot, hguest, htaken]
  | chosen hslot hhost hgame =>
    simp [accepts, hosts, hslot, hhost, hgame, Except.isOk, Except.toBool]
  | readied hslot hselected hreadiness =>
    simp [accepts, hslot, hselected, sanitizeReadinessDetail_isOk hreadiness]
  | launched hslot hhost hselected hready => simp [accepts, hosts, hslot, hhost, hselected, hready]
  | published hhost hselected hlaunch hproposal =>
    simp [accepts, hhost, hselected, hlaunch, hproposal]
  | started hslot hreports hselected hexpected hlaunch hproposal hstarted =>
    obtain ⟨hready, hnew⟩ := markPlayerStarted_ok_iff.mp (congrArg Prod.fst hstarted)
    simp [accepts, hslot, hreports, hselected, hexpected, hlaunch, hproposal, hready, hnew]
  | returned hslot hselected hepoch hlaunch hproposal =>
    simp [accepts, hslot, hselected, hepoch, hlaunch, hproposal]

theorem refused_unchanged (h : accepts server l op = false) : applyLobbyOp server l op = l := by
  by_contra hchanged
  exact absurd ((applyLobbyOp_step server l op).accepted hchanged) (by simp [h])

end NetplayRelay.Proof
