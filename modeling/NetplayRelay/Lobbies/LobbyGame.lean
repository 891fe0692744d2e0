import NetplayRelay.Lobbies.LobbyPlayer
import NetplayRelay.Rooms.InviteCode

/-!
# The game of a lobby

A lobby proposes a game, collects its players' readiness for that proposal, launches it in a room
of its own and comes back from it. Each of the three is tied to the proposal by its id.
-/

namespace NetplayRelay.Lobbies

open Lib Protocol Rooms Auth

/-- A proposal. The source draws a fresh UUID for each one. -/
structure ProposalId where
  id : Nat
deriving DecidableEq

/-- A game that may be selected. -/
structure LobbyGameCandidate where
  title : Text
  systemId : Text
  coreId : Text
  contentSha256 : Option Text
  romSizeBytes : Option Nat
  startStateLabel : Option Text
deriving DecidableEq

/-- The checks on a game. -/
def validateGameCandidate (game : LobbyGameCandidate) : Except LobbyError Unit :=
  if game.title.trim.isEmpty || game.systemId.trim.isEmpty || game.coreId.trim.isEmpty then
    .error .invalidPayload
  else if game.contentSha256.any (fun hash => !isSha256Hex hash) then .error .invalidPayload
  else .ok ()

/-- The selected game. -/
structure LobbyGameSelectionView where
  proposalId : ProposalId
  selectedByPlayerIndex : Nat
  selectedAtMs : Nat
  game : LobbyGameCandidate
deriving DecidableEq

/-! ## Readiness -/

/-- Whether a member has the game. -/
inductive LobbyGameReadinessStatus
  | unknown | ready | notReady | missingRom | missingStartupState | unsupported
deriving DecidableEq

/-- What a member said of it. -/
structure LobbyGameReadinessView where
  playerIndex : Nat
  proposalId : ProposalId
  status : LobbyGameReadinessStatus
  detail : Option Text
  updatedAtMs : Nat
deriving DecidableEq

/-- The lines of a text. A line ends with a line feed, before which a carriage return is dropped;
what follows the last line feed is a line unless it is empty. -/
def lines (value : Text) : List Text :=
  let parts := value.splitOn '\n'
  let ended := parts.dropLast.map fun line =>
    if line.getLast? = some '\r' then line.dropLast else line
  ended ++ (parts.getLast?.toList.filter fun rest => !rest.isEmpty)

/-- All lines trimmed, on one line. -/
def onOneLine (value : Text) : Text :=
  Text.trim
    (List.intercalate [' '] (((lines value).map Text.trim).filter fun line => !line.isEmpty))

/-- The detail on one line, if not too long. -/
def sanitizeReadinessDetail : Option Text → Except LobbyError (Option Text)
  | none => .ok none
  | some detail =>
    let sanitized := onOneLine detail
    if sanitized.isEmpty then .ok none
    else if sanitized.length > 160 then .error .invalidPayload
    else .ok (some sanitized)

/-- A chat line, if not empty or too long. -/
def sanitizeChatBody (body : Text) : Except LobbyError Text :=
  let sanitized := onOneLine body
  if sanitized.isEmpty || sanitized.length > 500 then .error .invalidPayload else .ok sanitized

/-- A member's word, with its detail checked. -/
def LobbyGameReadinessView.new (playerIndex : PlayerIndex) (proposalId : ProposalId)
    (status : LobbyGameReadinessStatus) (detail : Option Text) (updatedAtMs : Nat) :
    Except LobbyError LobbyGameReadinessView :=
  (sanitizeReadinessDetail detail).map fun detail =>
    ⟨playerIndex.zeroBased, proposalId, status, detail, updatedAtMs⟩

/-! ## Launch -/

/-- How far a launch is. -/
inductive LobbyGameLaunchStatus
  | preparing | ready | playing
deriving DecidableEq

/-- A launch of the selected game. -/
structure LobbyGameLaunchView where
  proposalId : ProposalId
  requestedByPlayerIndex : Nat
  requestedAtMs : Nat
  status : LobbyGameLaunchStatus
  roomInviteCode : Option Text
  roomPublishedAtMs : Option Nat
  gameplayStartedAtMs : Option Nat
  startedPlayerIndexes : List Nat
deriving DecidableEq

namespace LobbyGameLaunchView

/-- A launch that was just asked for. -/
def new (proposalId : ProposalId) (requestedBy : PlayerIndex) (requestedAtMs : Nat) :
    LobbyGameLaunchView where
  proposalId := proposalId
  requestedByPlayerIndex := requestedBy.zeroBased
  requestedAtMs := requestedAtMs
  status := .preparing
  roomInviteCode := none
  roomPublishedAtMs := none
  gameplayStartedAtMs := none
  startedPlayerIndexes := []

variable (launch : LobbyGameLaunchView)

/-- The launch has its room. -/
def publishRoom (inviteCode : Text) (publishedAtMs : Nat) : LobbyGameLaunchView :=
  { launch with
    status := .ready
    roomInviteCode := some inviteCode
    roomPublishedAtMs := some publishedAtMs }

/-- One player's report. The launch is playing once everybody who is expected has reported. -/
def markPlayerStarted (playerIndex : PlayerIndex) (expectedPlayerIndexes : List PlayerIndex)
    (startedAtMs : Nat) : Except LobbyError Bool × LobbyGameLaunchView :=
  match launch.status with
  | .preparing => (.error .gameLaunchNotReady, launch)
  | .ready =>
    if playerIndex.zeroBased ∈ launch.startedPlayerIndexes then (.ok false, launch)
    else
      let started := (launch.startedPlayerIndexes ++ [playerIndex.zeroBased]).insertionSort (· ≤ ·)
      let reported := { launch with startedPlayerIndexes := started }
      if !expectedPlayerIndexes.isEmpty
          && expectedPlayerIndexes.all (fun expected => expected.zeroBased ∈ started) then
        (.ok true, { reported with status := .playing, gameplayStartedAtMs := some startedAtMs })
      else (.ok true, reported)
  | .playing => (.ok false, launch)

end LobbyGameLaunchView

/-! ## Return -/

/-- Why players come back from a game. -/
inductive LobbyReturnReason
  | playerRequestedReturn | runnerClosed | remoteDisconnected | roomClosed | launchFailed
  | netplayError | emulatorError | runnerCrashed
deriving DecidableEq

/-- A member asks to come back. -/
structure LobbyReturnRequest where
  connectionId : ConnectionId
  lobbyEpoch : Nat
  proposalId : ProposalId
  returnRequestedByPlayerIndex : Option PlayerIndex
  reason : Option LobbyReturnReason
  nowMs : Nat

/-- The return that was recorded. -/
structure LobbyReturnedView where
  proposalId : ProposalId
  returnRequestedByPlayerIndex : Option Nat
  reason : Option LobbyReturnReason
  returnedAtMs : Nat
deriving DecidableEq

/-- The return, and whether it is new. -/
structure LobbyReturnOutcome where
  returned : LobbyReturnedView
  stateChanged : Bool
deriving DecidableEq

/-- What counts as activity. -/
inductive LobbyActivityKind
  | gameplayActive | romRelay | voiceSpeaking
deriving DecidableEq

end NetplayRelay.Lobbies
