import NetplayRelay.Proof.Creations
import NetplayRelay.Proof.LobbySteps
import NetplayRelay.Transport.LobbySession

/-!
# The lobby epoch of a message

A socket task compares the epoch of a message with the lobby's and then acts on the message. The
outcome of the comparison does not stop it: `applyLobbyResult` tells the client and hands on whether
that worked. So a message with a stale epoch is answered with an error and acted on. And a message
that passed waits for the write lock, while the call of another task may raise the epoch.

Where neither happens, every message that a task acts on names the epoch of the lobby it finds.
-/

namespace NetplayRelay.Proof

open Lib Protocol Rooms Auth Lobbies Transport

variable {services : LobbyServices} {l : Lobby} {op : LobbyOp} {s t : LobbySessions}

/-! ## Calls that raise the epoch -/

/-- The kinds of calls that raise the epoch; the others note activity or put in a voice token. -/
def movesEpoch : LobbyOp → Bool
  | .prepareRomRelayTransfer .. | .prepareStartupStateRelayTransfer .. | .sendChat ..
  | .recordActivity .. | .refreshVoiceGrant .. => false
  | _ => true

/-- The call is of such a kind and passes the checks of its operation. -/
def raisesLobbyEpoch (server : LobbyServer) (l : Lobby) (op : LobbyOp) : Bool :=
  movesEpoch op && accepts server l op

/-- **Exactly these calls raise the epoch.** -/
theorem raisesLobbyEpoch_iff (server : LobbyServer) (l : Lobby) (op : LobbyOp) :
    raisesLobbyEpoch server l op ↔ (applyLobbyOp server l op).lobbyEpoch ≠ l.lobbyEpoch := by
  have hstep := applyLobbyOp_step server l op
  generalize applyLobbyOp server l op = l' at hstep
  have haccepted := hstep.accepted
  have hraised : l'.lobbyEpoch = l.lobbyEpoch + 1 → l'.lobbyEpoch ≠ l.lobbyEpoch := by omega
  rw [raisesLobbyEpoch, Bool.and_eq_true]
  cases hstep with
  | refused h => simp [h]
  | @noted op _ _ hop => cases op <;> simp_all [notes, movesEpoch, Lobby.markMeaningfulActivity]
  | voiced => simp [movesEpoch]
  | _ =>
    have hnext := hraised rfl
    exact iff_of_true ⟨rfl, haccepted (mt (congrArg Lobby.lobbyEpoch) hnext)⟩ hnext

/-! ## Messages between the check and the call -/

/-- The message is not checked, or it names the lobby's epoch. -/
def namesLobbyEpoch (l : Lobby) (message : LobbyClientMessage) : Bool :=
  message.guardedEpoch.all (· = l.lobbyEpoch)

/-- The call that the task with message `i` in hand is about to make. -/
def callInHand (services : LobbyServices) (s : LobbySessions) (i : Nat) (drawn : Drawn) :
    Option LobbyOp :=
  s.inHand[i]?.bind fun (c, message) => message.op services c drawn

/-- What breaks the promise of the check: a stale message goes on because its error could be
delivered, or the epoch is raised while a checked message of another task waits for its call. -/
def breaksLobbyCheck (services : LobbyServices) (s : LobbySessions) : LobbySessionEvent → Bool
  | .receive _ message delivers => delivers && !namesLobbyEpoch s.lobby message
  | .act i drawn => (callInHand services s i drawn).any
      (raisesLobbyEpoch services.toLobbyServer s.lobby)
    && (s.inHand.eraseIdx i).any (·.2.guardedEpoch.isSome)
  | .call op => raisesLobbyEpoch services.toLobbyServer s.lobby op
    && s.inHand.any (·.2.guardedEpoch.isSome)

/-- Every message in hand names the epoch of the lobby. -/
def InHandCurrent (s : LobbySessions) : Prop :=
  ∀ entry ∈ s.inHand, namesLobbyEpoch s.lobby entry.2

/-- A task goes on with a message whose epoch is the lobby's, or whose error it could deliver. -/
theorem receive_inHand {c : ConnectionId} {message : LobbyClientMessage} {delivers : Bool} :
    s.receive c message delivers = s
      ∨ (delivers ∨ namesLobbyEpoch s.lobby message)
        ∧ s.receive c message delivers = { s with inHand := s.inHand ++ [(c, message)] } := by
  unfold LobbySessions.receive
  split
  · rename_i hpassed
    refine .inr ⟨?_, rfl⟩
    unfold namesLobbyEpoch
    cases hepoch : message.guardedEpoch with
    | none => exact .inr rfl
    | some lobbyEpoch =>
      rw [hepoch, Option.all_some, validateLobbyEpoch] at hpassed
      split at hpassed
      · exact .inl hpassed
      · rename_i hsame
        exact .inr (by simpa using (not_not.mp hsame).symm)
  · exact .inl rfl

/-- What stays in hand after a call still names the epoch, unless the call raised it. -/
theorem InHandCurrent.called {inHand : List (ConnectionId × LobbyClientMessage)}
    (h : InHandCurrent s) (hsub : inHand ⊆ s.inHand)
    (hquiet : (raisesLobbyEpoch services.toLobbyServer s.lobby op
      && inHand.any (·.2.guardedEpoch.isSome)) = false) :
    InHandCurrent ⟨applyLobbyOp services.toLobbyServer s.lobby op, inHand⟩ := by
  intro entry hentry
  rcases Bool.and_eq_false_iff.mp hquiet with hkept | hnone
  · have hsame : (applyLobbyOp services.toLobbyServer s.lobby op).lobbyEpoch
        = s.lobby.lobbyEpoch := by
      by_contra hraised
      exact absurd ((raisesLobbyEpoch_iff _ _ _).mpr hraised) (by simp [hkept])
    have hnames := h entry (hsub hentry)
    unfold namesLobbyEpoch at hnames ⊢
    rwa [hsame]
  · have hunchecked := List.any_eq_false.mp hnone entry hentry
    unfold namesLobbyEpoch
    rw [Option.not_isSome_iff_eq_none.mp hunchecked]
    rfl

theorem inHandCurrent_step {event : LobbySessionEvent} (h : InHandCurrent s)
    (hguard : breaksLobbyCheck services s event = false)
    (hstep : some (s.step services event) = some t) : InHandCurrent t := by
  obtain rfl := Option.some.inj hstep
  cases event with
  | receive c message delivers =>
    rw [LobbySessions.step]
    rcases receive_inHand (s := s) (c := c) with hsame | ⟨hcurrent, hnext⟩
    · rw [hsame]
      exact h
    rw [hnext]
    intro entry hentry
    rcases List.mem_append.mp hentry with hold | hnew
    · exact h entry hold
    · obtain rfl := List.mem_singleton.mp hnew
      rcases hcurrent with rfl | hnames
      · simpa [breaksLobbyCheck] using hguard
      · exact hnames
  | act i drawn =>
    rw [LobbySessions.step, LobbySessions.act]
    rw [breaksLobbyCheck, callInHand] at hguard
    have hsub := (List.eraseIdx_sublist s.inHand i).subset
    split
    · exact h
    rename_i c message hmessage
    rw [hmessage, Option.bind_some] at hguard
    dsimp only at hguard
    cases hop : message.op services c drawn with
    | none => exact fun entry hentry => h entry (hsub hentry)
    | some op =>
      rw [hop, Option.any_some] at hguard
      exact h.called hsub hguard
  | call op => exact h.called (List.Subset.refl _) hguard

/-- **Checked messages change the lobby only at their own epoch.** In every interleaving of socket
tasks and other calls in which no stale message is carried on behind its error, and no call raises
the epoch while a checked message waits, a checked message that changes the lobby names the lobby's
epoch at that moment. A message of another epoch leaves the lobby as it was. -/
theorem lobby_messages_onTheirEpoch {events : List LobbySessionEvent} (hidle : s.inHand = [])
    (hguarded : Guarded (fun s event => some (s.step services event))
      (fun s event => breaksLobbyCheck services s event = false) s events) :
    ∀ visit ∈ visits (fun s event => some (s.step services event)) s events,
      ∀ i drawn c message lobbyEpoch, visit.2 = .act i drawn →
      visit.1.inHand[i]? = some (c, message) → message.guardedEpoch = some lobbyEpoch →
      ((visit.1.step services visit.2).lobby ≠ visit.1.lobby →
          lobbyEpoch = visit.1.lobby.lobbyEpoch)
        ∧ (lobbyEpoch ≠ visit.1.lobby.lobbyEpoch →
          (visit.1.step services visit.2).lobby = visit.1.lobby) := by
  intro visit hvisit i drawn c message lobbyEpoch _ hmessage hepoch
  have hbegin : InHandCurrent s := by
    intro entry hentry
    rw [hidle] at hentry
    exact absurd hentry (by simp)
  have hcurrent := (forall_visits (fun _ _ _ => inHandCurrent_step) hguarded hbegin visit hvisit).1
  have hnames := hcurrent (c, message) (List.mem_of_getElem? hmessage)
  rw [namesLobbyEpoch, hepoch, Option.all_some, decide_eq_true_eq] at hnames
  exact ⟨fun _ => hnames, fun hother => absurd hnames hother⟩

def sampleServices : LobbyServices := ⟨⟨id, true⟩, true, 1000, true, true, some "url".toList⟩

def sampleGame : LobbyGameCandidate :=
  ⟨"Game".toList, "snes".toList, "core".toList, none, none, none⟩

/-- A lobby with its host, on epoch 1. -/
def freshSessions : LobbySessions := ⟨(sampleLobbyRequest 0 firstUuid).complete none, []⟩

/-- The host's message that selects the sample game at an epoch. -/
def hostSelects (lobbyEpoch : Nat) : LobbySessionEvent :=
  .receive ⟨0⟩ (.selectGame lobbyEpoch sampleGame) true

def sampleDrawn : Drawn := ⟨1, ⟨1⟩, none⟩

/-- The host selects a game at the epoch of its lobby. -/
theorem lobby_messages_onTheirEpoch_select :
    let received := freshSessions.step sampleServices (hostSelects 1)
    (received.step sampleServices (.act 0 sampleDrawn)).lobby ≠ received.lobby
      ∧ 1 = received.lobby.lobbyEpoch := by
  intro received
  have hfacts : Guarded (fun s event => some (s.step sampleServices event))
        (fun s event => breaksLobbyCheck sampleServices s event = false) freshSessions
        [hostSelects 1, .act 0 sampleDrawn]
      ∧ (received.step sampleServices (.act 0 sampleDrawn)).lobby.selectedGame
        ≠ received.lobby.selectedGame := by
    decide +kernel
  have hchanged : (received.step sampleServices (.act 0 sampleDrawn)).lobby ≠ received.lobby :=
    fun h => hfacts.2 (congrArg Lobby.selectedGame h)
  have hvisit := lobby_messages_onTheirEpoch rfl hfacts.1 (received, .act 0 sampleDrawn)
    (List.mem_cons_of_mem _ List.mem_cons_self) 0 sampleDrawn ⟨0⟩ (.selectGame 1 sampleGame) 1 rfl
    rfl rfl
  exact ⟨hchanged, hvisit.1 hchanged⟩

/-- A game selected for an epoch that the lobby never had is selected; so is one whose epoch was the
lobby's when it was checked, after a guest's arrival has raised it. -/
theorem stale_message_changes_lobby :
    let joins := LobbySessionEvent.call (.join sampleGuest ⟨1⟩ none .default "token".toList 1)
    let after := fun events : List LobbySessionEvent =>
      let s := events.foldl (LobbySessions.step sampleServices) freshSessions
      (s.lobby.lobbyEpoch, s.lobby.selectedGame)
    after [] = (1, none)
      ∧ after [hostSelects 7, .act 0 sampleDrawn] = (2, some ⟨⟨1⟩, 0, 1, sampleGame⟩)
      ∧ after [hostSelects 1, joins] = (2, none)
      ∧ after [hostSelects 1, joins, .act 0 sampleDrawn]
        = (3, some ⟨⟨1⟩, 0, 1, sampleGame⟩) := by
  decide +kernel

end NetplayRelay.Proof
