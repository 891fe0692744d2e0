import NetplayRelay.Proof.LobbyLaunches

/-!
# Coming back from a game

A request to return to the lobby carries the epoch its sender saw. It ends the launch only at that
epoch; everything that begins a launch moves the epoch on, so a request that is late never ends a
launch that came after it, also not one of the same game.

A request that comes twice finds the launch gone and the return recorded. The recorded return stays
until a game is selected or launched, and is given as the answer, to any socket that speaks for a
member: whoever has lost its socket is turned away first.
-/

namespace NetplayRelay.Proof

open Lib Protocol Rooms Auth Lobbies

variable {server : LobbyServer} {l l' : Lobby} {event : LobbyEvent} {request : LobbyReturnRequest}
  {returned : LobbyReturnedView} {epoch : Nat}

/-- The lobby keeps its epoch or moves on to a later one. -/
theorem epoch_event (server : LobbyServer) (l : Lobby) (event : LobbyEvent) :
    l.lobbyEpoch ≤ (applyLobbyEvent server l event).lobbyEpoch := by
  cases event with
  | closeDueToIdle nowMs =>
    rw [applyLobbyEvent, Lobby.closeDueToIdle]
    by_cases hclosed : l.status = .closed
    · rw [if_pos hclosed]
    · rw [if_neg hclosed]
      exact Nat.le_succ _
  | call op =>
    rw [applyLobbyEvent]
    have hstep := applyLobbyOp_step server l op
    generalize applyLobbyOp server l op = l' at hstep
    cases hstep with
    | refused | noted | voiced => exact Nat.le_refl _
    | _ => exact Nat.le_succ _

theorem epoch_history (server : LobbyServer) (l : Lobby) (events : List LobbyEvent) :
    l.lobbyEpoch ≤ (events.foldl (applyLobbyEvent server) l).lobbyEpoch := by
  induction events generalizing l with
  | nil => exact Nat.le_refl _
  | cons event events ih => exact (epoch_event server l event).trans (ih _)

/-- Beginning a launch moves the epoch on. -/
theorem epoch_launch (h : beginsLaunch server l event) :
    l.lobbyEpoch < (applyLobbyEvent server l event).lobbyEpoch := by
  cases event with
  | closeDueToIdle => exact absurd h (by simp [beginsLaunch])
  | call op =>
    cases op with
    | requestGameLaunch c proposalId nowMs =>
      rw [applyLobbyEvent]
      have hstep := applyLobbyOp_step server l (.requestGameLaunch c proposalId nowMs)
      generalize applyLobbyOp server l (.requestGameLaunch c proposalId nowMs) = l' at hstep
      cases hstep with
      | refused hrefused => exact absurd (hrefused.symm.trans h) (by simp)
      | launched => exact Nat.lt_succ_self _
      | noted hop => exact absurd hop (by simp [notes])
    | _ => exact absurd h (by simp [beginsLaunch])

/-- A request with another epoch than the lobby's changes nothing. -/
theorem return_stale (h : request.lobbyEpoch ≠ l.lobbyEpoch) : (l.returnToLobby request).2 = l :=
  @refused_unchanged ⟨id, true⟩ l (.returnFromGame request) (by simp [accepts, h])

/-- A game is selected or launched. -/
def replacesReturn (server : LobbyServer) (l : Lobby) : LobbyEvent → Bool
  | .call (.selectGame c game proposalId nowMs) =>
    accepts server l (.selectGame c game proposalId nowMs)
  | .call (.requestGameLaunch c proposalId nowMs) =>
    accepts server l (.requestGameLaunch c proposalId nowMs)
  | _ => false

/-- A return is recorded that was asked for at an earlier epoch. -/
structure ReturnStands (returned : LobbyReturnedView) (epoch : Nat) (l : Lobby) : Prop where
  inOrder : LobbyInOrder l
  recorded : l.lastReturn = some returned
  past : epoch < l.lobbyEpoch

theorem returnStands_event (h : ReturnStands returned epoch l)
    (hkeep : replacesReturn server l event = false) :
    ReturnStands returned epoch (applyLobbyEvent server l event) := by
  have hpast := Nat.lt_of_lt_of_le h.past (epoch_event server l event)
  refine ⟨lobbyInOrder_event h.inOrder, ?_, hpast⟩
  have hnone : l.pendingLaunch = none := (h.inOrder.playbill.returned returned h.recorded).1
  cases event with
  | closeDueToIdle nowMs =>
    rw [applyLobbyEvent, Lobby.closeDueToIdle]
    by_cases hclosed : l.status = .closed
    · rw [if_pos hclosed]
      exact h.recorded
    · rw [if_neg hclosed]
      exact h.recorded
  | call op =>
    rw [applyLobbyEvent]
    have hstep := applyLobbyOp_step server l op
    generalize applyLobbyOp server l op = l' at hstep
    cases hstep with
    | chosen hslot hhost hgame =>
      simp [replacesReturn, accepts, hosts, hslot, hhost, hgame, Except.isOk, Except.toBool]
        at hkeep
    | launched hslot hhost hselected hready =>
      simp [replacesReturn, accepts, hosts, hslot, hhost, hselected, hready] at hkeep
    | returned _ _ _ hlaunch => exact absurd (hnone.symm.trans hlaunch) (by simp)
    | _ => exact h.recorded

/-- While a return stands, a request for it is answered with it, if it comes from a member. -/
theorem return_again (h : ReturnStands returned epoch l)
    (hproposal : request.proposalId = returned.proposalId) (hepoch : request.lobbyEpoch = epoch) :
    l.returnToLobby request
      = (if (l.slotForConnection request.connectionId).isSome then .ok ⟨returned, false⟩
        else .error .unknownConnection, l) := by
  have hselected := (h.inOrder.playbill.returned returned h.recorded).2
  have hother : request.lobbyEpoch ≠ l.lobbyEpoch := by
    have := h.past
    omega
  have hanswer : l.idempotentReturnOutcome request.proposalId = some ⟨returned, false⟩ := by
    simp [Lobby.idempotentReturnOutcome, h.recorded, hproposal, Option.filter]
  have hrequire : l.requireSelectedProposal request.proposalId = .ok () := by
    rw [hproposal]
    exact if_pos hselected
  unfold Lobby.returnToLobby Lobby.playerIndexForConnection
  cases l.slotForConnection request.connectionId with
  | none => simp
  | some slot => simp [hrequire, hother, hanswer]

theorem return_applied (h : l.returnToLobby request = (.ok ⟨returned, true⟩, l')) :
    request.lobbyEpoch = l.lobbyEpoch ∧ returned.proposalId = request.proposalId
      ∧ l'.lastReturn = some returned ∧ l'.lobbyEpoch = l.lobbyEpoch + 1 := by
  have hnot : ∀ {outcome : LobbyReturnOutcome},
      l.idempotentReturnOutcome request.proposalId = some outcome →
        outcome.stateChanged = false := by
    intro outcome houtcome
    obtain ⟨_, -, rfl⟩ := Option.map_eq_some_iff.mp houtcome
    rfl
  unfold Lobby.returnToLobby at h
  split at h
  · exact absurd h (by simp)
  split at h
  · exact absurd h (by simp)
  split at h
  · split at h
    · exact absurd h (by simp)
    · rename_i houtcome
      obtain ⟨hsame, -⟩ := Prod.mk.inj h
      exact absurd (hnot houtcome) (by simp [Except.ok.inj hsame])
  · rename_i hepoch
    split at h
    · split at h
      · exact absurd h (by simp)
      · rename_i houtcome
        obtain ⟨hsame, -⟩ := Prod.mk.inj h
        exact absurd (hnot houtcome) (by simp [Except.ok.inj hsame])
    · obtain ⟨hsame, rfl⟩ := Prod.mk.inj h
      obtain ⟨rfl, -⟩ := LobbyReturnOutcome.mk.inj (Except.ok.inj hsame)
      exact ⟨Decidable.not_not.mp hepoch, rfl, rfl, rfl⟩

/-- **Returning twice and returning late.** Take a lobby after any events, and a request.

* With another epoch than the lobby's it changes nothing.
* Once it has been applied, and until a game is selected or launched again, a request for the same
  proposal with the same epoch changes nothing. A member is answered with the return that was
  recorded; to a socket that is no member's the connection is unknown.
* If its epoch is one that the lobby has had by now, it changes nothing after any later launch, of
  whatever proposal. -/
theorem return_requests_replayed (server : LobbyServer) (create : LobbyCreateRequest)
    (voice : Option RoomVoiceState) (events : List LobbyEvent) (request : LobbyReturnRequest) :
    let l := events.foldl (applyLobbyEvent server) (create.complete voice)
    (request.lobbyEpoch ≠ l.lobbyEpoch → (l.returnToLobby request).2 = l)
      ∧ (∀ returned l', l.returnToLobby request = (.ok ⟨returned, true⟩, l') →
        ∀ later, Guarded (lobbyEventStep server)
            (fun l event => replacesReturn server l event = false) l' later →
          ∀ again : LobbyReturnRequest, again.proposalId = request.proposalId →
            again.lobbyEpoch = request.lobbyEpoch →
            let now := later.foldl (applyLobbyEvent server) l'
            now.returnToLobby again
              = (if (now.slotForConnection again.connectionId).isSome then .ok ⟨returned, false⟩
                else .error .unknownConnection, now))
      ∧ (request.lobbyEpoch ≤ l.lobbyEpoch → ∀ between launch later,
        beginsLaunch server (between.foldl (applyLobbyEvent server) l) launch →
        let now := (between ++ launch :: later).foldl (applyLobbyEvent server) l
        (now.returnToLobby request).2 = now) := by
  intro l
  have horder : LobbyInOrder l := history_inOrder server events complete_inOrder
  refine ⟨return_stale, ?_, ?_⟩
  · intro returned l' happlied later hkept again hproposal hepoch now
    obtain ⟨hrequest, hreturned, hrecorded, hnext⟩ := return_applied happlied
    have hl' : applyLobbyEvent server l (.call (.returnFromGame request)) = l' :=
      congrArg Prod.snd happlied
    have hstands : ReturnStands returned request.lobbyEpoch l' :=
      ⟨hl' ▸ lobbyInOrder_event horder, hrecorded, by omega⟩
    have hnow : ReturnStands returned request.lobbyEpoch now := by
      refine invariant_run ?_ hkept (run_lobbyEventStep server l' later) hstands
      intro s event t hs hkeep ht
      obtain rfl := Option.some.inj ht
      exact returnStands_event hs hkeep
    exact return_again hnow (hproposal.trans hreturned.symm) hepoch
  · intro hpast between launch later hbegins now
    have hbetween := epoch_history server l between
    have hlaunch := epoch_launch hbegins
    have hlater := epoch_history server
      (applyLobbyEvent server (between.foldl (applyLobbyEvent server) l) launch) later
    have hnow : now = later.foldl (applyLobbyEvent server)
        (applyLobbyEvent server (between.foldl (applyLobbyEvent server) l) launch) := by
      rw [← List.foldl_cons, ← List.foldl_append]
    refine return_stale ?_
    rw [hnow]
    omega

/-- The host comes back from its game. -/
def hostReturns : LobbyReturnRequest := ⟨⟨0⟩, 5, ⟨7⟩, none, some .playerRequestedReturn, 6⟩

/-- The host returns, gets ready again and repeats its request: the answer is the recorded
return. -/
theorem return_requests_replayed_ready :
    let server : LobbyServer := ⟨id, true⟩
    let l := soloLaunch.foldl (applyLobbyEvent server) (soloHost.complete none)
    let returned : LobbyReturnedView := ⟨⟨7⟩, none, some .playerRequestedReturn, 6⟩
    let l' := (l.returnToLobby hostReturns).2
    let now := applyLobbyEvent server l' (.call (.setGameReadiness ⟨0⟩ ⟨7⟩ .ready none 7))
    (l.returnToLobby hostReturns).1.toOption = some ⟨returned, true⟩
      ∧ now.returnToLobby hostReturns = (.ok ⟨returned, false⟩, now) := by
  intro server l returned l' now
  have hsample : (l.returnToLobby hostReturns).1.toOption = some ⟨returned, true⟩
      ∧ (now.slotForConnection ⟨0⟩).isSome := by
    decide +kernel
  obtain ⟨hanswer, hmember⟩ := hsample
  have happlied : l.returnToLobby hostReturns = (.ok ⟨returned, true⟩, l') := by
    refine Prod.ext ?_ rfl
    cases hresult : (l.returnToLobby hostReturns).1 with
    | error => exact absurd hanswer (by simp [hresult, Except.toOption])
    | ok outcome =>
        rw [hresult] at hanswer
        exact congrArg Except.ok (Option.some.inj hanswer)
  obtain ⟨_, hreplay, _⟩ := return_requests_replayed server soloHost none soloLaunch hostReturns
  have hnow : now.returnToLobby hostReturns = (if (now.slotForConnection ⟨0⟩).isSome then
      .ok ⟨returned, false⟩ else .error .unknownConnection, now) :=
    hreplay returned l' happlied [.call (.setGameReadiness ⟨0⟩ ⟨7⟩ .ready none 7)] ⟨rfl, trivial⟩
      hostReturns rfl rfl
  rw [if_pos hmember] at hnow
  exact ⟨hanswer, hnow⟩

/-- The host returns and loses its socket. The repeated request is not answered with the return. -/
theorem return_not_repeated :
    let server : LobbyServer := ⟨id, true⟩
    let l := soloLaunch.foldl (applyLobbyEvent server) (soloHost.complete none)
    let now := applyLobbyEvent server (l.returnToLobby hostReturns).2 (.call (.disconnect ⟨0⟩ 7))
    ((l.returnToLobby hostReturns).1.toOption.map (·.stateChanged)) = some true
      ∧ now.lastReturn.isSome
      ∧ (now.returnToLobby hostReturns).1.toOption = none := by
  decide +kernel

end NetplayRelay.Proof
