import NetplayRelay.Proof.LobbyMembers

/-!
# What holds of every lobby

The fields of a lobby say things about each other. The status says whether there is a launch, the
launch, the readiness table and the recorded return are about the selected game, the first seat is
the host's, and a closed lobby has nobody connected. No operation checks any of this; it holds since
each operation leaves it so.

Two structures carry the induction. `Seating` is about the seats: a new member takes an empty seat
as a guest, so the host's seat must never count as empty. `Playbill` is about the game, and it needs
the seats once: a readiness row comes from a socket, and a socket sits on a taken seat.
-/

namespace NetplayRelay.Proof

open Lib Protocol Rooms Auth Lobbies

variable {server : LobbyServer} {l l' : Lobby} {op : LobbyOp} {slot slot' : LobbyPlayerSlot}
  {p : PlayerIndex} {readiness : LobbyGameReadinessView} {launch : LobbyGameLaunchView}
  {request : LobbyCreateRequest} {voice : Option RoomVoiceState} {event : LobbyEvent}

/-- One thing that happens to a lobby: a call, or idle cleanup closes it. -/
inductive LobbyEvent
  | call (op : LobbyOp)
  | closeDueToIdle (nowMs : Nat)

def applyLobbyEvent (server : LobbyServer) (l : Lobby) : LobbyEvent → Lobby
  | .call op => applyLobbyOp server l op
  | .closeDueToIdle nowMs =>
    match l.closeDueToIdle nowMs with
    | (false, l') => l'
    | (true, l') => l'.takeVoiceRoomIdForCleanup

section

variable (l) (nowMs : Nat)

@[simp] theorem bumpWithActivity_status : (l.bumpWithActivity nowMs).status = l.status := rfl

@[simp] theorem bumpWithActivity_pendingLaunch :
    (l.bumpWithActivity nowMs).pendingLaunch = l.pendingLaunch := rfl

@[simp] theorem bumpWithActivity_selectedGame :
    (l.bumpWithActivity nowMs).selectedGame = l.selectedGame := rfl

@[simp] theorem bumpWithActivity_gameReadiness :
    (l.bumpWithActivity nowMs).gameReadiness = l.gameReadiness := rfl

@[simp] theorem bumpWithActivity_lastReturn :
    (l.bumpWithActivity nowMs).lastReturn = l.lastReturn := rfl

end

/-! ## Seats -/

structure SeatFits (slot : LobbyPlayerSlot) : Prop where
  /-- The first seat is the host's, and no other is. -/
  host : slot.role = .host ↔ slot.playerIndex = .one
  /-- The host's seat is not given away. -/
  kept : slot.role = .host → slot.status ≠ .empty
  /-- A socket sits on a taken seat. -/
  taken : slot.connectionId.isSome → slot.subjectKey.isSome

structure Seating (l : Lobby) : Prop where
  indexes : l.players.map (·.playerIndex) = [⟨0⟩, ⟨1⟩, ⟨2⟩, ⟨3⟩]
  fits : ∀ slot ∈ l.players, SeatFits slot
  /-- Nobody is connected to a closed lobby. -/
  closed : l.status = .closed → ∀ slot ∈ l.players, slot.connectionId = none

/-- A seat is edited. -/
structure Refits (slot slot' : LobbyPlayerSlot) : Prop where
  playerIndex : slot'.playerIndex = slot.playerIndex
  fits : SeatFits slot → SeatFits slot'

theorem Refits.refl (slot : LobbyPlayerSlot) : Refits slot slot := ⟨rfl, id⟩

theorem refits_same (h : l'.players = l.players) : List.Forall₂ Refits l.players l'.players := by
  rw [h]
  exact List.forall₂_same.mpr fun slot _ => .refl slot

/-- Taking a seat in the role it has. -/
theorem refits_occupy {occupancy : LobbyPlayerOccupancy} (hrole : occupancy.role = slot.role) :
    Refits slot (slot.occupy occupancy) := by
  refine ⟨rfl, fun hfits => ⟨?_, fun _ => by simp [LobbyPlayerSlot.occupy], fun _ => rfl⟩⟩
  have hhost : occupancy.role = .host ↔ slot.playerIndex = .one := hrole ▸ hfits.host
  exact hhost

/-- Taking an empty seat as a guest: it is not the host's. -/
theorem refits_join {occupancy : LobbyPlayerOccupancy} (hrole : occupancy.role = .guest)
    (hempty : slot.isEmpty) : Refits slot (slot.occupy occupancy) := by
  refine ⟨rfl, fun hfits => ⟨?_, fun _ => by simp [LobbyPlayerSlot.occupy], fun _ => rfl⟩⟩
  have hguest : slot.role ≠ .host := by
    intro hhost
    exact hfits.kept hhost (by simpa [LobbyPlayerSlot.isEmpty] using hempty)
  have hother : slot.playerIndex ≠ .one := fun hone => hguest (hfits.host.mpr hone)
  simp [LobbyPlayerSlot.occupy, hrole, hother]

theorem refits_vacate (hslot : l.slot p = some slot) (hguest : slot.role ≠ .host) :
    List.Forall₂ Refits l.players (l.vacate p).players := by
  refine forall₂_updateFirst Refits.refl fun found hfound => ?_
  obtain rfl := Option.some.inj (hslot.symm.trans hfound)
  have hp : slot.playerIndex = p := by simpa using List.find?_some hslot
  refine ⟨hp.symm, fun hfits => ⟨?_, fun h => ?_, fun h => ?_⟩⟩
  · have hother : p ≠ .one := fun hone => hguest (hfits.host.mpr (hp.trans hone))
    simp [LobbyPlayerSlot.empty, hother]
  · exact absurd h (by simp [LobbyPlayerSlot.empty])
  · exact absurd h (by simp [LobbyPlayerSlot.empty])

theorem refits_close {nowMs : Nat} : List.Forall₂ Refits l.players (l.close nowMs).players :=
  forall₂_updateWhere Refits.refl fun _ _ _ =>
    ⟨rfl, fun hfits => ⟨hfits.host, fun _ => by simp, fun h => absurd h (by simp)⟩⟩

theorem refits_step (h : LobbyStep server l op l') : List.Forall₂ Refits l.players l'.players := by
  cases h with
  | refreshed | reconnected => exact forall₂_updateFirst Refits.refl fun _ _ => refits_occupy rfl
  | joined =>
    refine forall₂_updateFirst Refits.refl fun found hfound => refits_join rfl ?_
    exact List.find?_some hfound
  | disconnected =>
    refine forall₂_updateFirst Refits.refl fun found _ => ⟨rfl, fun hfits => ?_⟩
    exact ⟨hfits.host, fun _ => by simp, fun h => absurd h (by simp)⟩
  | closed => exact refits_close
  | left hslot hguest => exact refits_vacate (memberSlot_found hslot) hguest
  | removed _ _ _ _ hslot hguest => exact refits_vacate hslot hguest
  | _ => exact refits_same rfl

/-- Closing takes the socket from every taken seat, and no other seat has one. -/
theorem close_disconnects {nowMs : Nat} (hfits : ∀ slot ∈ l.players, SeatFits slot) :
    ∀ slot ∈ (l.close nowMs).players, slot.connectionId = none := by
  intro slot' hslot'
  obtain ⟨slot, hslot, rfl⟩ := List.mem_map.mp hslot'
  split
  · rfl
  · rename_i hfree
    have hnone : ¬slot.connectionId.isSome := fun h => hfree ((hfits slot hslot).taken h)
    simpa using hnone

theorem Seating.edit (h : Seating l) (hseats : List.Forall₂ Refits l.players l'.players)
    (hclosed : l'.status = .closed → ∀ slot ∈ l'.players, slot.connectionId = none) :
    Seating l' := by
  refine ⟨?_, fun slot' hslot' => ?_, hclosed⟩
  · rw [map_eq_of_forall₂ (hseats.imp fun _ _ => Refits.playerIndex)]
    exact h.indexes
  · obtain ⟨slot, hslot, hrefits⟩ := forall₂_mem hseats hslot'
    exact hrefits.fits (h.fits slot hslot)

/-- A closed lobby lets nothing through: a call comes from a socket or asks for a seat. -/
theorem closed_refuses (h : Seating l) (hclosed : l.status = .closed) :
    accepts server l op = false := by
  refine Bool.eq_false_iff.mpr fun haccepts => ?_
  cases hc : speaksFor op with
  | some c =>
    obtain ⟨slot, hslot, hsocket⟩ := accepts_speaksFor hc haccepts
    exact absurd ((h.closed hclosed slot hslot).symm.trans hsocket) (by simp)
  | none =>
    cases op with
    | join | reconnect => exact absurd haccepts (by simp [accepts, hclosed])
    | _ => exact absurd hc (by simp [speaksFor])

theorem idleStatus_cases (l : Lobby) :
    (l.idleStatus = .gameSelected ∧ l.selectedGame.isSome)
      ∨ (l.idleStatus = .open ∧ l.selectedGame = none) := by
  unfold Lobby.idleStatus
  cases l.selectedGame with
  | none => exact .inr ⟨rfl, rfl⟩
  | some game => exact .inl ⟨rfl, rfl⟩

/-- Only closing closes. -/
theorem closed_step (h : LobbyStep server l op l') (hclosed : l'.status = .closed) :
    l.status = .closed ∨ ∃ nowMs, l' = (l.close nowMs).takeVoiceRoomIdForCleanup := by
  have hidle : l.idleStatus ≠ .closed := by
    rcases idleStatus_cases l with ⟨hstatus, _⟩ | ⟨hstatus, _⟩ <;> simp [hstatus]
  cases h with
  | closed => exact .inr ⟨_, rfl⟩
  | left | removed | returned => exact absurd hclosed hidle
  | chosen | readied | launched | published | started => exact absurd hclosed (by simp)
  | _ => exact .inl hclosed

theorem seating_step (h : Seating l) : Seating (applyLobbyOp server l op) := by
  by_cases hclosed : l.status = .closed
  · rw [refused_unchanged (closed_refuses h hclosed)]
    exact h
  have hstep := applyLobbyOp_step server l op
  refine h.edit (refits_step hstep) fun hnow => ?_
  rcases closed_step hstep hnow with hbefore | ⟨nowMs, hclose⟩
  · exact absurd hbefore hclosed
  · rw [hclose]
    exact close_disconnects h.fits

/-! ## The game -/

/-- What the status, the launch, the readiness table and the recorded return say about the selected
game. -/
structure Playbill (l : Lobby) : Prop where
  inGame : l.status = .inGame ↔ l.pendingLaunch.isSome
  /-- A launch is for the selected proposal. -/
  launch : ∀ launch, l.pendingLaunch = some launch → selected l launch.proposalId
  «open» : l.status = .open → l.selectedGame = none
  /-- A player has one readiness row. -/
  unique : (l.gameReadiness.map (·.playerIndex)).Nodup
  /-- A readiness row is of a taken seat. -/
  seated : ∀ row ∈ l.gameReadiness, ∃ slot ∈ l.players,
    slot.playerIndex.zeroBased = row.playerIndex ∧ slot.subjectKey.isSome
  /-- A readiness row is for the selected proposal. -/
  ready : ∀ row ∈ l.gameReadiness, selected l row.proposalId
  /-- A return is of the selected proposal, and the launch is over. -/
  returned : ∀ returned, l.lastReturn = some returned →
    l.pendingLaunch = none ∧ selected l returned.proposalId

/-- A taken seat stays taken. -/
structure StaysTaken (slot slot' : LobbyPlayerSlot) : Prop where
  playerIndex : slot'.playerIndex = slot.playerIndex
  taken : slot.subjectKey.isSome → slot'.subjectKey.isSome

theorem StaysTaken.refl (slot : LobbyPlayerSlot) : StaysTaken slot slot := ⟨rfl, id⟩

theorem seated_edit {rows : List LobbyGameReadinessView} {players players' : List LobbyPlayerSlot}
    (h : ∀ row ∈ rows, ∃ slot ∈ players,
      slot.playerIndex.zeroBased = row.playerIndex ∧ slot.subjectKey.isSome)
    (hseats : List.Forall₂ StaysTaken players players') :
    ∀ row ∈ rows, ∃ slot ∈ players',
      slot.playerIndex.zeroBased = row.playerIndex ∧ slot.subjectKey.isSome := by
  intro row hrow
  obtain ⟨slot, hslot, hindex, htaken⟩ := h row hrow
  obtain ⟨slot', hslot', hstays⟩ := forall₂_mem hseats.flip hslot
  exact ⟨slot', hslot', by rw [hstays.playerIndex, hindex], hstays.taken htaken⟩

theorem seated_vacate (h : Playbill l) :
    ∀ row ∈ (l.vacate p).gameReadiness, ∃ slot ∈ (l.vacate p).players,
      slot.playerIndex.zeroBased = row.playerIndex ∧ slot.subjectKey.isSome := by
  intro row hrow
  obtain ⟨hmem, hother⟩ := List.mem_filter.mp hrow
  obtain ⟨slot, hslot, hindex, htaken⟩ := h.seated row hmem
  have hne : slot.playerIndex ≠ p := by
    rintro rfl
    exact absurd hindex.symm (by simpa using hother)
  -- the edit is elsewhere: this seat is still there
  have hseats : List.Forall₂ (fun a b => a.playerIndex ≠ p → b = a) l.players
      (l.vacate p).players := by
    refine forall₂_updateFirst (fun _ _ => rfl) fun found hfound hp => ?_
    exact absurd (by simpa using List.find?_some hfound) hp
  obtain ⟨slot', hslot', hsame⟩ := forall₂_mem hseats.flip hslot
  exact ⟨slot', hslot', by rw [hsame hne]; exact ⟨hindex, htaken⟩⟩

theorem mem_putReadiness {row : LobbyGameReadinessView} (h : row ∈ l.putReadiness readiness) :
    row = readiness ∨ row ∈ l.gameReadiness := by
  unfold Lobby.putReadiness at h
  split at h
  · have hrows : List.Forall₂ (fun a b => b = readiness ∨ b = a) l.gameReadiness
        (updateFirst (·.playerIndex = readiness.playerIndex) (fun _ => readiness)
          l.gameReadiness) :=
      forall₂_updateFirst (fun _ => .inr rfl) fun _ _ => .inl rfl
    obtain ⟨old, hold, hnew | hsame⟩ := forall₂_mem hrows h
    · exact .inl hnew
    · exact .inr (hsame ▸ hold)
  · rcases List.mem_append.mp h with hold | hnew
    · exact .inr hold
    · exact .inl (List.mem_singleton.mp hnew)

theorem putReadiness_unique (h : (l.gameReadiness.map (·.playerIndex)).Nodup) :
    ((l.putReadiness readiness).map (·.playerIndex)).Nodup := by
  unfold Lobby.putReadiness
  split
  · have hrows : List.Forall₂ (fun a b : LobbyGameReadinessView => b.playerIndex = a.playerIndex)
        l.gameReadiness
        (updateFirst (·.playerIndex = readiness.playerIndex) (fun _ => readiness)
          l.gameReadiness) :=
      forall₂_updateFirst (fun _ => rfl) fun _ hfound => by
        simpa [eq_comm] using List.find?_some hfound
    rw [map_eq_of_forall₂ hrows]
    exact h
  · rename_i hnew
    rw [List.map_append, List.map_singleton, List.nodup_append]
    refine ⟨h, List.nodup_singleton _, ?_⟩
    intro index hindex other hother hsame
    obtain ⟨row, hrow, rfl⟩ := List.mem_map.mp hindex
    refine hnew (List.any_eq_true.mpr ⟨row, hrow, ?_⟩)
    rw [List.mem_singleton] at hother
    simp [hsame, hother]

theorem new_proposal {proposalId : ProposalId} {status : LobbyGameReadinessStatus}
    {detail : Option Text} {nowMs : Nat}
    (h : LobbyGameReadinessView.new p proposalId status detail nowMs = .ok readiness) :
    readiness.playerIndex = p.zeroBased ∧ readiness.proposalId = proposalId := by
  unfold LobbyGameReadinessView.new at h
  cases hdetail : sanitizeReadinessDetail detail with
  | error => exact absurd h (by simp [hdetail, Except.map])
  | ok text =>
    rw [hdetail] at h
    obtain rfl := Except.ok.inj h
    exact ⟨rfl, rfl⟩

theorem markPlayerStarted_proposalId {expected : List PlayerIndex} {nowMs : Nat} :
    (launch.markPlayerStarted p expected nowMs).2.proposalId = launch.proposalId := by
  unfold LobbyGameLaunchView.markPlayerStarted
  split
  · rfl
  · split
    · rfl
    · dsimp only
      split <;> rfl
  · rfl

/-- The fields that `Playbill` is about, except for the seats. -/
def gameFields (l : Lobby) : LobbyStatus × Option LobbyGameSelectionView
    × List LobbyGameReadinessView × Option LobbyGameLaunchView × Option LobbyReturnedView :=
  (l.status, l.selectedGame, l.gameReadiness, l.pendingLaunch, l.lastReturn)

theorem Playbill.keep (h : Playbill l) (hgame : gameFields l' = gameFields l)
    (hseats : List.Forall₂ StaysTaken l.players l'.players) : Playbill l' := by
  simp only [gameFields, Prod.mk.injEq] at hgame
  obtain ⟨hstatus, hselected, hrows, hlaunch, hreturn⟩ := hgame
  have hsame : ∀ proposalId, selected l' proposalId = selected l proposalId := by
    intro proposalId
    rw [selected, selected, hselected]
  refine ⟨?_, ?_, ?_, ?_, ?_, ?_, ?_⟩
  · rw [hstatus, hlaunch]
    exact h.inGame
  · intro launch hpending
    rw [hsame]
    exact h.launch launch (hlaunch ▸ hpending)
  · rw [hstatus, hselected]
    exact h.open
  · rw [hrows]
    exact h.unique
  · rw [hrows]
    exact seated_edit h.seated hseats
  · intro row hrow
    rw [hsame]
    exact h.ready row (hrows ▸ hrow)
  · intro returned hreturned
    rw [hlaunch, hsame]
    exact h.returned returned (hreturn ▸ hreturned)

theorem staysTaken_same (h : l'.players = l.players) :
    List.Forall₂ StaysTaken l.players l'.players := by
  rw [h]
  exact List.forall₂_same.mpr fun slot _ => .refl slot

/-- Without a launch and with a status that fits the selection. -/
theorem Playbill.idle (h : Playbill l) (hseats : ∀ row ∈ l'.gameReadiness, ∃ slot ∈ l'.players,
      slot.playerIndex.zeroBased = row.playerIndex ∧ slot.subjectKey.isSome)
    (hrows : l'.gameReadiness.Sublist l.gameReadiness)
    (hselected : l'.selectedGame = l.selectedGame)
    (hstatus : l'.status = l.idleStatus ∨ l'.status = .closed) (hlaunch : l'.pendingLaunch = none)
    (hreturn : ∀ returned, l'.lastReturn = some returned → selected l returned.proposalId) :
    Playbill l' := by
  have hsame : ∀ proposalId, selected l' proposalId = selected l proposalId := by
    intro proposalId
    rw [selected, selected, hselected]
  refine ⟨?_, ?_, ?_, h.unique.sublist (hrows.map _), hseats, ?_, ?_⟩
  · rw [hlaunch]
    refine iff_of_false (fun hin => ?_) (by simp)
    rcases hstatus with hidle | hclosed
    · rcases idleStatus_cases l with ⟨hcase, _⟩ | ⟨hcase, _⟩ <;> simp [hidle, hcase] at hin
    · simp [hclosed] at hin
  · intro launch hpending
    exact absurd (hlaunch.symm.trans hpending) (by simp)
  · intro hopen
    rw [hselected]
    rcases hstatus with hidle | hclosed
    · rcases idleStatus_cases l with ⟨hcase, _⟩ | ⟨_, hnone⟩
      · simp [hidle, hcase] at hopen
      · exact hnone
    · simp [hclosed] at hopen
  · intro row hrow
    rw [hsame]
    exact h.ready row (hrows.subset hrow)
  · intro returned hreturned
    rw [hsame]
    exact ⟨hlaunch, hreturn returned hreturned⟩

/-- With a launch for the selected proposal and no return. -/
theorem Playbill.launching (h : Playbill l) (hselected : selected l launch.proposalId)
    (hseats : l'.players = l.players) (hsame : l'.selectedGame = l.selectedGame)
    (hrows : l'.gameReadiness = l.gameReadiness) (hlaunch : l'.pendingLaunch = some launch)
    (hstatus : l'.status = .inGame) (hreturn : l'.lastReturn = none) : Playbill l' := by
  have hselect : ∀ proposalId, selected l' proposalId = selected l proposalId := by
    intro proposalId
    rw [selected, selected, hsame]
  refine ⟨iff_of_true hstatus (by simp [hlaunch]), ?_, ?_, ?_, ?_, ?_, ?_⟩
  · intro launch' hpending
    obtain rfl := Option.some.inj (hlaunch.symm.trans hpending)
    rw [hselect]
    exact hselected
  · intro hopen
    exact absurd (hstatus.symm.trans hopen) (by decide)
  · rw [hrows]
    exact h.unique
  · rw [hrows, hseats]
    exact h.seated
  · intro row hrow
    rw [hselect]
    exact h.ready row (hrows ▸ hrow)
  · intro returned hreturned
    exact absurd (hreturn.symm.trans hreturned) (by simp)

/-- While there is a launch, no return is recorded. -/
theorem Playbill.no_return (h : Playbill l) (hlaunch : l.pendingLaunch = some launch) :
    l.lastReturn = none := by
  cases hreturn : l.lastReturn with
  | none => rfl
  | some returned => exact absurd ((h.returned returned hreturn).1.symm.trans hlaunch) (by simp)

theorem close_playbill {nowMs : Nat} (h : Playbill l) : Playbill (l.close nowMs) := by
  refine h.idle ?_ (List.Sublist.refl _) rfl (.inr rfl) rfl fun returned hreturned =>
    (h.returned returned hreturned).2
  exact seated_edit h.seated (forall₂_updateWhere StaysTaken.refl fun _ _ _ => ⟨rfl, id⟩)

theorem playbill_step (h : Playbill l) (hseats : Seating l) (hstep : LobbyStep server l op l') :
    Playbill l' := by
  cases hstep with
  | refused => exact h
  | refreshed | joined | reconnected =>
    exact h.keep rfl (forall₂_updateFirst StaysTaken.refl fun _ _ => ⟨rfl, fun _ => rfl⟩)
  | disconnected => exact h.keep rfl (forall₂_updateFirst StaysTaken.refl fun _ _ => ⟨rfl, id⟩)
  | noted | voiced => exact h.keep rfl (staysTaken_same rfl)
  | closed => exact (close_playbill h).keep rfl (staysTaken_same rfl)
  | left =>
    exact h.idle (seated_vacate h) List.filter_sublist rfl (.inl rfl) rfl
      fun returned hreturned => (h.returned returned hreturned).2
  | removed _ _ _ hlaunch =>
    exact h.idle (seated_vacate h) List.filter_sublist rfl (.inl rfl) hlaunch
      fun returned hreturned => (h.returned returned hreturned).2
  | chosen =>
    refine ⟨by simp, ?_, ?_, ?_, ?_, ?_, ?_⟩
    all_goals simp
  | @readied c proposalId status detail nowMs slot readiness hslot hselected hreadiness =>
    obtain ⟨hindex, hproposal⟩ := new_proposal hreadiness
    have hmem := List.mem_of_find?_eq_some hslot
    have hsocket : slot.connectionId = some c := by simpa using List.find?_some hslot
    have htaken : slot.subjectKey.isSome := (hseats.fits slot hmem).taken (by simp [hsocket])
    refine ⟨by simp, ?_, ?_, putReadiness_unique h.unique, ?_, ?_, ?_⟩
    · intro launch hlaunch
      exact absurd hlaunch (by simp)
    · intro hopen
      exact absurd hopen (by simp)
    · intro row hrow
      rcases mem_putReadiness hrow with rfl | hold
      · exact ⟨slot, hmem, hindex.symm, htaken⟩
      · exact h.seated row hold
    · intro row hrow
      rcases mem_putReadiness hrow with rfl | hold
      · rw [hproposal]
        exact hselected
      · exact h.ready row hold
    · intro returned hreturned
      exact ⟨rfl, (h.returned returned hreturned).2⟩
  | launched _ _ hselected => exact h.launching hselected rfl rfl rfl rfl rfl rfl
  | published _ hselected hlaunch hproposal =>
    exact h.launching (hproposal ▸ hselected) rfl rfl rfl rfl rfl (h.no_return hlaunch)
  | @started c proposalId nowMs slot launch launch' expected _ _ hselected _ hlaunch hproposal
      hstarted =>
      have hkept : launch'.proposalId = proposalId := by
        have hmarked := @markPlayerStarted_proposalId slot.playerIndex launch expected nowMs
        rw [hstarted, hproposal] at hmarked
        exact hmarked
      exact h.launching (hkept ▸ hselected) rfl rfl rfl rfl rfl (h.no_return hlaunch)
  | returned _ hselected =>
    refine h.idle ?_ (List.nil_sublist _) rfl (.inl rfl) rfl ?_
    · intro row hrow
      exact absurd hrow (by simp)
    · intro returned hreturned
      obtain rfl := Option.some.inj hreturned
      exact hselected

/-! ## Whole histories -/

/-- A lobby takes one event after the other. -/
def lobbyEventStep (server : LobbyServer) (l : Lobby) (event : LobbyEvent) : Option Lobby :=
  some (applyLobbyEvent server l event)

theorem run_lobbyEventStep (server : LobbyServer) (l : Lobby) (events : List LobbyEvent) :
    run (lobbyEventStep server) l events = some (events.foldl (applyLobbyEvent server) l) :=
  run_some (applyLobbyEvent server) l events

theorem complete_seating : Seating (request.complete voice) := by
  refine ⟨?_, ?_, ?_⟩
  · rw [complete_players]
    rfl
  · rw [complete_players]
    intro slot hslot
    simp only [List.mem_cons, List.not_mem_nil, or_false] at hslot
    rcases hslot with rfl | rfl | rfl | rfl
    · exact ⟨iff_of_true rfl rfl, fun _ => by simp [LobbyPlayerSlot.host, LobbyPlayerSlot.occupy],
        fun _ => rfl⟩
    all_goals
      exact ⟨iff_of_false (by simp [LobbyPlayerSlot.empty]) (by simp [LobbyPlayerSlot.empty,
        PlayerIndex.one]), fun h => absurd h (by simp [LobbyPlayerSlot.empty]),
        fun h => absurd h (by simp [LobbyPlayerSlot.empty])⟩
  · intro hclosed
    have hstatus : (request.complete voice).status ≠ .closed := by
      cases voice <;> cases hgame : request.initialGame <;>
        simp [LobbyCreateRequest.complete, Lobby.new, Lobby.setVoiceState, hgame]
    exact absurd hclosed hstatus

theorem complete_playbill : Playbill (request.complete voice) := by
  have hnew : Playbill (.new request) := by
    refine ⟨?_, ?_, ?_, ?_, ?_, ?_, ?_⟩
    all_goals cases hgame : request.initialGame <;> simp [Lobby.new, hgame]
  cases voice with
  | none => exact hnew
  | some voice => exact hnew.keep rfl (staysTaken_same rfl)

/-- The seats and the game of a lobby are in order. -/
structure LobbyInOrder (l : Lobby) : Prop where
  seating : Seating l
  playbill : Playbill l

theorem lobbyInOrder_event (h : LobbyInOrder l) :
    LobbyInOrder (applyLobbyEvent server l event) := by
  cases event with
  | call op =>
    exact ⟨seating_step h.seating,
      playbill_step h.playbill h.seating (applyLobbyOp_step server l op)⟩
  | closeDueToIdle nowMs =>
    rw [applyLobbyEvent, Lobby.closeDueToIdle]
    by_cases hclosed : l.status = .closed
    · rw [if_pos hclosed]
      exact h
    · rw [if_neg hclosed]
      refine ⟨h.seating.edit refits_close fun _ => close_disconnects h.seating.fits, ?_⟩
      exact (close_playbill h.playbill).keep rfl (staysTaken_same rfl)

/-- Nothing happens to a closed lobby. -/
theorem closed_event (h : LobbyInOrder l) (hclosed : l.status = .closed) :
    applyLobbyEvent server l event = l := by
  cases event with
  | call op => exact refused_unchanged (closed_refuses h.seating hclosed)
  | closeDueToIdle nowMs => rw [applyLobbyEvent, Lobby.closeDueToIdle, if_pos hclosed]

/-- The sockets of the seats. -/
def liveSockets (l : Lobby) : List ConnectionId := l.players.filterMap (·.connectionId)

/-- The sockets that an event brings are not in use. -/
def bringsFreshSocket (l : Lobby) : LobbyEvent → Bool
  | .call op => (brings op).all (· ∉ liveSockets l)
  | .closeDueToIdle _ => true

theorem liveSockets_nodup_iff : (liveSockets l).Nodup ↔ l.players.Pairwise fun a b =>
    ∀ c, a.connectionId = some c → b.connectionId ≠ some c := by
  rw [liveSockets, List.Nodup, List.pairwise_filterMap]
  refine List.pairwise_iff_forall_sublist.trans ?_
  rw [List.pairwise_iff_forall_sublist]
  refine forall_congr' fun a => forall_congr' fun b => imp_congr_right fun _ => ?_
  constructor
  · intro h c ha hb
    exact h c ha c hb rfl
  · rintro h c ha d hb rfl
    exact h c ha hb

theorem sheds_liveSockets (hsheds : List.Forall₂ SeatSheds l.players l'.players)
    (h : (liveSockets l).Nodup) : (liveSockets l').Nodup := by
  rw [liveSockets_nodup_iff] at h ⊢
  refine pairwise_forall₂ ?_ hsheds h
  intro a a' b b' ha hb hab c hac hbc
  have hac' := ha.socket.resolve_right (by simp [hac])
  have hbc' := hb.socket.resolve_right (by simp [hbc])
  exact hab c (hac'.symm.trans hac) (hbc'.symm.trans hbc)

theorem liveSockets_event (h : (liveSockets l).Nodup) (hfresh : bringsFreshSocket l event) :
    (liveSockets (applyLobbyEvent server l event)).Nodup := by
  cases event with
  | call op =>
    rcases members_step (applyLobbyOp_step server l op) with
      hsheds | ⟨test, edit, slot, hplayers, hfound, htaken⟩
    · exact sheds_liveSockets hsheds h
    rw [liveSockets_nodup_iff] at h ⊢
    rw [applyLobbyEvent, hplayers]
    refine pairwise_updateFirst (fun hab c hb ha => hab c ha hb) ?_ h
    intro a b ha hb _ c hac hbc
    obtain rfl := Option.some.inj (ha.symm.trans hfound)
    obtain ⟨c', hbrings, hc'⟩ := htaken.socket
    obtain rfl := Option.some.inj (hc'.symm.trans hac)
    have hnew : c' ∉ liveSockets l := by simpa [bringsFreshSocket, hbrings] using hfresh
    exact hnew (List.mem_filterMap.mpr ⟨b, hb, hbc⟩)
  | closeDueToIdle nowMs =>
    rw [applyLobbyEvent, Lobby.closeDueToIdle]
    split
    · rename_i hclosed
      split at hclosed
      · obtain ⟨-, rfl⟩ := Prod.mk.inj hclosed
        exact h
      · exact absurd hclosed (by simp)
    · rename_i hclosed
      split at hclosed
      · exact absurd hclosed (by simp)
      · obtain ⟨-, rfl⟩ := Prod.mk.inj hclosed
        refine sheds_liveSockets ?_ h
        exact forall₂_updateWhere SeatSheds.refl fun _ _ _ => ⟨rfl, .inr rfl, .inl rfl⟩

theorem complete_liveSockets : liveSockets (request.complete voice) = [request.hostConnection] := by
  rw [liveSockets, complete_players]
  rfl

theorem complete_inOrder :
    LobbyInOrder (request.complete voice) := ⟨complete_seating, complete_playbill⟩

theorem history_inOrder (server : LobbyServer) (events : List LobbyEvent) (h : LobbyInOrder l) :
    LobbyInOrder (events.foldl (applyLobbyEvent server) l) := by
  induction events generalizing l with
  | nil => exact h
  | cons event events ih => exact ih (lobbyInOrder_event h)

theorem closed_history (server : LobbyServer) (events : List LobbyEvent) (h : LobbyInOrder l)
    (hclosed : l.status = .closed) : events.foldl (applyLobbyEvent server) l = l := by
  induction events with
  | nil => rfl
  | cons event events ih => rw [List.foldl_cons, closed_event h hclosed, ih]

theorem history_liveSockets {events : List LobbyEvent}
    (hfresh : Guarded (lobbyEventStep server) (fun l event => bringsFreshSocket l event)
      (request.complete voice) events) :
    (liveSockets (events.foldl (applyLobbyEvent server) (request.complete voice))).Nodup := by
  have hstep : ∀ l event l', (liveSockets l).Nodup → bringsFreshSocket l event →
      lobbyEventStep server l event = some l' → (liveSockets l').Nodup := by
    intro l event l' hnodup hnew hl'
    rw [← Option.some.inj hl']
    exact liveSockets_event hnodup hnew
  refine invariant_run hstep hfresh (run_lobbyEventStep server _ events) ?_
  rw [complete_liveSockets]
  exact List.nodup_singleton _

/-- **What holds of every lobby**, after any calls and idle cleanup from its creation on. Its seats
and its game are in order, sockets that were fresh when they came are distinct, and nothing happens
any more once it is closed. -/
theorem lobby_stays_in_order (server : LobbyServer) (request : LobbyCreateRequest)
    (voice : Option RoomVoiceState) (events : List LobbyEvent) :
    let l := events.foldl (applyLobbyEvent server) (request.complete voice)
    LobbyInOrder l
      ∧ (Guarded (lobbyEventStep server) (fun l event => bringsFreshSocket l event)
          (request.complete voice) events → (liveSockets l).Nodup)
      ∧ (l.status = .closed →
        ∀ later : List LobbyEvent, later.foldl (applyLobbyEvent server) l = l) := by
  intro l
  have horder : LobbyInOrder l := history_inOrder server events complete_inOrder
  exact ⟨horder, history_liveSockets, fun hclosed later =>
    closed_history server later horder hclosed⟩

def sampleCandidate : LobbyGameCandidate :=
  ⟨"title".toList, "system".toList, "core".toList, none, none, none⟩

/-- A guest joins, and the host and the guest get ready for a game. -/
def readyTable : List LobbyOp :=
  [.join sampleGuest ⟨1⟩ none .default "t1".toList 1, .selectGame ⟨0⟩ sampleCandidate ⟨7⟩ 2,
    .setGameReadiness ⟨0⟩ ⟨7⟩ .ready none 3, .setGameReadiness ⟨1⟩ ⟨7⟩ .ready none 4]

/-- The game is launched; then idle cleanup closes the lobby with both players in it. -/
theorem lobby_stays_in_order_launch :
    let server : LobbyServer := ⟨id, true⟩
    let request := sampleLobbyRequest 0 firstUuid
    let events := readyTable.map LobbyEvent.call ++ [.call (.requestGameLaunch ⟨0⟩ ⟨7⟩ 5)]
    let launched := events.foldl (applyLobbyEvent server) (request.complete none)
    let closed := applyLobbyEvent server launched (.closeDueToIdle 6)
    launched.status = .inGame ∧ liveSockets launched = [⟨0⟩, ⟨1⟩] ∧ (liveSockets launched).Nodup
      ∧ closed.status = .closed
      ∧ ∀ later : List LobbyEvent, later.foldl (applyLobbyEvent server) closed = closed := by
  intro server request events launched closed
  have hsample : launched.status = .inGame ∧ liveSockets launched = [⟨0⟩, ⟨1⟩]
      ∧ closed.status = .closed
      ∧ Guarded (lobbyEventStep server) (fun l event => bringsFreshSocket l event)
        (request.complete none) events := by
    decide +kernel
  obtain ⟨hinGame, hlive, hclosed, hfresh⟩ := hsample
  obtain ⟨_, hdistinct, _⟩ := lobby_stays_in_order server request none events
  let cleanup : LobbyEvent := .closeDueToIdle 6
  have hthen : (events ++ [cleanup]).foldl (applyLobbyEvent server) (request.complete none)
      = closed := List.foldl_concat _ _ _ _
  obtain ⟨_, _, hstays⟩ := lobby_stays_in_order server request none (events ++ [cleanup])
  rw [hthen] at hstays
  exact ⟨hinGame, hlive, hdistinct hfresh, hclosed, hstays hclosed⟩

end NetplayRelay.Proof
