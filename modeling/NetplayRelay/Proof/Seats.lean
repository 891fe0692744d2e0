import NetplayRelay.Proof.Effects
import NetplayRelay.Proof.Histories

/-!
# Who sits where

A room has two seats for its whole life. The host's is the first one; an input socket only hangs
on a seat whose control socket is attached; a seat with a reconnect deadline has no sockets; and no
socket serves two seats or two purposes.

`SeatChange` coarsens `Effect` to what it does to the seats. Nearly everything keeps them, and the
rest either attaches one new socket, or gives sockets up, or drops players into a recovery.
-/

namespace NetplayRelay.Proof

open Lib Protocol Rooms Registry NetplayRoom

/-- The slot is reached through this socket, for control or for input. -/
def Holds (slot : PlayerSlot) (c : ConnectionId) : Prop :=
  slot.connectionId = some c ∨ slot.inputConnectionId = some c

/-- Two slots share no socket. -/
def Apart (slot slot' : PlayerSlot) : Prop := ∀ c, Holds slot c → ¬Holds slot' c

structure WellSeated (slot : PlayerSlot) : Prop where
  /-- Only the first seat is a host's. -/
  host : slot.role = .host → slot.playerIndex = .one
  /-- Input goes with control. -/
  input : slot.inputConnectionId.isSome → slot.connectionId.isSome
  /-- The two sockets differ. -/
  twoSockets : ∀ c, slot.connectionId = some c → slot.inputConnectionId ≠ some c
  /-- Who is waited for is not there. -/
  lost : slot.reconnectDeadline.isSome → slot.connectionId = none

structure Seats (r : NetplayRoom) : Prop where
  indices : r.players.map (·.playerIndex) = [.one, .two]
  capacity : r.maxPlayers = 2
  seated : ∀ slot ∈ r.players, WellSeated slot
  apart : r.players.Pairwise Apart

variable {relay : Relay} {r r' r'' : NetplayRoom} {slot slot' slot'' : PlayerSlot}
  {c : ConnectionId} {edit : PlayerSlot → PlayerSlot} {now : Instant} {grace : Duration}
  {op : RoomOp}

theorem Apart.symm (h : Apart slot slot') : Apart slot' slot :=
  fun c hc hc' => h c hc' hc

instance : Std.Symm Apart := ⟨fun _ _ => Apart.symm⟩

/-! ## How a seat can change -/

theorem Keeps.holds (h : Keeps slot slot') (hc : Holds slot' c) : Holds slot c := by
  rw [Holds, h.connectionId, h.inputConnectionId] at hc
  exact hc

theorem Keeps.wellSeated (h : Keeps slot slot') (hs : WellSeated slot) : WellSeated slot' where
  host := by
    rw [h.role, h.playerIndex]
    exact hs.host
  input := by
    rw [h.inputConnectionId, h.connectionId]
    exact hs.input
  twoSockets := by
    rw [h.connectionId, h.inputConnectionId]
    exact hs.twoSockets
  lost := by
    rw [h.reconnectDeadline, h.connectionId]
    exact hs.lost

/-- Sockets may have been given up. -/
structure Narrows (slot slot' : PlayerSlot) : Prop where
  playerIndex : slot'.playerIndex = slot.playerIndex
  role : slot'.role = slot.role
  sockets : ∀ {c}, Holds slot' c → Holds slot c
  seated : WellSeated slot → WellSeated slot'

/-- Sockets may have been given up, and no deadline appears. -/
structure Yields (slot slot' : PlayerSlot) : Prop extends Narrows slot slot' where
  deadline : slot'.reconnectDeadline.isSome → slot.reconnectDeadline.isSome

theorem Keeps.yields (h : Keeps slot slot') : Yields slot slot' where
  playerIndex := h.playerIndex
  role := h.role
  sockets := h.holds
  seated := h.wellSeated
  deadline := by
    rw [h.reconnectDeadline]
    exact id

theorem Narrows.trans (h : Narrows slot slot') (h' : Narrows slot' slot'') :
    Narrows slot slot'' where
  playerIndex := h'.playerIndex.trans h.playerIndex
  role := h'.role.trans h.role
  sockets := fun hc => h.sockets (h'.sockets hc)
  seated := fun hs => h'.seated (h.seated hs)

theorem Yields.trans (h : Yields slot slot') (h' : Yields slot' slot'') : Yields slot slot'' where
  toNarrows := h.toNarrows.trans h'.toNarrows
  deadline := fun hd => h.deadline (h'.deadline hd)

theorem narrows_of_empty (hindex : slot'.playerIndex = slot.playerIndex)
    (hrole : slot'.role = slot.role) (hcontrol : slot'.connectionId = none)
    (hinput : slot'.inputConnectionId = none) : Narrows slot slot' where
  playerIndex := hindex
  role := hrole
  sockets := by
    intro c hc
    simp [Holds, hcontrol, hinput] at hc
  seated := by
    intro hs
    refine ⟨?_, by simp [hinput], by simp [hcontrol], fun _ => hcontrol⟩
    rw [hrole, hindex]
    exact hs.host

/-- A seat that loses its input socket, and its deadline if it has one. -/
theorem yields_of_inputGone (hindex : slot'.playerIndex = slot.playerIndex)
    (hrole : slot'.role = slot.role) (hcontrol : slot'.connectionId = slot.connectionId)
    (hinput : slot'.inputConnectionId = none) (hdeadline : slot'.reconnectDeadline = none
      ∨ slot'.reconnectDeadline = slot.reconnectDeadline) : Yields slot slot' where
  playerIndex := hindex
  role := hrole
  sockets := by
    intro c hc
    rw [Holds, hcontrol, hinput] at hc
    exact .inl (hc.resolve_right (by simp))
  seated := by
    intro hs
    refine ⟨?_, by simp [hinput], by simp [hinput], ?_⟩
    · rw [hrole, hindex]
      exact hs.host
    rw [hcontrol]
    rcases hdeadline with h | h
    · simp [h]
    · rw [h]
      exact hs.lost
  deadline := by
    rcases hdeadline with h | h
    · simp [h]
    · rw [h]
      exact id

theorem Clears.yields (h : Clears slot slot') : Yields slot slot' := by
  rcases h with h | ⟨_, _, h⟩
  · exact h.yields
  · exact yields_of_inputGone (congrArg Seat.playerIndex h) (congrArg Seat.role h)
      (congrArg Seat.connectionId h) (congrArg Seat.inputConnectionId h)
      (.inl (congrArg Seat.reconnectDeadline h))

theorem TimesOut.narrows (h : TimesOut slot slot') : Narrows slot slot' := by
  rcases h with h | ⟨_, h⟩
  · exact h.yields.toNarrows
  · exact narrows_of_empty (congrArg Seat.playerIndex h) (congrArg Seat.role h)
      (congrArg Seat.connectionId h) (congrArg Seat.inputConnectionId h)

/-- Socket `c` was attached. Nobody else lost one, and no deadline appears. -/
structure Attaches (c : ConnectionId) (slot slot' : PlayerSlot) : Prop where
  playerIndex : slot'.playerIndex = slot.playerIndex
  connected : slot.isConnected → slot'.isConnected
  sockets : ∀ c', Holds slot' c' → c' = c ∨ Holds slot c'
  seated : ¬Holds slot c → WellSeated slot → WellSeated slot'
  deadline : slot'.reconnectDeadline.isSome → slot.reconnectDeadline.isSome

theorem attaches_control (hindex : slot'.playerIndex = slot.playerIndex)
    (hrole : slot'.role = .host → slot.role = .host) (hcontrol : slot'.connectionId = some c)
    (hinput : slot'.inputConnectionId = none) (hdeadline : slot'.reconnectDeadline = none) :
    Attaches c slot slot' where
  playerIndex := hindex
  connected := by simp [PlayerSlot.isConnected, hcontrol]
  sockets := by
    intro c' hc'
    rw [Holds, hcontrol, hinput] at hc'
    rcases hc' with h | h
    · exact .inl (Option.some.inj h).symm
    · exact absurd h (by simp)
  seated := by
    intro _ hs
    refine ⟨fun h => ?_, by simp [hinput], by simp [hinput], by simp [hdeadline]⟩
    rw [hindex]
    exact hs.host (hrole h)
  deadline := by simp [hdeadline]

/-! ## Rules for the invariant -/

namespace Seats

theorem nodup (h : Seats r) : (r.players.map (·.playerIndex)).Nodup := by
  rw [h.indices]
  decide

/-- **Sockets given up.** -/
theorem narrow (h : Seats r) (hplayers : List.Forall₂ Narrows r.players r'.players)
    (hcapacity : r'.maxPlayers = r.maxPlayers) : Seats r' where
  indices := by
    rw [map_eq_of_forall₂ (hplayers.imp fun _ _ => Narrows.playerIndex), h.indices]
  capacity := hcapacity.trans h.capacity
  seated := by
    intro slot' hslot'
    obtain ⟨slot, hslot, hs⟩ := forall₂_mem hplayers hslot'
    exact hs.seated (h.seated slot hslot)
  apart := by
    refine pairwise_forall₂ ?_ hplayers h.apart
    intro a a' b b' ha hb hab c hc hc'
    exact hab c (ha.sockets hc) (hb.sockets hc')

theorem keep (h : Seats r) (hplayers : List.Forall₂ Keeps r.players r'.players)
    (hcapacity : r'.maxPlayers = r.maxPlayers) : Seats r' :=
  h.narrow (hplayers.imp fun _ _ hs => hs.yields.toNarrows) hcapacity

/-- A seat is found under its number. -/
theorem slotForPlayer (h : Seats r) (hslot : slot ∈ r.players) :
    r.slotForPlayer slot.playerIndex = some slot :=
  find?_key h.nodup hslot

/-- Who has an input socket has a control socket. -/
theorem controlOfInput (h : Seats r) (hslot : r.slotForInputConnection c = some slot) :
    slot.connectionId.isSome := by
  have hc : slot.inputConnectionId = some c := by simpa using List.find?_some hslot
  exact (h.seated slot (List.mem_of_find?_eq_some hslot)).input (by rw [hc]; rfl)

/-- A socket belongs to one seat. -/
theorem eq_of_holds (h : Seats r) (hslot : slot ∈ r.players) (hslot' : slot' ∈ r.players)
    (hc : Holds slot c) (hc' : Holds slot' c) : slot' = slot := by
  by_contra heq
  exact h.apart.forall hslot' hslot heq c hc' hc

/-- A seat is found by its control socket. -/
theorem slotForConnection {c : ConnectionId} (h : Seats r) (hslot : slot ∈ r.players)
    (hc : slot.connectionId = some c) : r.slotForConnection c = some slot := by
  cases hfound : r.slotForConnection c with
  | none => exact absurd hc (by simpa using List.find?_eq_none.mp hfound slot hslot)
  | some slot' =>
    have hc' : slot'.connectionId = some c := by simpa using List.find?_some hfound
    rw [h.eq_of_holds hslot (List.mem_of_find?_eq_some hfound) (.inl hc) (.inl hc')]

/-- A seat is found by its input socket. -/
theorem slotForInputConnection (h : Seats r) (hslot : slot ∈ r.players)
    (hc : slot.inputConnectionId = some c) : r.slotForInputConnection c = some slot := by
  cases hfound : r.slotForInputConnection c with
  | none => exact absurd hc (by simpa using List.find?_eq_none.mp hfound slot hslot)
  | some slot' =>
    have hc' : slot'.inputConnectionId = some c := by simpa using List.find?_some hfound
    rw [h.eq_of_holds hslot (List.mem_of_find?_eq_some hfound) (.inr hc) (.inr hc')]

/-- **A new socket.** -/
theorem attach {test : PlayerSlot → Bool} (h : Seats r) (hfresh : ∀ slot ∈ r.players, ¬Holds slot c)
    (hedit : ∀ slot, r.players.find? test = some slot → Attaches c slot (edit slot)) :
    Seats (r.updateSlot test edit) where
  indices := by
    have hmap : List.Forall₂ (fun slot slot' : PlayerSlot => slot'.playerIndex = slot.playerIndex)
        r.players (updateFirst test edit r.players) :=
      forall₂_updateFirst (fun _ => rfl) fun slot hslot => (hedit slot hslot).playerIndex
    rw [updateSlot_players, map_eq_of_forall₂ hmap, h.indices]
  capacity := h.capacity
  seated := by
    have hmap :
        List.Forall₂ (fun slot slot' => WellSeated slot → slot ∈ r.players → WellSeated slot')
        r.players (updateFirst test edit r.players) := by
      refine forall₂_updateFirst (fun _ hs _ => hs) fun slot hslot hs hmem => ?_
      exact (hedit slot hslot).seated (hfresh slot hmem) hs
    intro slot' hslot'
    obtain ⟨slot, hslot, hs⟩ := forall₂_mem hmap hslot'
    exact hs (h.seated slot hslot) hslot
  apart := by
    refine pairwise_updateFirst Apart.symm ?_ h.apart
    intro slot other hslot hother hapart c' hc' hc''
    rcases (hedit slot hslot).sockets c' hc' with rfl | hold
    · exact hfresh other hother hc''
    · exact hapart c' hold hc''

end Seats

/-! ## What never changes -/

/-- The protocol version, the capacity and the session's terms are fixed at creation; only the
input delay is negotiated later. -/
structure SameTerms (r r' : NetplayRoom) : Prop where
  protocolVersion : r'.protocolVersion = r.protocolVersion
  maxPlayers : r'.maxPlayers = r.maxPlayers
  session : ∃ delay, r'.session = { r.session with controller := ⟨delay⟩ }

namespace SameTerms

theorem of_eq (hversion : r'.protocolVersion = r.protocolVersion)
    (hcapacity : r'.maxPlayers = r.maxPlayers) (hsession : r'.session = r.session) :
    SameTerms r r' :=
  ⟨hversion, hcapacity, r.session.controller.inputDelayFrames, hsession⟩

theorem of_core {core : SessionCore} (h : sessionCore r' = core)
    (hversion : core.protocolVersion = r.protocolVersion)
    (hcapacity : core.maxPlayers = r.maxPlayers) (hsession : core.session = r.session) :
    SameTerms r r' := by
  refine of_eq ?_ ?_ ?_
  · exact (congrArg (·.protocolVersion) h).trans hversion
  · exact (congrArg (·.maxPlayers) h).trans hcapacity
  · exact (congrArg (·.session) h).trans hsession

theorem of_same (h : SameSession r r') : SameTerms r r' :=
  of_eq h.protocolVersion h.maxPlayers h.session

/-- Bookkeeping first, then something that leaves the terms alone. -/
theorem same (h : SameSession r r') (hversion : r''.protocolVersion = r'.protocolVersion)
    (hcapacity : r''.maxPlayers = r'.maxPlayers) (hsession : r''.session = r'.session) :
    SameTerms r r'' :=
  of_eq (hversion.trans h.protocolVersion) (hcapacity.trans h.maxPlayers)
    (hsession.trans h.session)

theorem trans (h : SameTerms r r') (h' : SameTerms r' r'') : SameTerms r r'' := by
  obtain ⟨_, hsession⟩ := h.session
  obtain ⟨delay, hsession'⟩ := h'.session
  refine ⟨h'.protocolVersion.trans h.protocolVersion, h'.maxPlayers.trans h.maxPlayers, delay, ?_⟩
  rw [hsession', hsession]

theorem mode (h : SameTerms r r') : r'.session.mode = r.session.mode := by
  obtain ⟨_, hsession⟩ := h.session
  rw [hsession]

theorem usesStrictControllerInput (h : SameTerms r r') :
    r'.usesStrictControllerInput = r.usesStrictControllerInput := by
  rw [NetplayRoom.usesStrictControllerInput, NetplayRoom.usesStrictControllerInput,
    h.protocolVersion, h.mode]

end SameTerms

/-- A delay was negotiated in a room on the terms of `r`. -/
theorem Negotiated.terms (h : Negotiated r' r'') (hsame : SameTerms r r') : SameTerms r r'' := by
  refine hsame.trans ⟨?_, ?_, ?_⟩
  · exact h.read SessionCore.protocolVersion fun _ _ => rfl
  · exact h.read SessionCore.maxPlayers fun _ _ => rfl
  · obtain ⟨delay, hcore⟩ := h.core
    exact ⟨delay, congrArg (·.session) hcore⟩

theorem controlLoss_terms (h : ControlLoss r c now grace r') : SameTerms r r' := by
  cases h with
  | unknown _ h => exact .of_same h
  | handoffKept => refine .of_eq ?_ ?_ ?_ <;> simp
  | alsoLost hr₁ | recovery hr₁ | hostGone hr₁ | guestGone hr₁ =>
    refine .same hr₁ ?_ ?_ ?_ <;> simp [detachControl, markSlotReconnecting]

/-- **The terms of a room never change.** -/
theorem effect_terms (h : Effect relay r op r') : SameTerms r r' := by
  cases h with
  | bookkeeping h => exact .of_same h
  | controlLost h => exact controlLoss_terms h
  | inputAndControlLost _ _ _ h =>
    refine SameTerms.trans (.of_eq ?_ ?_ ?_) (controlLoss_terms h) <;> simp
  | handoffsLapsed hcleared => exact .of_core hcleared.core rfl rfl rfl
  | heartbeatsStopped hr₁ hdropped =>
    exact (SameTerms.of_same hr₁).trans (.of_core hdropped.core rfl rfl rfl)
  | becameReady _ h =>
    obtain ⟨_, hcore⟩ := h.core
    exact .of_core hcore rfl rfl rfl
  | @startedNow _ _ _ _ r₁ _ hr₁ =>
    have hcounted : SameTerms r r₁ := hr₁.terms (.of_eq rfl rfl rfl)
    refine hcounted.trans (.of_eq ?_ ?_ ?_) <;> simp
  | @startFixedBySample _ _ _ _ _ _ r₁ hr₁ | @startFixedByVote _ _ _ _ _ r₁ hr₁ =>
    have hcounted : SameTerms r r₁ := hr₁.terms (.of_eq rfl rfl rfl)
    exact hcounted.trans (.of_eq rfl rfl rfl)
  | resynced hr₁ | recoveryPrepared hr₁ | recoveryLimited hr₁ =>
    refine .same hr₁ ?_ ?_ ?_ <;> simp
  | restartedByLast | restarted =>
    refine .of_eq ?_ ?_ ?_ <;> simp [restartSession, beginV5PauseResume, scheduleV5Resume]
  | legacyInput h => exact .of_core h.core rfl rfl rfl
  | legacyTick _ h =>
    refine ⟨congrArg (·.protocolVersion) h.core, congrArg (·.maxPlayers) h.core,
      r'.session.controller.inputDelayFrames, ?_⟩
    exact congrArg (·.session) h.core
  | _ =>
    refine .of_eq ?_ ?_ ?_ <;> simp [resetSyncForCheckingCompatibility,
      NetplayRoom.setPlayerStatus, withClockSample, withVote, NetplayRoom.recordNetworkReport]

/-! ## What a call does to the seats -/

/-- The socket a call attaches. -/
def attaches : RoomOp → Option ConnectionId
  | .joinGuest _ c _ _ _ _ => some c
  | .connectHost _ c _ _ _ _ => some c
  | .reconnectPlayer request => some request.connectionId
  | .connectInputSocket _ _ _ _ c _ => some c
  | _ => none

/-- The calls after which a player may be without a socket it had. -/
def leaves : RoomOp → Bool
  | .disconnect .. | .disconnectInputSocket .. | .playerExited .. | .sweep _ => true
  | _ => false

theorem snapshotOf_stays {manifest : SnapshotManifest} (h : snapshotOf op = some manifest) :
    leaves op = false := by
  cases op <;> first | rfl | exact absurd h (by simp [snapshotOf])

theorem PauseNoted.stays {pause pause' : SessionPauseStateTracker}
    (h : PauseNoted r op pause pause') : leaves op = false := by
  cases h <;> rfl

inductive SeatChange (r : NetplayRoom) (op : RoomOp) (r' : NetplayRoom) : Prop
  | kept (h : List.Forall₂ Keeps r.players r'.players)
  | attached {c : ConnectionId} {test : PlayerSlot → Bool} {edit : PlayerSlot → PlayerSlot}
      (hnew : attaches op = some c)
      (hedit : ∀ slot, r.players.find? test = some slot → Attaches c slot (edit slot))
      (hrest : List.Forall₂ Keeps (r.updateSlot test edit).players r'.players)
  | yielded (hleaves : leaves op) (h : List.Forall₂ Yields r.players r'.players)
  | dropped (hleaves : leaves op) (hstatus : r'.status = .recovering)
      (h : List.Forall₂ Narrows r.players r'.players)

theorem updateConnected_keeps (h : ∀ slot, Keeps slot (edit slot)) :
    List.Forall₂ Keeps r.players (r.updateConnected edit).players :=
  forall₂_updateWhere Keeps.refl fun slot _ _ => h slot

theorem updateOccupied_keeps (h : ∀ slot, Keeps slot (edit slot)) :
    List.Forall₂ Keeps r.players (r.updateOccupied edit).players :=
  forall₂_updateWhere Keeps.refl fun slot _ _ => h slot

theorem keeps_refl (ps : List PlayerSlot) : List.Forall₂ Keeps ps ps :=
  List.forall₂_same.mpr fun slot _ => Keeps.refl slot

theorem keeps_trans {ps ps' ps'' : List PlayerSlot} (h : List.Forall₂ Keeps ps ps')
    (h' : List.Forall₂ Keeps ps' ps'') : List.Forall₂ Keeps ps ps'' :=
  forall₂_trans Keeps.trans h h'

theorem restoreChecking_keeps (r : NetplayRoom) :
    List.Forall₂ Keeps r.players r.restoreCheckingCompatibilityAfterRecovery.players :=
  keeps_trans (resetSyncStateTo_keeps r 0) (forall₂_updateWhere Keeps.refl fun slot _ hslot => by
    rw [Bool.and_eq_true] at hslot
    exact .of_connected rfl (Option.isSome_iff_ne_none.mp hslot.2) fun _ => rfl)

/-- A slot without its input socket. -/
def forgetInput (now : Instant) (slot : PlayerSlot) : PlayerSlot :=
  { slot with
    inputConnectionId := none
    inputSocketTokenHash := none
    inputSocketControlConnectionId := none
    lastSeenAt := some now }

/-- The seat is edited under its number, which the edit keeps. -/
theorem detachInputSocket_players_eq {c : ConnectionId} {now : Instant} (h : Seats r)
    (hslot : r.slotForInputConnection c = some slot) :
    (r.detachInputSocket c slot.playerIndex now).players
      = updateFirst (·.playerIndex = slot.playerIndex) (forgetInput now) r.players :=
  updateFirst_congr hslot (h.slotForPlayer (List.mem_of_find?_eq_some hslot))

theorem detachInputSocket_yields (r : NetplayRoom) (c : ConnectionId) (p : PlayerIndex)
    (now : Instant) : List.Forall₂ Yields r.players (r.detachInputSocket c p now).players :=
  forall₂_updateFirst (fun _ => (Keeps.refl _).yields)
    fun _ _ => yields_of_inputGone rfl rfl rfl rfl (.inr rfl)

theorem Seats.detachInputSocket (h : Seats r) (p : PlayerIndex) :
    Seats (r.detachInputSocket c p now) :=
  h.narrow ((detachInputSocket_yields r c p now).imp fun _ _ hs => hs.toNarrows) rfl

theorem slotForConnection_detachInputSocket {control : ConnectionId} (h : Seats r)
    (hslot : r.slotForInputConnection c = some slot) (hcontrol : slot.connectionId = some control) :
    (r.detachInputSocket c slot.playerIndex now).slotForConnection control
      = some (forgetInput now slot) := by
  refine (h.detachInputSocket _).slotForConnection ?_ hcontrol
  rw [detachInputSocket_players_eq h hslot]
  exact List.mem_of_find?_eq_some
    (find?_updateFirst (h.slotForPlayer (List.mem_of_find?_eq_some hslot)) (by simp [forgetInput]))

/-- The seat under a number and the seat a socket belongs to are edited alike. -/
theorem updateFirst_connection (h : Seats r) (hslot : r.slotForConnection c = some slot) :
    updateFirst (·.connectionId = some c) edit r.players
      = updateFirst (·.playerIndex = slot.playerIndex) edit r.players :=
  updateFirst_congr hslot (h.slotForPlayer (List.mem_of_find?_eq_some hslot))

/-- Who loses its control socket in a running session is waited for. -/
theorem detachControl_markSlotReconnecting_players {epoch : Nat} (h : Seats r)
    (hslot : r.slotForConnection c = some slot) :
    ((detachControl r c slot.playerIndex now).markSlotReconnecting slot.playerIndex now grace
        epoch).players
      = updateFirst (·.playerIndex = slot.playerIndex)
          (fun slot => (slot.dropTransport now).markReconnecting now grace epoch) r.players := by
  simp only [detachControl, markSlotReconnecting, updateSlot_players, removePlayerSync_players]
  rw [updateFirst_connection h hslot]
  exact updateFirst_updateFirst fun _ => rfl

/-- Who loses its control socket otherwise gives the seat up. -/
theorem detachControl_clearDisconnected_players {isHost : Bool} (h : Seats r)
    (hslot : r.slotForConnection c = some slot) :
    ((detachControl r c slot.playerIndex now).updateSlot (·.playerIndex = slot.playerIndex)
        (·.clearDisconnected isHost)).players
      = updateFirst (·.playerIndex = slot.playerIndex)
          (fun slot => (slot.dropTransport now).clearDisconnected isHost) r.players := by
  simp only [detachControl, updateSlot_players, removePlayerSync_players]
  rw [updateFirst_connection h hslot]
  exact updateFirst_updateFirst fun _ => rfl

theorem controlLoss_seats (hseats : Seats r) (hleaves : leaves op)
    (h : ControlLoss r c now grace r') : SeatChange r op r' := by
  -- the dropped socket, the deadline and what follows
  have hmark : ∀ {r₁ : NetplayRoom} {slot} (epoch), SameSession r r₁ →
      r₁.slotForConnection c = some slot → List.Forall₂ Narrows r.players
        ((detachControl r₁ c slot.playerIndex now).markSlotReconnecting slot.playerIndex now grace
          epoch).players := by
    intro r₁ slot epoch hr₁ hslot
    rw [detachControl_markSlotReconnecting_players (hseats.keep hr₁.players hr₁.maxPlayers) hslot]
    refine forall₂_trans Narrows.trans (hr₁.players.imp fun _ _ hs => hs.yields.toNarrows) ?_
    exact forall₂_updateFirst (fun _ => (Keeps.refl _).yields.toNarrows)
      fun _ _ => narrows_of_empty rfl rfl rfl rfl
  have hdetach : ∀ {r₁ : NetplayRoom} (p), SameSession r r₁ →
      List.Forall₂ Yields r.players (detachControl r₁ c p now).players := by
    intro r₁ p hr₁
    refine forall₂_trans Yields.trans (hr₁.players.imp fun _ _ hs => hs.yields) ?_
    exact forall₂_updateFirst (fun _ => (Keeps.refl _).yields)
      fun _ _ => ⟨narrows_of_empty rfl rfl rfl rfl, id⟩
  cases h with
  | unknown _ h => exact .kept h.players
  | handoffKept =>
    refine .yielded hleaves (forall₂_trans Yields.trans ?_
      ((resetSyncStateTo_keeps _ 0).imp fun _ _ hs => hs.yields))
    refine forall₂_updateFirst (fun _ => (Keeps.refl _).yields) fun _ _ => ⟨?_, ?_⟩
    · exact narrows_of_empty rfl rfl rfl rfl
    · exact fun hd => absurd hd (by simp [PlayerSlot.preserveHandoff])
  | alsoLost hr₁ _ _ hslot hstatus =>
    exact .dropped hleaves (hr₁.status.trans hstatus) (hmark _ hr₁ hslot)
  | @recovery _ _ _ epoch hr₁ _ _ hslot =>
    refine .dropped hleaves rfl (forall₂_trans Narrows.trans (hmark epoch hr₁ hslot) ?_)
    exact (enterRecoveryState_keeps _ _).imp fun _ _ hs => hs.yields.toNarrows
  | @hostGone _ _ slot hr₁ | @guestGone _ _ slot hr₁ =>
    refine .yielded hleaves (forall₂_trans Yields.trans (hdetach slot.playerIndex hr₁) ?_)
    exact (SeatsCleared.clearDisconnectedSlot _ _ _).players.imp fun _ _ hs => hs.yields

theorem effect_seats (hseats : Seats r) (h : Effect relay r op r') : SeatChange r op r' := by
  cases h with
  | bookkeeping h | becameReady _ h | legacyTick _ h => exact .kept h.players
  | joined =>
    refine .attached rfl ?_ (restoreChecking_keeps _)
    intro slot _
    exact attaches_control rfl (fun h => absurd h (by simp [PlayerSlot.occupyGuest])) rfl rfl rfl
  | hostAttached | handoffReconnected =>
    refine .attached rfl ?_ (keeps_refl _)
    exact fun slot _ => attaches_control rfl id rfl rfl rfl
  | reconnected =>
    refine .attached rfl ?_ (restoreChecking_keeps _)
    exact fun slot _ => attaches_control rfl id rfl rfl rfl
  | @inputAttached _ _ _ _ c _ slot₀ hslot₀ hcontrol =>
    refine .attached rfl ?_ (keeps_refl _)
    intro slot hslot
    obtain rfl := Option.some.inj (hslot₀.symm.trans hslot)
    refine ⟨rfl, id, fun c' hc' => ?_, fun hnew hs => ⟨hs.host, fun _ => hcontrol, ?_, hs.lost⟩, id⟩
    · rcases hc' with h | h
      · exact .inr (.inl h)
      · exact .inl (Option.some.inj h).symm
    · intro c' hc' hsame
      exact hnew (.inl (Option.some.inj hsame ▸ hc'))
  | exited =>
    refine .yielded rfl (forall₂_trans Yields.trans
      ((resetSyncStateTo_keeps { r with status := .closed } 0).imp fun _ _ hs => hs.yields) ?_)
    refine forall₂_updateWhere (fun _ => (Keeps.refl _).yields) fun _ _ _ => ⟨?_, ?_⟩
    · exact narrows_of_empty rfl rfl rfl rfl
    · exact fun hd => absurd hd (by simp [PlayerSlot.exit])
  | controlLost h => exact controlLoss_seats hseats rfl h
  | inputLost => exact .yielded rfl (detachInputSocket_yields _ _ _ _)
  | @inputAndControlLost c control now slot _ _ _ _ h =>
    have hinput := detachInputSocket_yields r c slot.playerIndex now
    have hloss : SeatChange _ (.disconnect control now) r' :=
      controlLoss_seats (hseats.detachInputSocket _) rfl h
    cases hloss with
    | kept h =>
      exact .yielded rfl (forall₂_trans Yields.trans hinput (h.imp fun _ _ hs => hs.yields))
    | attached hnew => exact absurd hnew (by simp [attaches])
    | yielded _ h => exact .yielded rfl (forall₂_trans Yields.trans hinput h)
    | dropped _ hstatus h =>
      exact .dropped rfl hstatus (forall₂_trans Narrows.trans
        (hinput.imp fun _ _ hs => hs.toNarrows) h)
  | pinTimedOut => exact .kept (updateOccupied_keeps fun _ => .enter (by simp))
  | handoffsLapsed hcleared => exact .yielded rfl (hcleared.players.imp fun _ _ hs => hs.yields)
  | heartbeatsStopped hr₁ hdropped =>
    refine .dropped rfl (congrArg (·.status) hdropped.core) ?_
    exact forall₂_trans Narrows.trans (hr₁.players.imp fun _ _ hs => hs.yields.toNarrows)
      (hdropped.players.imp fun _ _ hs => hs.narrows)
  | fingerprintRejected | fingerprintStored | linkRejected | linkStored =>
    exact .kept (setPlayerStatus_keeps r (by simp))
  | fingerprintsDiffer | linksDiffer =>
    exact .kept (keeps_trans (setPlayerStatus_keeps r (by simp))
      (updateOccupied_keeps fun _ => .enter (by simp)))
  | fingerprintsAgree | linksAgree =>
    exact .kept (keeps_trans (setPlayerStatus_keeps r (by simp))
      (updateConnected_keeps fun _ => .enter (by simp)))
  | startedNow _ hr₁ | recoveryPrepared hr₁ =>
    exact .kept (keeps_trans hr₁.players (updateConnected_keeps fun _ => .enter (by simp)))
  | startFixedBySample hr₁ | startFixedByVote hr₁ => exact .kept hr₁.players
  | voteCounted => exact .kept (withVote_counts _ _ _ _).players
  | snapshotCompleted | sampleStored | pauseOpened | pauseNoted | inputAccepted | openHeld
  | frameReleased => exact .kept (keeps_refl _)
  | paused | pauseEndedByLast | pauseEnded | restartedByLast | restarted
  | openedByHost | openedByTimer => exact .kept (updateConnected_keeps fun _ => .enter (by simp))
  | legacyInput h =>
    refine .kept ?_
    rw [h.players]
    exact keeps_refl _
  | @resynced _ _ report _ _ hr₁ =>
    exact .kept (keeps_trans (keeps_trans hr₁.players (resetSyncStateTo_keeps _ report.frame))
      (updateConnected_keeps fun _ => .enter (by simp)))
  | recoveryLimited hr₁ =>
    exact .kept (keeps_trans hr₁.players (updateOccupied_keeps fun _ => .enter (by simp)))
  | @pinned _ _ _ _ transaction =>
    exact .kept (keeps_trans (resetSyncStateTo_keeps _ transaction.repairFrame)
      (updateConnected_keeps fun _ => .enter (by simp)))

/-- Every seat has its control socket. -/
def Full (r : NetplayRoom) : Prop := ∀ slot ∈ r.players, slot.isConnected

theorem Full.keep (h : Full r) (hplayers : List.Forall₂ Keeps r.players r'.players) : Full r' := by
  intro slot' hslot'
  obtain ⟨slot, hslot, hs⟩ := forall₂_mem hplayers hslot'
  rw [PlayerSlot.isConnected, hs.connectionId]
  exact h slot hslot

/-- A full room stays full until somebody leaves. -/
theorem SeatChange.full (h : SeatChange r op r') (hstay : leaves op = false) (hfull : Full r) :
    Full r' := by
  cases h with
  | kept h => exact hfull.keep h
  | @attached _ test edit _ hedit hrest =>
    refine Full.keep ?_ hrest
    have hmap : List.Forall₂ (fun slot slot' : PlayerSlot => slot.isConnected → slot'.isConnected)
        r.players (updateFirst test edit r.players) :=
      forall₂_updateFirst (fun _ => id) fun slot hslot => (hedit slot hslot).connected
    intro slot' hslot'
    obtain ⟨slot, hslot, hs⟩ := forall₂_mem hmap hslot'
    exact hs (hfull slot hslot)
  | yielded hleaves | dropped hleaves => exact absurd (hstay.symm.trans hleaves) (by simp)

/-- In a full room both players are connected. -/
theorem Full.connectedPlayerIndices (hfull : Full r) (h : Seats r) :
    r.connectedPlayerIndices = [.one, .two] := by
  rw [NetplayRoom.connectedPlayerIndices, List.filter_eq_self.mpr hfull, h.indices]

theorem full_of_connected (h : Seats r) (hall : r.connectedPlayerIndices.length = r.maxPlayers) :
    Full r := by
  have htwo : r.players.length = 2 := by simpa using congrArg List.length h.indices
  rw [NetplayRoom.connectedPlayerIndices, List.length_map, h.capacity] at hall
  have hfilter : r.players.filter (·.isConnected) = r.players :=
    List.filter_sublist.eq_of_length (by omega)
  exact List.filter_eq_self.mp hfilter

/-! ## Every reachable room -/

theorem fresh_of_admissible (h : Admissible r op) (hnew : attaches op = some c) :
    ∀ slot ∈ r.players, ¬Holds slot c := by
  have hknown : knowsSocket r c = false := by
    cases op <;> simp_all [attaches, Admissible]
  intro slot hslot hholds
  have := List.any_eq_false.mp hknown slot hslot
  simp only [Bool.or_eq_true, decide_eq_true_eq] at this
  exact this hholds

theorem seats_step (h : Seats r) (hadmissible : Admissible r op) : Seats (applyOp relay r op) := by
  have heffect := applyOp_effect relay r op
  have hcapacity := (effect_terms heffect).maxPlayers
  cases effect_seats h heffect with
  | kept hplayers => exact h.keep hplayers hcapacity
  | attached hnew hedit hrest =>
    exact (h.attach (fresh_of_admissible hadmissible hnew) hedit).keep hrest hcapacity
  | yielded _ hplayers => exact h.narrow (hplayers.imp fun _ _ hs => hs.toNarrows) hcapacity
  | dropped _ _ hplayers => exact h.narrow hplayers hcapacity

/-- **In every reachable room everybody sits where they should.** -/
theorem seats_reachable {s : StoredRoom} (h : Reachable relay s) : Seats s.room := by
  refine reachable_inv Seats ?_ (fun _ _ _ hr hadmissible => seats_step hr hadmissible) h
  intro roomId key c session version resume input now voice
  have hnew : Seats (newWithProtocolAndResume roomId key c session version resume input
      now) := by
    refine ⟨rfl, rfl, ?_, ?_⟩
    · intro slot hslot
      simp only [newWithProtocolAndResume, List.mem_cons, List.not_mem_nil, or_false] at hslot
      rcases hslot with rfl | rfl
      · exact ⟨fun _ => rfl, by simp [PlayerSlot.host, PlayerSlot.empty],
          by simp [PlayerSlot.host, PlayerSlot.empty], by simp [PlayerSlot.host, PlayerSlot.empty]⟩
      · exact ⟨by simp [PlayerSlot.empty], by simp [PlayerSlot.empty], by simp [PlayerSlot.empty],
          by simp [PlayerSlot.empty]⟩
    · refine List.pairwise_pair.mpr fun c' _ hc' => ?_
      simp [Holds, PlayerSlot.empty] at hc'
  cases voice with
  | none => exact hnew
  | some voice => exact hnew.keep (keeps_refl _) rfl

/-! ## Version 5 rooms -/

/-- A version 5 room that some history leads to. -/
def StrictReachable (relay : Relay) (s : StoredRoom) : Prop :=
  Reachable relay s ∧ s.room.usesStrictControllerInput

theorem strictReachable_step {s t : StoredRoom} (h : StrictReachable relay s)
    (hadmissible : Admissible s.room op) (hstep : s.step relay op = some t) :
    StrictReachable relay t := by
  refine ⟨reachable_step h.1 hadmissible hstep, ?_⟩
  rw [step_room hstep, (effect_terms (applyOp_effect relay s.room op)).usesStrictControllerInput]
  exact h.2

end NetplayRelay.Proof
