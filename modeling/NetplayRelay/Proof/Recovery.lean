import NetplayRelay.Proof.Seats

/-!
# Bounded recovery

A player who is lost in a running session is waited for: everything negotiated is forgotten, both
epochs move on and the seat gets a deadline. `recoveryFor` is the room this leads to. The loss of a
control socket leads there unless a runner handoff is still armed on the seat, and the loss of an
input socket does the same thing in every running status but one: a room that is repairing its
state only forgets the input socket.
-/

namespace NetplayRelay.Proof

open Lib Protocol Rooms Registry NetplayRoom

/-- The player of `slot` is waited for until `now + grace`. -/
def recoveryFor (r : NetplayRoom) (slot : PlayerSlot) (now : Instant) (grace : Duration) :
    NetplayRoom :=
  let epoch := slot.reconnectRoomEpoch.getD r.roomEpoch
  (r.updateSlot (·.playerIndex = slot.playerIndex)
    fun slot => (slot.dropTransport now).markReconnecting now grace epoch).enterRecoveryState epoch

/-- Recovery has started for player `p`. -/
structure RecoveryStarted (r : NetplayRoom) (p : PlayerIndex) (deadline : Instant)
    (r' : NetplayRoom) : Prop where
  status : r'.status = .recovering
  roomEpoch : r'.roomEpoch = r.roomEpoch + 1
  sessionEpoch : r'.sessionEpoch = r.sessionEpoch + 1
  /-- Nothing is left that a reset would clear. -/
  cleared : r'.resetSyncState = r'
  deadline : (r'.slotForPlayer p).bind (·.reconnectDeadline) = some deadline

/-- A session is running, or being repaired. -/
def isRunning (status : RoomStatus) : Prop :=
  status = .startScheduled ∨ status = .playing ∨ status = .paused ∨ status = .repairingState

variable {relay : Relay} {r : NetplayRoom} {slot : PlayerSlot} {c control : ConnectionId}
  {now : Instant} {grace : Duration}

/-! ## What a reset leaves -/

/-- What a reset of the synchronisation data leaves, apart from the seats. -/
def remainder (r : NetplayRoom) : NetplayRoom := { r with players := [] }.resetSyncState

@[simp]
theorem remainder_updateSlot (test : PlayerSlot → Bool) (edit : PlayerSlot → PlayerSlot) :
    remainder (r.updateSlot test edit) = remainder r := rfl

@[simp]
theorem remainder_removePlayerSync (p : PlayerIndex) :
    remainder (r.removePlayerSync p) = remainder r := rfl

@[simp]
theorem remainder_detachInputSocket (p : PlayerIndex) :
    remainder (r.detachInputSocket c p now) = remainder r := rfl

theorem resetSyncState_eq_remainder (r : NetplayRoom) :
    r.resetSyncState = { remainder r with
      players := if (remainder r).usesStrictControllerInput then r.players.map (·.clearReports)
        else r.players } := rfl

/-- Recovery only looks at what a reset leaves. -/
theorem enterRecoveryState_congr {r₁ r₂ : NetplayRoom} {epoch : Nat}
    (hplayers : r₁.players = r₂.players) (hrest : remainder r₁ = remainder r₂) :
    r₁.enterRecoveryState epoch = r₂.enterRecoveryState epoch := by
  rw [enterRecoveryState, enterRecoveryState,
    resetSyncState_eq_remainder r₁, resetSyncState_eq_remainder r₂, hplayers, hrest]

/-! ## Losing a control socket -/

theorem detachControl_enterRecoveryState {r₁ : NetplayRoom} {epoch : Nat} (hr₁ : Seats r₁)
    (hslot : r₁.slotForConnection c = some slot) :
    ((detachControl r₁ c slot.playerIndex now).markSlotReconnecting slot.playerIndex now grace
        epoch).enterRecoveryState epoch
      = (r₁.updateSlot (·.playerIndex = slot.playerIndex) fun slot =>
          (slot.dropTransport now).markReconnecting now grace epoch).enterRecoveryState epoch := by
  apply enterRecoveryState_congr
  · rw [detachControl_markSlotReconnecting_players hr₁ hslot]
    rfl
  · simp [detachControl, markSlotReconnecting]

/-- **Without a handoff the loss of a control socket leads to recovery.** -/
theorem disconnectWithRecovery_recoveryFor (hseats : Seats r)
    (hslot : r.slotForConnection c = some slot) (hunarmed : handoffArmed slot now = false)
    (hrunning : r.status.isRecoverable) (hfirst : r.status ≠ .recovering) :
    (r.disconnectWithRecovery c now grace).2 = recoveryFor r slot now grace := by
  cases hdeadline : slot.runnerHandoffDeadline with
  | none =>
    have hkept : r.preserveRunnerHandoffDisconnect c now = (.ok false, r) := by
      simp only [preserveRunnerHandoffDisconnect, hslot, hdeadline]
    simp only [disconnectWithRecovery, hkept, hslot, hrunning, hfirst, if_true, if_false]
    exact detachControl_enterRecoveryState hseats hslot
  | some deadline =>
    -- an expired marker is dropped first
    have hnow : now ≥ deadline := by simpa [handoffArmed, hdeadline] using hunarmed
    let unmark := fun slot : PlayerSlot => { slot with runnerHandoffDeadline := none }
    have hkept : r.preserveRunnerHandoffDisconnect c now
        = (.ok false, r.updateSlot (·.connectionId = some c) unmark) := by
      simp only [preserveRunnerHandoffDisconnect, hslot, hdeadline, if_pos hnow]
      rfl
    have hseats' : Seats (r.updateSlot (·.connectionId = some c) unmark) :=
      hseats.narrow (forall₂_updateFirst (fun _ => (Keeps.refl _).yields.toNarrows) fun _ _ =>
        ⟨rfl, rfl, id, fun hs => ⟨hs.host, hs.input, hs.twoSockets, hs.lost⟩⟩) rfl
    have hslot' : (r.updateSlot (·.connectionId = some c) unmark).slotForConnection c
        = some (unmark slot) := by
      refine find?_updateFirst hslot ?_
      simpa [unmark] using List.find?_some hslot
    simp only [disconnectWithRecovery, hkept, hslot', updateSlot_status,
      hrunning, hfirst, if_true, if_false]
    refine (detachControl_enterRecoveryState hseats' hslot').trans
      (enterRecoveryState_congr ?_ rfl)
    simp only [updateSlot_players]
    rw [updateFirst_connection hseats hslot]
    exact updateFirst_updateFirst fun _ => rfl

/-- Starting recovery leaves nothing to clear. -/
theorem enterRecoveryState_cleared (epoch : Nat) :
    (r.enterRecoveryState epoch).resetSyncState = r.enterRecoveryState epoch := by
  have hslot : ∀ slot : PlayerSlot,
      (if slot.clearReports.isConnected then slot.clearReports.awaitRecovery epoch
        else slot.clearReports).clearReports
      = if slot.clearReports.isConnected then slot.clearReports.awaitRecovery epoch
        else slot.clearReports := by
    intro slot
    split <;> rfl
  have hplayers : (r.enterRecoveryState epoch).resetSyncState.players
      = (r.enterRecoveryState epoch).players := by
    rw [resetSyncStateTo_players]
    split
    · rename_i hstrict
      have hstrict' : r.usesStrictControllerInput := hstrict
      simp only [enterRecoveryState_players, resetSyncStateTo_players,
        hstrict', if_true, updateWhere, List.map_map]
      exact List.map_congr_left fun slot _ => hslot slot
    · rfl
  rw [resetSyncState_eq_remainder] at hplayers ⊢
  simp only at hplayers
  rw [hplayers]
  rfl

theorem recoveryFor_started (hseats : Seats r) (hslot : slot ∈ r.players)
    (hroom : r.roomEpoch < u64Max) (hsession : r.sessionEpoch < u64Max) :
    RecoveryStarted r slot.playerIndex (now + grace) (recoveryFor r slot now grace) where
  status := rfl
  roomEpoch := satAdd_eq_add (Nat.succ_le_of_lt hroom)
  sessionEpoch := satAdd_eq_add (Nat.succ_le_of_lt hsession)
  cleared := enterRecoveryState_cleared _
  deadline := by
    let marked := r.updateSlot (·.playerIndex = slot.playerIndex) fun slot' =>
      (slot'.dropTransport now).markReconnecting now grace
        (slot.reconnectRoomEpoch.getD r.roomEpoch)
    have hfound :
        marked.slotForPlayer slot.playerIndex = some ((slot.dropTransport now).markReconnecting
        now grace (slot.reconnectRoomEpoch.getD r.roomEpoch)) :=
      find?_updateFirst (hseats.slotForPlayer hslot) (by simp [PlayerSlot.dropTransport,
        PlayerSlot.markReconnecting])
    have hkeeps : ((recoveryFor r slot now grace).slotForPlayer slot.playerIndex).map seat
        = (marked.slotForPlayer slot.playerIndex).map seat :=
      find?_keeps (enterRecoveryState_keeps marked _) fun _ _ hs => by rw [hs.playerIndex]
    rw [hfound] at hkeeps
    obtain ⟨slot', hslot', hseat⟩ := Option.map_eq_some_iff.mp hkeeps
    rw [hslot']
    exact congrArg Seat.reconnectDeadline hseat

/-! ## Losing an input socket -/

/-- **The loss of an input socket leads to the same room**, where the status lets it. -/
theorem disconnectInputSocket_recoveryFor (hseats : Seats r)
    (hslot : r.slotForInputConnection c = some slot) (hcontrol : slot.connectionId = some control)
    (hunarmed : handoffArmed slot now = false) (hrunning : r.status.inputLossIsRecoverable)
    (hfirst : r.status ≠ .recovering) :
    (r.disconnectInputSocket c now grace).2 = recoveryFor r slot now grace := by
  let forgotten := r.detachInputSocket c slot.playerIndex now
  have hrecoverable : r.status.isRecoverable := by
    cases hstatus : r.status <;> simp_all [RoomStatus.inputLossIsRecoverable,
      RoomStatus.isRecoverable]
  have hloss : (forgotten.disconnectWithRecovery control now grace).2
      = recoveryFor forgotten (forgetInput now slot) now grace :=
    disconnectWithRecovery_recoveryFor (hseats.detachInputSocket _)
      (slotForConnection_detachInputSocket hseats hslot hcontrol) hunarmed hrecoverable hfirst
  rw [disconnectInputSocket_running hslot hcontrol hrunning, hloss]
  refine enterRecoveryState_congr ?_ (by simp [forgotten])
  simp only [updateSlot_players, forgotten, detachInputSocket_players_eq hseats hslot]
  exact updateFirst_updateFirst fun _ => rfl

/-- While the room is being repaired the socket is forgotten, and that is all. -/
theorem disconnectInputSocket_repairing (hslot : r.slotForInputConnection c = some slot)
    (hrepairing : r.status = .repairingState) :
    (r.disconnectInputSocket c now grace).2 = r.detachInputSocket c slot.playerIndex now := by
  simp [disconnectInputSocket, hslot, hrepairing, RoomStatus.inputLossIsRecoverable]

/-! ## When recovery starts -/

theorem isRunning_recoverable {status : RoomStatus} (h : isRunning status) :
    status.isRecoverable ∧ status ≠ .recovering := by
  rcases h with rfl | rfl | rfl | rfl <;> exact ⟨rfl, by simp⟩

theorem isRunning_inputLoss {status : RoomStatus} (h : isRunning status)
    (hrepairing : status ≠ .repairingState) : status.inputLossIsRecoverable := by
  rcases h with rfl | rfl | rfl | rfl
  · rfl
  · rfl
  · rfl
  · exact absurd rfl hrepairing

/-- **A running session goes into recovery when a control socket is lost, unless a runner handoff
is still armed on the seat.** Under an armed handoff the status stays what it was. -/
theorem disconnect_startsRecovery_iff {s : StoredRoom} (h : Reachable relay s)
    (hrunning : isRunning s.room.status) (hslot : s.room.slotForConnection c = some slot)
    (hroom : s.room.roomEpoch < u64Max) (hsession : s.room.sessionEpoch < u64Max) :
    RecoveryStarted s.room slot.playerIndex (now + grace)
        (s.room.disconnectWithRecovery c now grace).2
      ↔ handoffArmed slot now = false := by
  obtain ⟨hrecoverable, hfirst⟩ := isRunning_recoverable hrunning
  have hseats := seats_reachable h
  constructor
  · intro hstarted
    have hloss := disconnectWithRecovery_loss s.room c now grace
    generalize (s.room.disconnectWithRecovery c now grace).2 = r' at hstarted hloss
    cases hloss with
    | unknown hnone => exact absurd (hnone.symm.trans hslot) (by simp)
    | handoffKept => exact absurd hstarted.status hfirst
    | alsoLost _ hslot₀ hunarmed | recovery _ hslot₀ hunarmed | hostGone _ hslot₀ hunarmed
    | guestGone _ hslot₀ hunarmed =>
        obtain rfl := Option.some.inj (hslot₀.symm.trans hslot)
        exact hunarmed
  · intro hunarmed
    rw [disconnectWithRecovery_recoveryFor hseats hslot hunarmed hrecoverable hfirst]
    exact recoveryFor_started hseats (List.mem_of_find?_eq_some hslot) hroom hsession

/-- The guest of a playing room closes its control socket. -/
theorem disconnect_startsRecovery_playing :
    ∃ slot, playingRoom.room.slotForConnection guestSocket = some slot
      ∧ RecoveryStarted playingRoom.room slot.playerIndex (1 + secs 90)
          (playingRoom.room.disconnectWithRecovery guestSocket 1 (secs 90)).2 := by
  have hroom : playingRoom.room.status = .playing
      ∧ playingRoom.room.roomEpoch < u64Max ∧ playingRoom.room.sessionEpoch < u64Max
      ∧ (playingRoom.room.slotForConnection guestSocket).any
        fun slot => handoffArmed slot 1 = false := by decide +kernel
  obtain ⟨hplaying, hepoch, hsession, hguest⟩ := hroom
  obtain ⟨slot, hslot, hunarmed⟩ := (Option.any_eq_true _ _).mp hguest
  exact ⟨slot, hslot, (disconnect_startsRecovery_iff playingRoom_reachable
    (.inr (.inl hplaying)) hslot hepoch hsession).mpr (by simpa using hunarmed)⟩

/-- A handoff that the guest armed before the handshake outlives it: when the guest's control
socket closes, the room goes on playing without a guest and waits for nobody. -/
theorem disconnect_keepsPlaying_underHandoff :
    Reachable sampleRelay handoffRoom
      ∧ handoffRoom.room.status = .playing
      ∧ handoffRoom.room.roomEpoch < u64Max ∧ handoffRoom.room.sessionEpoch < u64Max
      ∧ handoffRoom.room.playerIndexForConnection guestSocket = some .two
      ∧ ¬RecoveryStarted handoffRoom.room .two (1 + secs 90)
          (handoffRoom.room.disconnectWithRecovery guestSocket 1 (secs 90)).2 := by
  have hroom : handoffRoom.room.status = .playing
      ∧ handoffRoom.room.roomEpoch < u64Max ∧ handoffRoom.room.sessionEpoch < u64Max
      ∧ handoffRoom.room.playerIndexForConnection guestSocket = some .two
      ∧ (handoffRoom.room.disconnectWithRecovery guestSocket 1 (secs 90)).2.status
        ≠ .recovering := by decide +kernel
  obtain ⟨hplaying, hepoch, hsession, hguest, hstays⟩ := hroom
  exact ⟨handoffRoom_reachable, hplaying, hepoch, hsession, hguest, fun h => hstays h.status⟩

/-- **Without a handoff the loss of an input socket is the loss of the control socket, unless the
room is repairing its state.** -/
theorem inputLoss_eq_controlLoss_iff {s : StoredRoom} (h : Reachable relay s)
    (hrunning : isRunning s.room.status) (hslot : s.room.slotForInputConnection c = some slot)
    (hunarmed : handoffArmed slot now = false) (hroom : s.room.roomEpoch < u64Max)
    (hsession : s.room.sessionEpoch < u64Max) :
    (∃ control, slot.connectionId = some control
        ∧ (s.room.disconnectInputSocket c now grace).2
          = (s.room.disconnectWithRecovery control now grace).2
        ∧ RecoveryStarted s.room slot.playerIndex (now + grace)
            (s.room.disconnectInputSocket c now grace).2)
      ↔ s.room.status ≠ .repairingState := by
  obtain ⟨hrecoverable, hfirst⟩ := isRunning_recoverable hrunning
  have hseats := seats_reachable h
  have hmem := List.mem_of_find?_eq_some hslot
  have hinput : slot.inputConnectionId = some c := by simpa using List.find?_some hslot
  obtain ⟨control, hcontrol⟩ := Option.isSome_iff_exists.mp
    ((hseats.seated slot hmem).input (by rw [hinput]; rfl))
  constructor
  · rintro ⟨_, _, _, hstarted⟩ hrepairing
    have hstatus := hstarted.status
    rw [disconnectInputSocket_repairing hslot hrepairing, detachInputSocket_status]
      at hstatus
    exact hfirst hstatus
  · intro hrepairing
    have hinputLoss := isRunning_inputLoss hrunning hrepairing
    have hleft : (s.room.disconnectInputSocket c now grace).2 = recoveryFor s.room slot now grace :=
      disconnectInputSocket_recoveryFor hseats hslot hcontrol hunarmed hinputLoss hfirst
    have hright : (s.room.disconnectWithRecovery control now grace).2
        = recoveryFor s.room slot now grace :=
      disconnectWithRecovery_recoveryFor hseats (hseats.slotForConnection hmem hcontrol) hunarmed
        hrecoverable hfirst
    refine ⟨control, hcontrol, hleft.trans hright.symm, ?_⟩
    rw [hleft]
    exact recoveryFor_started hseats hmem hroom hsession

/-- The guest of a playing room closes its input socket. -/
theorem inputLoss_eq_controlLoss_playing :
    ∃ slot, playingRoom.room.slotForInputConnection guestInput = some slot
      ∧ ∃ control, slot.connectionId = some control
        ∧ (playingRoom.room.disconnectInputSocket guestInput 1 (secs 90)).2
          = (playingRoom.room.disconnectWithRecovery control 1 (secs 90)).2
        ∧ RecoveryStarted playingRoom.room slot.playerIndex (1 + secs 90)
            (playingRoom.room.disconnectInputSocket guestInput 1 (secs 90)).2 := by
  have hroom : playingRoom.room.status = .playing
      ∧ playingRoom.room.roomEpoch < u64Max ∧ playingRoom.room.sessionEpoch < u64Max
      ∧ (playingRoom.room.slotForInputConnection guestInput).any
        fun slot => handoffArmed slot 1 = false := by decide +kernel
  obtain ⟨hplaying, hepoch, hsession, hguest⟩ := hroom
  obtain ⟨slot, hslot, hunarmed⟩ := (Option.any_eq_true _ _).mp hguest
  exact ⟨slot, hslot, (inputLoss_eq_controlLoss_iff playingRoom_reachable (.inr (.inl hplaying))
    hslot (by simpa using hunarmed) hepoch hsession).mpr (by rw [hplaying]; simp)⟩

/-- While the host repairs its state, the guest's input socket closes: the room goes on repairing
and waits for nobody. -/
theorem inputLoss_ignored_whileRepairing :
    Reachable sampleRelay repairingRoom
      ∧ repairingRoom.room.status = .repairingState
      ∧ repairingRoom.room.roomEpoch < u64Max ∧ repairingRoom.room.sessionEpoch < u64Max
      ∧ repairingRoom.room.playerIndexForInputConnection guestInput = some .two
      ∧ (repairingRoom.room.players.all fun slot => slot.runnerHandoffDeadline.isNone)
      ∧ ¬RecoveryStarted repairingRoom.room .two (1 + secs 90)
          (repairingRoom.room.disconnectInputSocket guestInput 1 (secs 90)).2 := by
  have hroom : repairingRoom.room.status = .repairingState
      ∧ repairingRoom.room.roomEpoch < u64Max ∧ repairingRoom.room.sessionEpoch < u64Max
      ∧ repairingRoom.room.playerIndexForInputConnection guestInput = some .two
      ∧ (repairingRoom.room.players.all fun slot => slot.runnerHandoffDeadline.isNone)
      ∧ (repairingRoom.room.disconnectInputSocket guestInput 1 (secs 90)).2.status
        ≠ .recovering := by decide +kernel
  obtain ⟨hrepairing, hepoch, hsession, hguest, hunarmed, hstays⟩ := hroom
  exact ⟨repairingRoom_reachable, hrepairing, hepoch, hsession, hguest, hunarmed,
    fun h => hstays h.status⟩

end NetplayRelay.Proof
