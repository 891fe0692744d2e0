import NetplayRelay.Proof.Repairs

/-!
# Coming back during a repair

A client that comes back finds the state recovery of its room in the view it is sent, and takes it
from there. But two mechanisms share one reset: losing a player in a running session, a repair
included, forgets everything negotiated, and the state recovery with it. Only what leaves the
control socket alone can be survived: the loss of an input socket during a repair.

`endsRecovery` lists what ends a recovery. The first section shows that the list is exact, the
second that a recovery which has ended does not come back: later ones have greater identifiers.
-/

namespace NetplayRelay.Proof

open Lib Protocol Rooms Registry

variable {relay : Relay} {r r' : NetplayRoom} {op : RoomOp} {s t : StoredRoom}
  {transaction : StateRecoveryTransaction} {c : ConnectionId} {now : Instant}

/-! ## What ends a recovery -/

/-- Whoever is known and loses its control socket takes the recovery along. -/
theorem disconnectWithRecovery_gone {grace : Duration} (hknown : (r.slotForConnection c).isSome)
    (hfirst : r.status ≠ .recovering) :
    (r.disconnectWithRecovery c now grace).2.stateRecovery = none := by
  have hloss := disconnectWithRecovery_loss r c now grace
  generalize (r.disconnectWithRecovery c now grace).2 = r' at hloss
  cases hloss with
  | unknown hslot => exact absurd hknown (by simp [hslot])
  | alsoLost _ _ _ _ hstatus => exact absurd hstatus hfirst
  | handoffKept | recovery | hostGone | guestGone => rfl

theorem joinGuest_gone {key : Text} {resume input : ResumeTokenHash}
    {capabilities : ClientTransportCapabilities} (hstatus : r.status ≠ .closed)
    (hempty : r.players.any (·.isEmpty)) :
    (r.joinGuestWithResume key c resume input now capabilities).2.stateRecovery = none := by
  obtain ⟨slot, hslot⟩ :=
    Option.isSome_iff_exists.mp (List.find?_isSome.mpr (by simpa using hempty))
  rw [NetplayRoom.joinGuestWithResume, if_neg hstatus, hslot]
  rfl

theorem markReady_gone {network : Option ClientNetworkQualityReport} (h : startsByReport r c) :
    (markReady relay r c network now).2.stateRecovery = none := by
  simp only [startsByReport, Bool.and_eq_true, Bool.or_eq_true, decide_eq_true_eq,
    Bool.not_eq_true'] at h
  obtain ⟨⟨⟨⟨hstatus, hsnapshot⟩, hsockets⟩, hready⟩, hunscheduled⟩ := h
  obtain ⟨p, hp, hall⟩ := (Option.any_eq_true _ _).mp hready
  have hmarked :
      ((r.recordNetworkReport c none network now).recordReady p).connectedPlayersAreReady := by
    have hcounts := recordReady_counts c network now hp
    rw [NetplayRoom.connectedPlayersAreReady, NetplayRoom.allConnected,
      connectedPlayerIndices_keeps hcounts.players, hcounts.maxPlayers]
    exact hall
  have hstarted : r.markReady c network now
      = (.ok true, (((r.recordNetworkReport c none network now).recordReady
        p).applyInitialAdaptiveInputDelay now).enterPlaying) := by
    have hopen : ¬(r.status ≠ .syncingState ∧ r.status ≠ .ready) := by tauto
    simp [NetplayRoom.markReady, hopen, hsnapshot, hsockets, hp, hmarked,
      recordReady_supportsScheduledStart, hunscheduled]
  rw [markReady, hstarted]
  rfl

theorem relayHostFrameOpen_gone {frameOpen : HostFrameOpen} {t : Nat}
    (h : startsByOpen r c frameOpen t) :
    (relayHostFrameOpen r c frameOpen t).room.stateRecovery = none := by
  simp only [startsByOpen, Bool.and_eq_true, decide_eq_true_eq] at h
  obtain ⟨⟨⟨⟨⟨⟨⟨hsender, hroom⟩, hsession⟩, hstatus⟩, hnext⟩, hcovers⟩, hpause⟩, hdue⟩ := h
  obtain ⟨start, hstart, hframe⟩ := (Option.any_eq_true _ _).mp hdue
  simp only [Bool.and_eq_true, decide_eq_true_eq] at hframe
  have hvalid : r.validateHostFrameSender c = .ok () := by
    cases hcase : r.validateHostFrameSender c with
    | ok _ => rfl
    | error error => exact absurd hsender (by simp [hcase, Except.isOk, Except.toBool])
  have hbound : (r.pauseState.any fun pause => pause.pauseAtFrame < frameOpen.frame) = false := by
    cases hcase : r.pauseState with
    | none => rfl
    | some pause => simpa [hcase] using hpause
  have hopened : r.acceptHostFrameOpen c frameOpen t
      = r.enterPlaying.grantHostFrame frameOpen.frame := by
    rw [hnext] at hcovers hbound hframe
    simp [NetplayRoom.acceptHostFrameOpen, hvalid, hroom, hsession, hstatus, hnext, hbound, hcovers,
      hstart, hframe.1.symm, Nat.not_lt.mpr hframe.2]
  rw [relayHostFrameOpen, hopened]
  rfl

theorem releaseScheduledV5HostFrame_gone {roomEpoch sessionEpoch frame t : Nat}
    (h : startsByTimer r roomEpoch sessionEpoch frame t) :
    (releaseScheduledV5HostFrame r roomEpoch sessionEpoch frame t).room.stateRecovery = none := by
  simp only [startsByTimer, Bool.and_eq_true, decide_eq_true_eq] at h
  obtain ⟨⟨⟨⟨hroom, hsession⟩, hstatus⟩, hpending⟩, hdue⟩ := h
  obtain ⟨start, hstart, htime⟩ := (Option.any_eq_true _ _).mp hdue
  have hlate : ¬t < start.serverTimeMs := Nat.not_lt.mpr (of_decide_eq_true htime)
  simp [releaseScheduledV5HostFrame, NetplayRoom.releaseDueV5HostFrame, hroom, hsession, hstatus,
    hpending, hstart, hlate, NetplayRoom.releaseV5HostFrame]

/-- **The list is exact.** -/
theorem endsRecovery_gone (h : Reachable relay s)
    (htransaction : s.room.stateRecovery = some transaction) (hstep : s.step relay op = some t)
    (hends : endsRecovery relay s.room op) : t.room.stateRecovery = none := by
  -- nobody is waited for while there is a recovery
  have hidle : ¬Waited s.room := fun hwaited =>
    absurd ((waited_reachable h hwaited).noRecovery.symm.trans htransaction) (by simp)
  have hfirst : s.room.status ≠ .recovering := fun hstatus => hidle (.inl hstatus)
  have hstrict : s.room.usesStrictControllerInput :=
    (repairs_reachable h).strict (by simp [sessionCore, htransaction])
  rw [step_room hstep]
  cases op with
  | joinGuest =>
    simp only [endsRecovery, Bool.and_eq_true, decide_eq_true_eq] at hends
    exact joinGuest_gone hends.1 hends.2
  | reconnectPlayer request =>
    obtain ⟨slot, hslot, hdeadline⟩ := (Option.any_eq_true _ _).mp hends
    exact absurd (.inr ⟨slot, List.mem_of_find?_eq_some hslot, hdeadline⟩) hidle
  | disconnect c now =>
    refine disconnectWithRecovery_gone ?_ hfirst
    simpa [endsRecovery, NetplayRoom.playerIndexForConnection] using hends
  | playerExited c now =>
    obtain ⟨p, hp⟩ := Option.isSome_iff_exists.mp hends
    simp [applyOp, playerExited, NetplayRoom.playerExited, hp,
      NetplayRoom.takeVoiceRoomIdForCleanup]
  | disconnectInputSocket c now =>
    simp only [endsRecovery, Bool.and_eq_true, NetplayRoom.playerIndexForInputConnection,
      Option.isSome_map] at hends
    obtain ⟨slot, hslot⟩ := Option.isSome_iff_exists.mp hends.2
    have hseats := seats_reachable h
    obtain ⟨control, hcontrol⟩ := Option.isSome_iff_exists.mp (hseats.controlOfInput hslot)
    rw [show applyOp relay s.room (.disconnectInputSocket c now) = _ from
      disconnectInputSocket_running hslot hcontrol hends.1]
    refine disconnectWithRecovery_gone ?_ hfirst
    rw [slotForConnection_detachInputSocket hseats hslot hcontrol]
    rfl
  | sweep now =>
    have hpin := step_sweep_pin hstep
    by_cases hlapsed : hostHandoffLapsed s.room now ∨ guestHandoffLapsed s.room now
    · exact congrArg (·.stateRecovery) (sweepRoom_lapsed relay hpin hlapsed).1.core
    simp only [not_or, Bool.not_eq_true] at hlapsed
    have hlost : heartbeatLost relay s.room now := by
      simpa [endsRecovery, hlapsed.1, hlapsed.2] using hends
    have hcore := sweepRoom_core relay hpin hlapsed.1 hlapsed.2
    rw [if_pos hlost] at hcore
    exact congrArg (·.stateRecovery) hcore
  | markReady => exact markReady_gone hends
  | relayHostFrameOpen => exact relayHostFrameOpen_gone hends
  | releaseScheduledV5HostFrame => exact releaseScheduledV5HostFrame_gone hends
  | recordStateHash => exact absurd hends (by simp [endsRecovery, hstrict])
  | _ => exact absurd hends (by simp [endsRecovery])

/-- The host's pin commits the recovery. -/
def commitsRecovery (r : NetplayRoom) : RoomOp → Bool
  | .pinStateRecovery c roomEpoch sessionEpoch pin => r.status = .repairingState
    && r.stateRecovery.any (·.isPreparing) && pinMatches r c roomEpoch sessionEpoch pin
  | _ => false

/-- The recovery is not what it was after this call. -/
def changesRecovery (relay : Relay) (r : NetplayRoom) (op : RoomOp) : Bool :=
  endsRecovery relay r op || commitsRecovery r op

theorem applyOp_keepsRecovery (hinv : RepairInv (sessionCore r))
    (htransaction : r.stateRecovery = some transaction)
    (hkeeps : changesRecovery relay r op = false) :
    (applyOp relay r op).stateRecovery = some transaction := by
  simp only [changesRecovery, Bool.or_eq_false_iff] at hkeeps
  cases applyOp_recovery relay hinv op with
  | kept h => exact h.trans htransaction
  | ended hends => exact absurd (hkeeps.1.symm.trans hends) (by simp)
  | opened hnone => exact absurd (hnone.symm.trans htransaction) (by simp)
  | pinned hop hbefore _ hstatus _ hpin hpreparing =>
    subst hop
    exact absurd hkeeps.2 (by simp [commitsRecovery, hstatus, hbefore, hpreparing, hpin])

/-! ## A recovery does not come back -/

/-- Recoveries are numbered. -/
structure Numbered (r : NetplayRoom) : Prop where
  bound : r.nextStateRecoveryId ≤ u64Max
  active : ∀ transaction, r.stateRecovery = some transaction → transaction.recoveryId < u64Max →
    transaction.recoveryId < r.nextStateRecoveryId

theorem nextStateRecoveryId_step (relay : Relay) (op : RoomOp)
    (hbound : r.nextStateRecoveryId ≤ u64Max) :
    r.nextStateRecoveryId ≤ (applyOp relay r op).nextStateRecoveryId
      ∧ (applyOp relay r op).nextStateRecoveryId ≤ u64Max := by
  cases applyOp_attempts relay r op with
  | quiet _ _ _ hid =>
    rw [hid]
    exact ⟨Nat.le_refl _, hbound⟩
  | started _ _ _ _ _ hid | refused _ _ _ _ hid =>
    rw [hid, satAdd]
    omega

theorem numbered_step (hinv : RepairInv (sessionCore r)) (h : Numbered r) :
    Numbered (applyOp relay r op) := by
  obtain ⟨hforward, hbound⟩ := nextStateRecoveryId_step relay op h.bound
  refine ⟨hbound, fun transaction htransaction hbelow => ?_⟩
  cases applyOp_recovery relay hinv op with
  | kept hkept => exact Nat.lt_of_lt_of_le (h.active _ (hkept ▸ htransaction) hbelow) hforward
  | ended _ hnone => exact absurd (hnone.symm.trans htransaction) (by simp)
  | opened _ hnew hid =>
    obtain rfl := Option.some.inj (hnew.symm.trans htransaction)
    rw [hid, satAdd]
    have hlast : r.nextStateRecoveryId < u64Max := hbelow
    show r.nextStateRecoveryId < _
    omega
  | pinned _ hbefore hcommitted =>
    obtain rfl := Option.some.inj (hcommitted.symm.trans htransaction)
    have hnumber := h.active _ hbefore hbelow
    exact Nat.lt_of_lt_of_le hnumber hforward

theorem numbered_reachable (h : Reachable relay s) : Numbered s.room := by
  refine reachable_inv Numbered ?_ ?_ h
  · intro roomId key c session version resume input now voice
    cases voice <;>
      exact ⟨show 1 ≤ u64Max by decide, fun _ h => absurd h (by simp [createRoom,
        NetplayRoom.newWithProtocolAndResume, NetplayRoom.setVoiceState])⟩
  · intro s op hs hnumbered _
    exact numbered_step (repairs_reachable hs) hnumbered

/-- A recovery that was preparing is over or committed. -/
structure Surpassed (transaction : StateRecoveryTransaction) (r : NetplayRoom) : Prop where
  numbered : transaction.recoveryId < r.nextStateRecoveryId
  later : ∀ transaction', r.stateRecovery = some transaction' →
    transaction.recoveryId < transaction'.recoveryId ∨ transaction'.isPreparing = false

theorem surpassed_step (hinv : RepairInv (sessionCore r)) (hnumbered : Numbered r)
    (h : Surpassed transaction r) : Surpassed transaction (applyOp relay r op) := by
  have hforward := (nextStateRecoveryId_step relay op hnumbered.bound).1
  refine ⟨Nat.lt_of_lt_of_le h.numbered hforward, fun transaction' htransaction' => ?_⟩
  cases applyOp_recovery relay hinv op with
  | kept hkept => exact h.later transaction' (hkept ▸ htransaction')
  | ended _ hnone => exact absurd (hnone.symm.trans htransaction') (by simp)
  | opened _ hnew =>
    obtain rfl := Option.some.inj (hnew.symm.trans htransaction')
    exact .inl h.numbered
  | pinned _ _ hcommitted =>
    obtain rfl := Option.some.inj (hcommitted.symm.trans htransaction')
    exact .inr rfl

/-- What changes a recovery leaves it behind for good. -/
theorem changesRecovery_surpassed (h : Reachable relay s)
    (htransaction : s.room.stateRecovery = some transaction)
    (hbelow : transaction.recoveryId < u64Max) (hstep : s.step relay op = some t)
    (hchanges : changesRecovery relay s.room op) : Surpassed transaction t.room := by
  have hnumbered := numbered_reachable h
  refine ⟨?_, fun transaction' htransaction' => ?_⟩
  · rw [step_room hstep]
    exact Nat.lt_of_lt_of_le (hnumbered.active _ htransaction hbelow)
      (nextStateRecoveryId_step relay op hnumbered.bound).1
  · rw [changesRecovery, Bool.or_eq_true] at hchanges
    rcases hchanges with hends | hcommits
    · have hnone := endsRecovery_gone h htransaction hstep hends
      exact absurd (hnone.symm.trans htransaction') (by simp)
    rw [step_room hstep] at htransaction'
    cases op with
    | pinStateRecovery c roomEpoch sessionEpoch pin =>
      simp only [commitsRecovery, htransaction, Option.any_some, Bool.and_eq_true,
        decide_eq_true_eq] at hcommits
      have hstrict : s.room.usesStrictControllerInput :=
        (repairs_reachable h).strict (by simp [sessionCore, htransaction])
      have hcommitted := congrArg (fun outcome : Outcome StateRecoveryView =>
        outcome.2.stateRecovery) (pin_commits hstrict hcommits.2 htransaction hcommits.1.2
          hcommits.1.1)
      obtain rfl := Option.some.inj (hcommitted.symm.trans htransaction')
      exact .inr rfl
    | _ => exact absurd hcommits (by simp [commitsRecovery])

/-! ## Coming back -/

/-- What a player who is let in again is told about the recovery of its room. -/
def returnedRecovery (r : NetplayRoom) (request : PlayerReconnectRequest) :
    Option StateRecoveryView :=
  match r.reconnectPlayer request with
  | (.ok (), r) => r.stateRecovery.map (·.view)
  | (.error _, _) => none

/-- The call takes a socket away from player `p`: its control socket closes or its input socket
does, or its heartbeat has stayed away for too long. -/
def dropsTransport (relay : Relay) (r : NetplayRoom) (p : PlayerIndex) : RoomOp → Bool
  | .disconnect c _ => r.playerIndexForConnection c = some p
  | .disconnectInputSocket c _ => r.playerIndexForInputConnection c = some p
  | .sweep now => r.status.watchesHeartbeats
    && (r.slotForPlayer p).any (·.silentFor now relay.recovery.heartbeatDisconnect)
  | _ => false

/-- Only an input socket is lost. -/
def losesInputOnly : RoomOp → Bool
  | .disconnectInputSocket .. => true
  | _ => false

/-- During a repair only the loss of an input socket leaves the recovery alone. -/
theorem drop_changesRecovery {p : PlayerIndex} (hstatus : r.status = .repairingState)
    (hdrop : dropsTransport relay r p op) : changesRecovery relay r op = !losesInputOnly op := by
  cases op with
  | disconnect c now =>
    simp only [dropsTransport, decide_eq_true_eq] at hdrop
    simp [changesRecovery, endsRecovery, hdrop, losesInputOnly]
  | disconnectInputSocket c now =>
    simp [changesRecovery, endsRecovery, commitsRecovery, hstatus,
      RoomStatus.inputLossIsRecoverable, losesInputOnly]
  | sweep now =>
    simp only [dropsTransport, Bool.and_eq_true] at hdrop
    obtain ⟨slot, hslot, hsilent⟩ := (Option.any_eq_true _ _).mp hdrop.2
    have hlost : heartbeatLost relay r now := by
      rw [heartbeatLost, hdrop.1, Bool.true_and, List.any_eq_true]
      exact ⟨slot, List.mem_of_find?_eq_some hslot, hsilent⟩
    simp [changesRecovery, endsRecovery, hlost, losesInputOnly]
  | _ => exact absurd hdrop (by simp [dropsTransport])

/-- The server takes sockets away on its own account. -/
theorem drop_admissible {p : PlayerIndex} (hdrop : dropsTransport relay r p op) :
    Admissible r op := by
  cases op with
  | disconnect | disconnectInputSocket | sweep => rfl
  | _ => exact absurd hdrop (by simp [dropsTransport])

theorem returnedRecovery_accepted (relay : Relay) {request : PlayerReconnectRequest}
    (haccepted : (r.reconnectPlayer request).1 = .ok ()) :
    returnedRecovery r request
      = (applyOp relay r (.reconnectPlayer request)).stateRecovery.map (·.view) := by
  rw [returnedRecovery, applyOp]
  rcases hresult : r.reconnectPlayer request with ⟨answer, r'⟩
  rw [hresult] at haccepted
  obtain rfl : answer = .ok () := haccepted
  rfl

/-- Coming back does not touch an active recovery. -/
theorem reconnect_keepsRecovery {request : PlayerReconnectRequest} (h : Reachable relay s)
    (htransaction : s.room.stateRecovery = some transaction) :
    (applyOp relay s.room (.reconnectPlayer request)).stateRecovery = some transaction := by
  refine applyOp_keepsRecovery (repairs_reachable h) htransaction ?_
  by_contra hchanges
  obtain ⟨slot, hslot, hdeadline⟩ : ∃ slot, s.room.slotForPlayer request.playerIndex = some slot
      ∧ slot.reconnectDeadline.isSome := by
    simpa [changesRecovery, endsRecovery, commitsRecovery, Option.any_eq_true] using hchanges
  have hidle := waited_reachable h (.inr ⟨slot, List.mem_of_find?_eq_some hslot, hdeadline⟩)
  exact absurd (hidle.noRecovery.symm.trans htransaction) (by simp)

/-- **A player who comes back during a repair finds the recovery it left**, provided that it had
lost its input socket only and that nothing has ended or committed the recovery in the meantime. As
long as recoveries are numbered without saturation, the condition is necessary. -/
theorem rejoin_findsRecovery_iff {v u : StoredRoom} {drop : RoomOp} {between : List RoomOp}
    {request : PlayerReconnectRequest} (h : Reachable relay s)
    (hstatus : s.room.status = .repairingState)
    (htransaction : s.room.stateRecovery = some transaction)
    (hdrop : dropsTransport relay s.room request.playerIndex drop)
    (hdropped : s.step relay drop = some v)
    (hbetween : Guarded (StoredRoom.step relay) (fun s op => Admissible s.room op) v between)
    (hrun : run (StoredRoom.step relay) v between = some u)
    (haccepted : (u.room.reconnectPlayer request).1 = .ok ()) :
    (losesInputOnly drop ∧ Guarded (StoredRoom.step relay)
        (fun s op => changesRecovery relay s.room op = false) v between →
      returnedRecovery u.room request = some transaction.view)
    ∧ (transaction.recoveryId < u64Max →
      returnedRecovery u.room request = some transaction.view →
        losesInputOnly drop ∧ Guarded (StoredRoom.step relay)
          (fun s op => changesRecovery relay s.room op = false) v between) := by
  have hinv := repairs_reachable h
  have hpreparing : transaction.isPreparing := by
    cases hpinned : transaction.pinnedSnapshot with
    | none => simp [StateRecoveryTransaction.isPreparing, hpinned]
    | some manifest =>
        exact absurd hstatus
          (hinv.committed transaction manifest htransaction hpinned).notPlaying.2.2
  let guard := fun (s : StoredRoom) (op : RoomOp) => changesRecovery relay s.room op = false
  have hguard : Guarded (StoredRoom.step relay) guard s (drop :: between)
      ↔ losesInputOnly drop ∧ Guarded (StoredRoom.step relay) guard v between := by
    rw [Guarded, hdropped]
    simp [guard, drop_changesRecovery hstatus hdrop]
  have hallowed : Guarded (StoredRoom.step relay) (fun s op => Admissible s.room op) s
      (drop :: between) := by
    rw [Guarded, hdropped]
    exact ⟨drop_admissible hdrop, hbetween⟩
  have hall : run (StoredRoom.step relay) s (drop :: between) = some u :=
    run_cons.mpr ⟨v, hdropped, hrun⟩
  have hkeep : ∀ s op t, Reachable relay s ∧ s.room.stateRecovery = some transaction →
      Admissible s.room op → guard s op → s.step relay op = some t →
      Reachable relay t ∧ t.room.stateRecovery = some transaction := by
    intro s op t hs hadmissible hkeeps hstep
    refine ⟨reachable_step hs.1 hadmissible hstep, ?_⟩
    rw [step_room hstep]
    exact applyOp_keepsRecovery (repairs_reachable hs.1) hs.2 hkeeps
  rw [← hguard]
  constructor
  · intro hguarded
    have hlose : ∀ s op t, Reachable relay s ∧ s.room.stateRecovery = some transaction →
        Admissible s.room op → ¬guard s op → s.step relay op = some t → True :=
      fun _ _ _ _ _ _ _ => trivial
    obtain ⟨hu, hkept⟩ := (kept_or_lost hkeep hlose (fun _ _ _ _ _ _ => trivial) hallowed hall
      ⟨h, htransaction⟩).1 hguarded
    rw [returnedRecovery_accepted relay haccepted, reconnect_keepsRecovery hu hkept]
    rfl
  · intro hbelow hreturned
    by_contra hguarded
    have hlose : ∀ s op t, Reachable relay s ∧ s.room.stateRecovery = some transaction →
        Admissible s.room op → ¬guard s op → s.step relay op = some t →
        Reachable relay t ∧ Surpassed transaction t.room := by
      intro s op t hs hadmissible hchanges hstep
      exact ⟨reachable_step hs.1 hadmissible hstep,
        changesRecovery_surpassed hs.1 hs.2 hbelow hstep (by simpa [guard] using hchanges)⟩
    have hlost : ∀ s op t, Reachable relay s ∧ Surpassed transaction s.room →
        Admissible s.room op → s.step relay op = some t →
        Reachable relay t ∧ Surpassed transaction t.room := by
      intro s op t hs hadmissible hstep
      refine ⟨reachable_step hs.1 hadmissible hstep, ?_⟩
      rw [step_room hstep]
      exact surpassed_step (repairs_reachable hs.1) (numbered_reachable hs.1) hs.2
    obtain ⟨hu, hsurpassed⟩ := (kept_or_lost hkeep hlose hlost hallowed hall
      ⟨h, htransaction⟩).2 hguarded
    -- the view names a later recovery, or one that is committed
    rw [returnedRecovery_accepted relay haccepted] at hreturned
    obtain ⟨transaction', htransaction', hview⟩ := Option.map_eq_some_iff.mp hreturned
    have hnumber : transaction'.recoveryId = transaction.recoveryId :=
      congrArg (·.recoveryId) hview
    have hpinned : transaction'.pinnedSnapshot = transaction.pinnedSnapshot :=
      congrArg (·.pinnedSnapshot) hview
    have hafter : Surpassed transaction (applyOp relay u.room (.reconnectPlayer request)) :=
      surpassed_step (repairs_reachable hu) (numbered_reachable hu) hsurpassed
    rcases hafter.later transaction' htransaction' with hlater | hcommitted
    · exact absurd hnumber hlater.ne'
    · rw [StateRecoveryTransaction.isPreparing, hpinned] at hcommitted
      exact absurd (hcommitted.symm.trans hpreparing) (by simp)

/-- The guest's request to come back, on the epochs on which the session was lost. -/
def guestReturns (now : Instant) : PlayerReconnectRequest where
  playerIndex := .two
  resumeTokenHash := "gr".toList
  nextResumeTokenHash := "gr2".toList
  inputSocketTokenHash := "gi2".toList
  roomEpoch := 2
  connectionId := ⟨9⟩
  now := now
  capabilities := ⟨true, true, false, false, true⟩

/-- The guest armed a runner handoff during the repair, and its runner's input socket closed. -/
theorem rejoin_findsRecovery_afterHandoff :
    let s := after sampleRelay repairingRoom [.armRunnerHandoff guestSocket 0]
    let u := after sampleRelay s [.disconnectInputSocket guestInput 1]
    s.room.stateRecovery.isSome
      ∧ returnedRecovery u.room (guestReturns 2) = s.room.stateRecovery.map (·.view) := by
  intro s u
  have hfacts : Possible sampleRelay repairingRoom [.armRunnerHandoff guestSocket 0]
      ∧ s.room.status = .repairingState ∧ s.room.stateRecovery.isSome
      ∧ dropsTransport sampleRelay s.room (guestReturns 2).playerIndex
        (.disconnectInputSocket guestInput 1)
      ∧ Possible sampleRelay s [.disconnectInputSocket guestInput 1]
      ∧ (u.room.reconnectPlayer (guestReturns 2)).1.isOk := by
    decide +kernel
  obtain ⟨harmed, hstatus, hsome, hdrop, hlost, hok⟩ := hfacts
  have hs : Reachable sampleRelay s := reachable_run repairingRoom_reachable harmed.1 harmed.run_eq
  obtain ⟨v, hstep, hrun⟩ := run_cons.mp hlost.run_eq
  have hbetween : Guarded (StoredRoom.step sampleRelay) (fun s op => Admissible s.room op) v [] :=
    trivial
  have haccepted : (u.room.reconnectPlayer (guestReturns 2)).1 = .ok () := by
    cases hanswer : (u.room.reconnectPlayer (guestReturns 2)).1 with
    | ok => rfl
    | error => exact absurd hok (by simp [hanswer, Except.isOk, Except.toBool])
  obtain ⟨transaction, htransaction⟩ := Option.isSome_iff_exists.mp hsome
  refine ⟨hsome, ?_⟩
  rw [htransaction, Option.map_some]
  exact (rejoin_findsRecovery_iff hs hstatus htransaction hdrop hstep hbetween hrun haccepted).1
    ⟨rfl, trivial⟩

/-- The guest's control socket closes during the repair and the guest is back within the grace
period: it is let in, and nothing is left of the recovery. -/
theorem rejoin_losesRecovery_afterDisconnect :
    let u := after sampleRelay repairingRoom [.disconnect guestSocket 1]
    Reachable sampleRelay repairingRoom
      ∧ repairingRoom.room.protocolVersion = 5 ∧ repairingRoom.room.status = .repairingState
      ∧ repairingRoom.room.stateRecovery.isSome
      ∧ dropsTransport sampleRelay repairingRoom.room .two (.disconnect guestSocket 1)
      ∧ Possible sampleRelay repairingRoom [.disconnect guestSocket 1]
      ∧ (u.room.reconnectPlayer (guestReturns 2)).1.isOk
      ∧ returnedRecovery u.room (guestReturns 2) = none := by
  intro u
  refine ⟨repairingRoom_reachable, ?_⟩
  decide +kernel

end NetplayRelay.Proof
