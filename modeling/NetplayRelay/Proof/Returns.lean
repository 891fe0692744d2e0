import NetplayRelay.Proof.EpochRuns
import NetplayRelay.Proof.Recovery
import NetplayRelay.Proof.SeatSteps
import NetplayRelay.Proof.Sweeps

/-!
# Whether a lost player may return

A player who is lost in a running session may present the room epoch of that session until the grace
period is over. The seat remembers which epoch to accept. What it remembers is fixed when the player
is lost, and from then on no call of anybody else touches it, so the whole question is what is
remembered.

A lost heartbeat stores the epoch of the session. A lost socket keeps what the slot had stored
before, and that may be old: an armed handoff stores its epoch, and the marker can expire while the
epoch stays. Losing the input socket of a room that is being repaired stores nothing at all.
-/

namespace NetplayRelay.Proof

open Lib Protocol Rooms Registry NetplayRoom

variable {relay : Relay} {r r' : NetplayRoom} {s t : StoredRoom} {slot slot' : PlayerSlot}
  {p : PlayerIndex} {token : ResumeTokenHash} {deadline now : Instant} {epoch : Nat} {op : RoomOp}
  {request : PlayerReconnectRequest}

/-- The holder of the seat is waited for on these terms. -/
structure Awaited (p : PlayerIndex) (token : ResumeTokenHash) (deadline : Instant) (epoch : Nat)
    (slot : PlayerSlot) : Prop where
  playerIndex : slot.playerIndex = p
  absent : slot.connectionId = none
  unarmed : slot.runnerHandoffDeadline = none
  token : slot.resumeTokenHash = some token
  deadline : slot.reconnectDeadline = some deadline
  epoch : slot.reconnectRoomEpoch = some epoch
  occupied : slot.isEmpty = false

theorem Awaited.keep (h : Awaited p token deadline epoch slot) (hkept : Keeps slot slot') :
    Awaited p token deadline epoch slot' where
  playerIndex := hkept.playerIndex.trans h.playerIndex
  absent := hkept.connectionId.trans h.absent
  unarmed := (hkept.terms h.absent h.unarmed).1
  token := hkept.resumeTokenHash.trans h.token
  deadline := hkept.reconnectDeadline.trans h.deadline
  epoch := (hkept.terms h.absent h.unarmed).2.trans h.epoch
  occupied := hkept.occupied h.occupied

/-- Some seat is waited for on these terms. -/
def IsAwaited (p : PlayerIndex) (token : ResumeTokenHash) (deadline : Instant) (epoch : Nat)
    (r : NetplayRoom) : Prop :=
  ∃ slot ∈ r.players, Awaited p token deadline epoch slot

theorem IsAwaited.keep (h : IsAwaited p token deadline epoch r)
    (hkept : List.Forall₂ Keeps r.players r'.players) : IsAwaited p token deadline epoch r' := by
  obtain ⟨slot, hslot, hawaited⟩ := h
  obtain ⟨slot', hslot', hs⟩ := forall₂_mem hkept.flip hslot
  exact ⟨slot', hslot', hawaited.keep hs⟩

/-! ## While the player is away -/

/-- The call does not come from the player of seat `p`: it presents no token of the seat, and does
not attach its host. -/
def comesFromOthers (p : PlayerIndex) : RoomOp → Bool
  | .reconnectPlayer request => request.playerIndex ≠ p
  | .connectHost .. => p ≠ .one
  | _ => true

/-- **Nobody else touches the terms.** -/
theorem isAwaited_step (h : Reachable relay s) (hawaited : IsAwaited p token deadline epoch s.room)
    (hothers : comesFromOthers p op) (hopen : (applyOp relay s.room op).status ≠ .closed) :
    IsAwaited p token deadline epoch (applyOp relay s.room op) := by
  have hseats := seats_reachable h
  obtain ⟨slot, hslot, hterms⟩ := hawaited
  have hsteps := effect_seatSteps hseats (applyOp_effect relay s.room op)
  obtain ⟨slot', hslot', hstep⟩ := forall₂_mem hsteps.flip hslot
  cases hstep with
  | kept hkept => exact ⟨slot', hslot', hterms.keep hkept⟩
  | taken _ htakes =>
    exfalso
    cases op with
    | joinGuest =>
      have hempty : slot.isEmpty :=
        List.find?_some (p := fun slot : PlayerSlot => slot.isEmpty) htakes
      exact absurd (hterms.occupied.symm.trans hempty) (by simp)
    | connectHost =>
      have hhost : slot.role = .host := by simpa using List.find?_some htakes.1
      have hone := (hseats.seated slot hslot).host hhost
      rw [hterms.playerIndex] at hone
      simp [comesFromOthers, hone] at hothers
    | reconnectPlayer request =>
      have hindex : slot.playerIndex = request.playerIndex := by
        simpa using List.find?_some htakes.found
      rw [hterms.playerIndex] at hindex
      simp [comesFromOthers, hindex] at hothers
    | _ => exact htakes
  | inputTaken _ _ hcontrol =>
    rw [PlayerSlot.isConnected, hterms.absent] at hcontrol
    exact absurd hcontrol (by simp)
  | lost hcause =>
    exfalso
    rcases hcause with hconnected | ⟨now, _, hhandoff | hwatched⟩ | hclosed
    · rw [PlayerSlot.isConnected, hterms.absent] at hconnected
      exact absurd hconnected (by simp)
    · simp [handoffExpired, hterms.unarmed] at hhandoff
    · -- while somebody is waited for there is no session
      have hidle := waited_reachable h (.inr ⟨slot, hslot, by rw [hterms.deadline]; rfl⟩)
      exact absurd ((isWaiting_unwatched hidle.status).symm.trans hwatched) (by simp)
    · exact hopen hclosed

/-! ## When the player is lost -/

/-- The call takes the transport of a connected player away, at this time: its control socket or its
input socket closes, or a sweep that finds no lapsed handoff misses its heartbeats. -/
def lossAt (relay : Relay) (r : NetplayRoom) (slot : PlayerSlot) : RoomOp → Option Instant
  | .disconnect c now => if slot.connectionId = some c then some now else none
  | .disconnectInputSocket c now => if slot.inputConnectionId = some c then some now else none
  | .sweep now =>
    if slot.silentFor now relay.recovery.heartbeatDisconnect && !hostHandoffLapsed r now
        && !guestHandoffLapsed r now then some now
    else none
  | _ => none

/-- The seat remembers the epoch of the session when its player is lost by this call. -/
def remembersEpoch (r : NetplayRoom) (slot : PlayerSlot) : RoomOp → Bool
  | .disconnect .. => slot.reconnectRoomEpoch.all (· = r.roomEpoch) || r.roomEpoch = u64Max
  | .disconnectInputSocket .. => r.status ≠ .repairingState
    && (slot.reconnectRoomEpoch.all (· = r.roomEpoch) || r.roomEpoch = u64Max)
  | _ => true

theorem recoveryFor_awaited {grace : Duration} (hseats : Seats r) (hslot : slot ∈ r.players)
    (htoken : slot.resumeTokenHash = some token) :
    IsAwaited slot.playerIndex token (now + grace) (slot.reconnectRoomEpoch.getD r.roomEpoch)
      (recoveryFor r slot now grace) := by
  refine IsAwaited.keep ⟨_, mem_updateFirst (hseats.slotForPlayer hslot), ?_⟩
    (enterRecoveryState_keeps _ _)
  exact ⟨rfl, rfl, rfl, htoken, rfl, rfl, rfl⟩

theorem sweepRoom_awaited (hseats : Seats r) (hpin : r.stateRecoveryPinExpired now = false)
    (hwatched : r.status.watchesHeartbeats) (hhost : hostHandoffLapsed r now = false)
    (hguest : guestHandoffLapsed r now = false) (hslot : slot ∈ r.players)
    (hsilent : slot.silentFor now relay.recovery.heartbeatDisconnect)
    (htoken : slot.resumeTokenHash = some token) :
    IsAwaited slot.playerIndex token (now + relay.recovery.reconnectGrace) r.roomEpoch
      (sweepRoom relay r now) := by
  rw [sweepRoom_eq hpin]
  have hcore : sessionCore (marked relay r now) = sessionCore r := marked_core hhost hguest
  -- the slot reaches the heartbeats as it was, apart from an expired marker
  have hsame : List.Forall₂ (fun slot slot' : PlayerSlot => slot'.playerIndex = slot.playerIndex
      ∧ slot'.resumeTokenHash = slot.resumeTokenHash
      ∧ ∀ age, slot'.silentFor now age = slot.silentFor now age)
      r.players (marked relay r now).players := by
    have hmarked : List.Forall₂ (fun slot slot' : PlayerSlot =>
        slot'.playerIndex = slot.playerIndex ∧ slot'.resumeTokenHash = slot.resumeTokenHash
        ∧ ∀ age, slot'.silentFor now age = slot.silentFor now age)
        (r.expireRunnerHandoffs now).2.players (marked relay r now).players := by
      simp only [marked, markStaleConnections]
      split
      · exact List.forall₂_same.mpr fun _ _ => ⟨rfl, rfl, fun _ => rfl⟩
      · exact forall₂_updateWhere (fun _ => ⟨rfl, rfl, fun _ => rfl⟩)
          fun _ _ _ => ⟨rfl, rfl, fun _ => rfl⟩
    refine forall₂_comp (expireRunnerHandoffs_unmarks hhost hguest) hmarked ?_
    rintro a b c (rfl | rfl) hbc
    · exact hbc
    · exact hbc
  generalize marked relay r now = r₂ at hcore hsame ⊢
  obtain ⟨slot₂, hslot₂, hindex, hresume, hsilent₂⟩ := forall₂_mem hsame.flip hslot
  have hseats₂ : (r₂.players.map (·.playerIndex)).Nodup := by
    rw [map_eq_of_forall₂ (hsame.imp fun _ _ h => h.1)]
    exact hseats.nodup
  have hstale : slot₂.playerIndex ∈ (r₂.players.filter
      (·.silentFor now relay.recovery.heartbeatDisconnect)).map (·.playerIndex) :=
    List.mem_map_of_mem (List.mem_filter.mpr ⟨hslot₂, (hsilent₂ _).trans hsilent⟩)
  have hwatched₂ : r₂.status.watchesHeartbeats := by
    rw [show r₂.status = r.status from congrArg (·.status) hcore]
    exact hwatched
  have hnonempty : ((r₂.players.filter
      (·.silentFor now relay.recovery.heartbeatDisconnect)).map (·.playerIndex)).isEmpty
        = false := by
    rw [List.isEmpty_eq_false_iff]
    exact List.ne_nil_of_mem hstale
  rw [recoverStaleConnections]
  simp only [hwatched₂, hnonempty, Bool.not_true, Bool.false_eq_true, if_false]
  refine IsAwaited.keep ?_ (enterRecoveryState_keeps _ _)
  refine ⟨(slot₂.dropTransport now).markReconnecting now relay.recovery.reconnectGrace
    r₂.roomEpoch, ?_, ?_⟩
  · rw [dropStalePlayers_players now _ _ r₂ hseats₂]
    exact List.mem_map.mpr ⟨slot₂, hslot₂, if_pos hstale⟩
  · rw [show r₂.roomEpoch = r.roomEpoch from congrArg (·.roomEpoch) hcore]
    exact ⟨hindex, rfl, rfl, hresume.trans htoken, rfl, rfl, rfl⟩

/-! ## Coming back -/

/-- Who is waited for is let in, in time and on an epoch the room accepts. -/
theorem IsAwaited.returns
    (h : IsAwaited request.playerIndex request.resumeTokenHash deadline epoch r) (hseats : Seats r)
    (hopen : r.status ≠ .closed)
    (hepoch : request.roomEpoch = epoch ∨ request.roomEpoch = r.roomEpoch)
    (hnow : request.now < deadline) : (r.reconnectPlayer request).1 = .ok () := by
  obtain ⟨slot, hslot, hterms⟩ := h
  have hreturns : Returns r request slot := by
    refine ⟨?_, hterms.token, .inr ⟨hterms.absent, ?_⟩, ?_, ?_, ?_⟩
    · rw [← hterms.playerIndex]
      exact hseats.slotForPlayer hslot
    · rw [hterms.deadline]
      rfl
    · rw [hterms.epoch]
      exact hepoch
    · rw [hterms.deadline]
      simpa using hnow
    · rw [hterms.unarmed]
      rfl
  rw [reconnectPlayer_returns hopen hreturns]

/-- Only who may return is let in. -/
theorem returns_of_reconnectPlayer (h : (r.reconnectPlayer request).1 = .ok ()) :
    ∃ slot, Returns r request slot := by
  rcases reconnectPlayer_cases r request with ⟨_, _, hfailed, _⟩ | ⟨_, hreturns⟩
  · rw [hfailed] at h
    exact absurd h (by simp)
  · exact hreturns

/-- The room after the loss of a socket, where the seat remembers something. -/
theorem loss_awaited (h : Reachable relay s) (hrunning : isRunning s.room.status)
    (hslot : slot ∈ s.room.players) (htoken : slot.resumeTokenHash = some token)
    (hloss : lossAt relay s.room slot op = some now) (hunarmed : handoffArmed slot now = false)
    (hinput : ∀ c now, op = .disconnectInputSocket c now → s.room.status ≠ .repairingState)
    (hstep : s.step relay op = some t) :
    ∃ epoch, IsAwaited slot.playerIndex token (now + relay.recovery.reconnectGrace) epoch t.room
      ∧ t.room.status = .recovering ∧ t.room.roomEpoch = satAdd u64Max s.room.roomEpoch 1
      ∧ (remembersEpoch s.room slot op
        ↔ epoch = s.room.roomEpoch ∨ s.room.roomEpoch = u64Max) := by
  have hseats := seats_reachable h
  obtain ⟨hrecoverable, hfirst⟩ := isRunning_recoverable hrunning
  -- what a lost socket leaves
  have hlost : t.room = recoveryFor s.room slot now relay.recovery.reconnectGrace →
      ∃ epoch, IsAwaited slot.playerIndex token (now + relay.recovery.reconnectGrace) epoch t.room
        ∧ t.room.status = .recovering ∧ t.room.roomEpoch = satAdd u64Max s.room.roomEpoch 1
        ∧ ((slot.reconnectRoomEpoch.all (· = s.room.roomEpoch) || s.room.roomEpoch = u64Max)
          ↔ epoch = s.room.roomEpoch ∨ s.room.roomEpoch = u64Max) := by
    intro hroom
    rw [hroom]
    refine ⟨_, recoveryFor_awaited hseats hslot htoken, rfl, rfl, ?_⟩
    cases slot.reconnectRoomEpoch <;> simp
  rw [step_room hstep] at hlost ⊢
  cases op with
  | disconnect c at_ =>
    have hc : slot.connectionId = some c ∧ at_ = now := by simpa [lossAt] using hloss
    obtain ⟨hc, rfl⟩ := hc
    exact hlost (disconnectWithRecovery_recoveryFor hseats (hseats.slotForConnection hslot hc)
      hunarmed hrecoverable hfirst)
  | disconnectInputSocket c at_ =>
    have hc : slot.inputConnectionId = some c ∧ at_ = now := by simpa [lossAt] using hloss
    obtain ⟨hc, rfl⟩ := hc
    have hrepairing := hinput c at_ rfl
    obtain ⟨control, hcontrol⟩ := Option.isSome_iff_exists.mp
      ((hseats.seated slot hslot).input (by rw [hc]; rfl))
    obtain ⟨epoch, hawaited, hstatus, hroom, hepoch⟩ := hlost
      (disconnectInputSocket_recoveryFor hseats (hseats.slotForInputConnection hslot hc) hcontrol
        hunarmed (isRunning_inputLoss hrunning hrepairing) hfirst)
    refine ⟨epoch, hawaited, hstatus, hroom, ?_⟩
    simpa [remembersEpoch, hrepairing] using hepoch
  | sweep at_ =>
    have hcauses : (slot.silentFor at_ relay.recovery.heartbeatDisconnect
        ∧ hostHandoffLapsed s.room at_ = false ∧ guestHandoffLapsed s.room at_ = false)
        ∧ at_ = now := by
      simpa [lossAt, and_assoc] using hloss
    obtain ⟨⟨hsilent, hhost, hguest⟩, rfl⟩ := hcauses
    have hwatched : s.room.status.watchesHeartbeats := by
      rcases hrunning with h | h | h | h <;> rw [h] <;> rfl
    have hpin := step_sweep_pin hstep
    have hlostBeat : heartbeatLost relay s.room at_ := by
      rw [heartbeatLost, hwatched, Bool.true_and, List.any_eq_true]
      exact ⟨slot, hslot, hsilent⟩
    have hcore := sweepRoom_core relay hpin hhost hguest
    rw [if_pos hlostBeat] at hcore
    refine ⟨s.room.roomEpoch, ?_, congrArg (·.status) hcore,
      congrArg (·.roomEpoch) hcore, by simp [remembersEpoch]⟩
    exact sweepRoom_awaited hseats hpin hwatched hhost hguest hslot hsilent htoken
  | _ => exact absurd hloss (by simp [lossAt])

/-- What happens between the loss and the return: calls of others, in an open room. -/
def meanwhile (p : PlayerIndex) (s : StoredRoom) (op : RoomOp) : Prop :=
  Admissible s.room op ∧ comesFromOthers p op ∧ s.room.status ≠ .closed

instance (p : PlayerIndex) (s : StoredRoom) (op : RoomOp) : Decidable (meanwhile p s op) :=
  inferInstanceAs (Decidable (_ ∧ _))

/-- The terms last as long as the room is open. -/
theorem isAwaited_run {ops : List RoomOp} {u : StoredRoom} (h : Reachable relay t)
    (hawaited : IsAwaited p token deadline epoch t.room)
    (hguarded : Guarded (StoredRoom.step relay) (meanwhile p) t ops)
    (hrun : run (StoredRoom.step relay) t ops = some u) (hopen : u.room.status ≠ .closed) :
    Reachable relay u ∧ IsAwaited p token deadline epoch u.room
      ∧ (t.room.roomEpoch = u64Max → u.room.roomEpoch = u64Max) := by
  -- a room that is closed on the way is not the last one
  have hstep : ∀ s op s', (Reachable relay s ∧ (s.room.status = .closed
        ∨ IsAwaited p token deadline epoch s.room)
        ∧ (t.room.roomEpoch = u64Max → s.room.roomEpoch = u64Max)) →
      meanwhile p s op → s.step relay op = some s' →
      Reachable relay s' ∧ (s'.room.status = .closed ∨ IsAwaited p token deadline epoch s'.room)
        ∧ (t.room.roomEpoch = u64Max → s'.room.roomEpoch = u64Max) := by
    rintro s op s' ⟨hs, hterms, hmax⟩ ⟨hadmissible, hothers, hpre⟩ hs'
    refine ⟨reachable_step hs hadmissible hs', ?_, fun ht => ?_⟩
    · by_cases hclosed : s'.room.status = .closed
      · exact .inl hclosed
      · rw [step_room hs'] at hclosed ⊢
        exact .inr (isAwaited_step hs (hterms.resolve_left hpre) hothers hclosed)
    · rw [step_room hs']
      have hsame := hmax ht
      rcases (effect_epochs (applyOp_effect relay s.room op)).bumped.1 with h | h <;> rw [h, hsame]
      rfl
  obtain ⟨hu, hterms, hmax⟩ := invariant_run hstep hguarded hrun ⟨h, .inr hawaited, id⟩
  exact ⟨hu, hterms.resolve_left hopen, hmax⟩

/-- While a room is being repaired, whoever loses its input socket is not waited for. -/
theorem inputLoss_refused {c : ConnectionId} (h : Reachable relay s)
    (hrepairing : s.room.status = .repairingState) (hslot : slot ∈ s.room.players)
    (hc : slot.inputConnectionId = some c) (hunarmed : handoffArmed slot now = false)
    (hindex : request.playerIndex = slot.playerIndex) (hnow : now ≤ request.now) :
    ((applyOp relay s.room (.disconnectInputSocket c now)).reconnectPlayer request).1 ≠ .ok () := by
  have hseats := seats_reachable h
  have hfound := hseats.slotForInputConnection hslot hc
  have hroom : applyOp relay s.room (.disconnectInputSocket c now)
      = s.room.detachInputSocket c slot.playerIndex now :=
    disconnectInputSocket_repairing hfound hrepairing
  intro hok
  rw [hroom] at hok
  obtain ⟨slot', hreturns⟩ := returns_of_reconnectPlayer hok
  have hslot' : slot' = forgetInput now slot := by
    have hplayer : (s.room.detachInputSocket c slot.playerIndex now).slotForPlayer slot.playerIndex
        = some (forgetInput now slot) := by
      rw [slotForPlayer, detachInputSocket_players_eq hseats hfound]
      exact find?_updateFirst (hseats.slotForPlayer hslot) (by simp [forgetInput])
    have hagain := hreturns.found
    rw [hindex, hplayer] at hagain
    exact (Option.some.inj hagain).symm
  subst hslot'
  have hcontrol := hseats.controlOfInput hfound
  rcases hreturns.awaited with harmed | ⟨habsent, _⟩
  · -- the marker, if there is one, has expired
    obtain ⟨marker, hmarker⟩ := Option.isSome_iff_exists.mp harmed
    have hmarker' : slot.runnerHandoffDeadline = some marker := hmarker
    have hearly : request.now < marker := by simpa [hmarker] using hreturns.inTime.2
    have hlate : marker ≤ now := by simpa [handoffArmed, hmarker'] using hunarmed
    exact absurd (Nat.lt_of_le_of_lt hnow hearly) (Nat.not_lt.mpr hlate)
  · have hgone : slot.connectionId = none := habsent
    exact absurd hcontrol (by simp [hgone])

/-- **A lost player may return on the epoch of its session until the grace period is over** exactly
if its seat remembered that epoch. -/
theorem lost_player_returns_iff (h : Reachable relay s) (hrunning : isRunning s.room.status)
    (hslot : slot ∈ s.room.players) (htoken : slot.resumeTokenHash = some token)
    (hloss : lossAt relay s.room slot op = some now) (hunarmed : handoffArmed slot now = false)
    (hstep : s.step relay op = some t) :
    (∀ ops u request, Guarded (StoredRoom.step relay) (meanwhile slot.playerIndex) t ops →
        run (StoredRoom.step relay) t ops = some u → u.room.status ≠ .closed →
        request.playerIndex = slot.playerIndex → request.resumeTokenHash = token →
        request.roomEpoch = s.room.roomEpoch → now ≤ request.now →
        request.now < now + relay.recovery.reconnectGrace →
        (u.room.reconnectPlayer request).1 = .ok ())
      ↔ remembersEpoch s.room slot op ∨ relay.recovery.reconnectGrace = 0 := by
  have hadmissible : Admissible s.room op := by
    cases op <;> first | rfl | exact absurd hloss (by simp [lossAt])
  have ht : Reachable relay t := reachable_step h hadmissible hstep
  constructor
  · intro hall
    by_contra hnot
    obtain ⟨hforgets, hsome⟩ := not_or.mp hnot
    have hgrace : 0 < relay.recovery.reconnectGrace := Nat.pos_of_ne_zero hsome
    -- the first moment after the loss
    let request : PlayerReconnectRequest := ⟨slot.playerIndex, token, [], [], s.room.roomEpoch, ⟨0⟩,
      now, ⟨false, false, false, false, false⟩⟩
    have hask : t.room.status ≠ .closed → (t.room.reconnectPlayer request).1 = .ok () :=
      fun hopen =>
      hall [] t request trivial rfl hopen rfl rfl rfl (Nat.le_refl _)
        (Nat.lt_add_of_pos_right hgrace)
    by_cases hinput : ∀ c now, op = .disconnectInputSocket c now → s.room.status ≠ .repairingState
    · obtain ⟨epoch, ⟨slot', hslot', hterms⟩, hstatus, hroom, hepoch⟩ :=
        loss_awaited h hrunning hslot htoken hloss hunarmed hinput hstep
      rw [hepoch, not_or] at hforgets
      obtain ⟨slot'', hreturns⟩ := returns_of_reconnectPlayer (hask (by rw [hstatus]; simp))
      have hfound := (seats_reachable ht).slotForPlayer hslot'
      rw [hterms.playerIndex] at hfound
      obtain rfl := Option.some.inj (hfound.symm.trans hreturns.found)
      have hpresented := hreturns.epoch
      rw [hterms.epoch, Option.getD_some, hroom, satAdd] at hpresented
      rcases hpresented with hsame | hsame
      · exact hforgets.1 hsame.symm
      · have hmax : s.room.roomEpoch = min (s.room.roomEpoch + 1) u64Max := hsame
        have := hforgets.2
        omega
    · push Not at hinput
      obtain ⟨c, at_, rfl, hrepairing⟩ := hinput
      have hc : slot.inputConnectionId = some c ∧ at_ = now := by simpa [lossAt] using hloss
      obtain ⟨hc, rfl⟩ := hc
      have hrefused : (t.room.reconnectPlayer request).1 ≠ .ok () := by
        rw [step_room hstep]
        exact inputLoss_refused h hrepairing hslot hc hunarmed rfl (Nat.le_refl _)
      refine hrefused (hask ?_)
      have hroom : t.room = s.room.detachInputSocket c slot.playerIndex at_ :=
        (step_room hstep).trans (disconnectInputSocket_repairing
          ((seats_reachable h).slotForInputConnection hslot hc) hrepairing)
      have hstatus : t.room.status = s.room.status := by
        rw [hroom]
        rfl
      rw [hstatus, hrepairing]
      simp
  · rintro (hremembers | hgrace)
    · intro ops u request hguarded hrun hopen hindex hpresented hepochIs _ hnow
      have hinput : ∀ c now, op = .disconnectInputSocket c now →
          s.room.status ≠ .repairingState := by
        rintro c at_ rfl hrepairing
        simp [remembersEpoch, hrepairing] at hremembers
      obtain ⟨epoch, hawaited, _, hroom, hepoch⟩ :=
        loss_awaited h hrunning hslot htoken hloss hunarmed hinput hstep
      obtain ⟨hu, hterms, hmax⟩ := isAwaited_run ht hawaited hguarded hrun hopen
      rw [← hindex, ← hpresented] at hterms
      refine hterms.returns (seats_reachable hu) hopen ?_ hnow
      rw [hepochIs]
      rcases hepoch.mp hremembers with hsame | hlast
      · exact .inl hsame.symm
      · right
        rw [hlast, hmax]
        rw [hroom, hlast]
        rfl
    · intro ops u request _ _ _ _ _ _ hafter hbefore
      rw [hgrace, Nat.add_zero] at hbefore
      exact absurd hbefore (Nat.not_lt.mpr hafter)

/-- The guest of a playing room closes its control socket and may return. -/
theorem lost_player_returns_playing :
    ∃ slot ∈ playingRoom.room.players, ∃ t, slot.resumeTokenHash = some "gr".toList
      ∧ playingRoom.step sampleRelay (.disconnect guestSocket 1) = some t
      ∧ ∀ ops u request, Guarded (StoredRoom.step sampleRelay) (meanwhile slot.playerIndex) t ops →
        run (StoredRoom.step sampleRelay) t ops = some u → u.room.status ≠ .closed →
        request.playerIndex = slot.playerIndex → request.resumeTokenHash = "gr".toList →
        request.roomEpoch = playingRoom.room.roomEpoch → 1 ≤ request.now →
        request.now < 1 + sampleRelay.recovery.reconnectGrace →
        (u.room.reconnectPlayer request).1 = .ok () := by
  have hroom : playingRoom.room.status = .playing
      ∧ (playingRoom.step sampleRelay (.disconnect guestSocket 1)).isSome
      ∧ (playingRoom.room.slotForConnection guestSocket).any fun slot =>
        slot.resumeTokenHash = some "gr".toList && !handoffArmed slot 1
          && remembersEpoch playingRoom.room slot (.disconnect guestSocket 1) := by
    decide +kernel
  obtain ⟨hplaying, hkept, hguest⟩ := hroom
  obtain ⟨t, ht⟩ := Option.isSome_iff_exists.mp hkept
  obtain ⟨slot, hslot, hterms⟩ := (Option.any_eq_true _ _).mp hguest
  simp only [Bool.and_eq_true, decide_eq_true_eq, Bool.not_eq_true'] at hterms
  obtain ⟨⟨htoken, hunarmed⟩, hremembers⟩ := hterms
  have hc : slot.connectionId = some guestSocket := by simpa using List.find?_some hslot
  have hmem := List.mem_of_find?_eq_some hslot
  have hloss : lossAt sampleRelay playingRoom.room slot (.disconnect guestSocket 1) = some 1 := by
    simp [lossAt, hc]
  exact ⟨slot, hmem, t, htoken, ht, (lost_player_returns_iff playingRoom_reachable
    (.inr (.inl hplaying)) hmem htoken hloss hunarmed ht).mpr (.inl hremembers)⟩

/-- The host is lost, comes back through its invite, and a second session begins: the guest's slot
still remembers the first one. -/
def secondSession : List RoomOp :=
  let host : ConnectionId := ⟨5⟩
  let grant : SnapshotFileRelayGrant := ⟨"t".toList, [], sampleManifest 0⟩
  seating false ++ handshake 5 0 ++ [.disconnect hostSocket 0,
    .connectHost "host".toList host "hr2".toList "hi2".toList 1 ⟨true, true, false, false, true⟩,
    .connectInputSocket .one 3 3 "hi2".toList ⟨6⟩ 1,
    .setCompatibility .stored host (sampleFingerprint 5),
    .setCompatibility .stored guestSocket (sampleFingerprint 5),
    .grantSnapshotFileRelayUpload host (sampleManifest 0) ⟨grant, grant⟩,
    .relaySnapshotFileUploadComplete host "t".toList (sampleManifest 0),
    .markReady host none 1,
    .markReady guestSocket none 1]

/-- The guest loses its control socket in the second session and presents its epoch at once. -/
theorem lost_player_refused :
    ∃ s t slot request, Reachable sampleRelay s ∧ s.room.status = .playing
      ∧ s.room.slotForConnection guestSocket = some slot ∧ handoffArmed slot 2 = false
      ∧ s.step sampleRelay (.disconnect guestSocket 2) = some t ∧ t.room.status ≠ .closed
      ∧ request.playerIndex = slot.playerIndex
      ∧ slot.resumeTokenHash = some request.resumeTokenHash
      ∧ request.roomEpoch = s.room.roomEpoch ∧ 2 ≤ request.now
      ∧ request.now < 2 + sampleRelay.recovery.reconnectGrace
      ∧ (t.room.reconnectPlayer request).1 = .error .staleRoomEpoch := by
  let s := after sampleRelay (sampleRoom 5) secondSession
  let request : PlayerReconnectRequest := ⟨.two, "gr".toList, "gr2".toList, "gi2".toList,
    s.room.roomEpoch, ⟨7⟩, 3, ⟨true, true, false, false, true⟩⟩
  have hroom : Possible sampleRelay (sampleRoom 5) secondSession
      ∧ s.room.status = .playing ∧ 2 ≤ request.now
      ∧ request.now < 2 + sampleRelay.recovery.reconnectGrace
      ∧ (s.room.slotForConnection guestSocket).any (fun slot => !handoffArmed slot 2
        && slot.playerIndex = .two && slot.resumeTokenHash = some "gr".toList)
      ∧ (s.step sampleRelay (.disconnect guestSocket 2)).any fun t => t.room.status ≠ .closed
        && (t.room.reconnectPlayer request).1 = .error .staleRoomEpoch := by
    decide +kernel
  obtain ⟨hpossible, hplaying, hafter, hbefore, hguest, hrefused⟩ := hroom
  obtain ⟨slot, hslot, hterms⟩ := (Option.any_eq_true _ _).mp hguest
  obtain ⟨t, ht, herror⟩ := (Option.any_eq_true _ _).mp hrefused
  simp only [Bool.and_eq_true, decide_eq_true_eq, Bool.not_eq_true'] at hterms herror
  exact ⟨s, t, slot, request, reachable_after hpossible, hplaying, hslot, hterms.1.1, ht, herror.1,
    hterms.1.2.symm, hterms.2, by simp only [request], hafter, hbefore, herror.2⟩

end NetplayRelay.Proof
