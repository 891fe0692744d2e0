import NetplayRelay.Proof.Frame

/-!
# How a player is lost

Three things take a seat's sockets away on the server's side: a control socket that closes, the
expiry of a runner handoff, and a heartbeat that stays away. Each is described once here; the
calls that lead to them (a disconnect, the loss of an input socket, the sweep) share the
descriptions.
-/

namespace NetplayRelay.Proof

open Lib Protocol Rooms Registry NetplayRoom

variable {slot : PlayerSlot} {now : Instant} {r : NetplayRoom}

/-! ## Control sockets -/

/-- Both sockets of a seat are gone, with what its player contributed to the session. -/
def detachControl (r : NetplayRoom) (c : ConnectionId) (p : PlayerIndex) (now : Instant) :
    NetplayRoom :=
  (r.updateSlot (·.connectionId = some c) (·.dropTransport now)).removePlayerSync p

/-- An unexpired runner handoff is armed on the slot. -/
def handoffArmed (slot : PlayerSlot) (now : Instant) : Bool :=
  slot.runnerHandoffDeadline.any (now < ·)

/-- What the loss of control socket `c` does. An expired handoff marker is dropped first, which is
why the later branches start from a room `r₁` with the same session. -/
inductive ControlLoss (r : NetplayRoom) (c : ConnectionId) (now : Instant) (grace : Duration) :
    NetplayRoom → Prop
  /-- Nobody holds the socket. -/
  | unknown {r' : NetplayRoom} (hslot : r.slotForConnection c = none) (h : SameSession r r')
      (hside : sideData r' = sideData r) : ControlLoss r c now grace r'
  /-- The seat is kept for the handoff: the sync data is reset, status and epochs stay. -/
  | handoffKept {slot : PlayerSlot} (hslot : r.slotForConnection c = some slot)
      (harmed : handoffArmed slot now) :
      ControlLoss r c now grace
        ((r.updateSlot (·.connectionId = some c)
          (·.preserveHandoff now r.roomEpoch)).removePlayerSync
          slot.playerIndex).resetSyncState
  /-- Another player is being waited for already. -/
  | alsoLost {r₁ : NetplayRoom} {slot₀ slot : PlayerSlot} {epoch : Nat} (hr₁ : SameSession r r₁)
      (hslot₀ : r.slotForConnection c = some slot₀) (hunarmed : handoffArmed slot₀ now = false)
      (hslot : r₁.slotForConnection c = some slot) (hstatus : r.status = .recovering)
      (hside : sideData r₁ = sideData r) :
      ControlLoss r c now grace
        ((detachControl r₁ c slot.playerIndex now).markSlotReconnecting slot.playerIndex now grace
          epoch)
  /-- Recovery starts. -/
  | recovery {r₁ : NetplayRoom} {slot₀ slot : PlayerSlot} {epoch : Nat} (hr₁ : SameSession r r₁)
      (hslot₀ : r.slotForConnection c = some slot₀) (hunarmed : handoffArmed slot₀ now = false)
      (hslot : r₁.slotForConnection c = some slot) (hstatus : r.status.isRecoverable)
      (hfirst : r.status ≠ .recovering) :
      ControlLoss r c now grace
        (((detachControl r₁ c slot.playerIndex now).markSlotReconnecting slot.playerIndex now grace
          epoch).enterRecoveryState epoch)
  /-- Without the host there is no room. -/
  | hostGone {r₁ : NetplayRoom} {slot₀ slot : PlayerSlot} (hr₁ : SameSession r r₁)
      (hslot₀ : r.slotForConnection c = some slot₀) (hunarmed : handoffArmed slot₀ now = false)
      (hslot : r₁.slotForConnection c = some slot) (hhost : slot.role = .host)
      (hstatus : r.status.isRecoverable = false) :
      ControlLoss r c now grace
        ((detachControl r₁ c slot.playerIndex now).clearDisconnectedSlot slot.playerIndex true)
  /-- The guest's seat becomes free. -/
  | guestGone {r₁ : NetplayRoom} {slot₀ slot : PlayerSlot} (hr₁ : SameSession r r₁)
      (hslot₀ : r.slotForConnection c = some slot₀) (hunarmed : handoffArmed slot₀ now = false)
      (hslot : r₁.slotForConnection c = some slot) (hguest : slot.role ≠ .host)
      (hstatus : r.status.isRecoverable = false) :
      ControlLoss r c now grace
        { (detachControl r₁ c slot.playerIndex now).clearDisconnectedSlot slot.playerIndex
          false with
          status := .waitingForGuest }

/-- What follows once no handoff keeps the seat. -/
theorem disconnectWithRecovery_afterHandoff {r r₁ : NetplayRoom} {c : ConnectionId}
    {now : Instant} {grace : Duration} {slot₀ : PlayerSlot} (hr₁ : SameSession r r₁)
    (hslot₀ : r.slotForConnection c = some slot₀) (hunarmed : handoffArmed slot₀ now = false)
    (hside : sideData r₁ = sideData r)
    (h : r.preserveRunnerHandoffDisconnect c now = (.ok false, r₁)) :
    ControlLoss r c now grace (r.disconnectWithRecovery c now grace).2 := by
  rw [disconnectWithRecovery, h]
  cases hslot : r₁.slotForConnection c with
  | none =>
    have hseat := slotForConnection_keeps hr₁.players c
    rw [hslot, hslot₀] at hseat
    exact absurd hseat (by simp)
  | some slot =>
    simp only [hslot]
    split
    · rename_i hrec
      rw [hr₁.status] at hrec
      split
      · rename_i halready
        exact .alsoLost hr₁ hslot₀ hunarmed hslot (hr₁.status ▸ halready) hside
      · rename_i hfirst
        exact .recovery hr₁ hslot₀ hunarmed hslot hrec (hr₁.status ▸ hfirst)
    · rename_i hrec
      rw [hr₁.status] at hrec
      split
      · rename_i hhost
        rw [decide_eq_true hhost]
        exact .hostGone hr₁ hslot₀ hunarmed hslot hhost (by simpa using hrec)
      · rename_i hhost
        rw [decide_eq_false hhost]
        exact .guestGone hr₁ hslot₀ hunarmed hslot hhost (by simpa using hrec)

/-- Under an armed handoff the seat is kept. -/
theorem disconnectWithRecovery_handoffKept {c : ConnectionId} {now : Instant} {slot : PlayerSlot}
    (grace : Duration) (hslot : r.slotForConnection c = some slot)
    (harmed : handoffArmed slot now) :
    r.disconnectWithRecovery c now grace = (.ok false,
      ((r.updateSlot (·.connectionId = some c) (·.preserveHandoff now r.roomEpoch)).removePlayerSync
        slot.playerIndex).resetSyncState) := by
  obtain ⟨deadline, hdeadline, hnow⟩ := (Option.any_eq_true _ _).mp harmed
  have hearly : ¬now ≥ deadline := by simpa using hnow
  have hp : r.preserveRunnerHandoffDisconnect c now = (.ok true,
      ((r.updateSlot (·.connectionId = some c) (·.preserveHandoff now r.roomEpoch)).removePlayerSync
        slot.playerIndex).resetSyncState) := by
    simp only [preserveRunnerHandoffDisconnect, hslot, hdeadline, if_neg hearly]
  rw [disconnectWithRecovery, hp]

/-- Every disconnect is one of the losses. -/
theorem disconnectWithRecovery_loss (r : NetplayRoom) (c : ConnectionId) (now : Instant)
    (grace : Duration) : ControlLoss r c now grace (r.disconnectWithRecovery c now grace).2 := by
  cases hslot : r.slotForConnection c with
  | none =>
    have hp : r.preserveRunnerHandoffDisconnect c now = (.error .unknownConnection, r) := by
      rw [preserveRunnerHandoffDisconnect, hslot]
    rw [disconnectWithRecovery, hp]
    exact .unknown hslot (.refl r) rfl
  | some slot =>
    cases hdeadline : slot.runnerHandoffDeadline with
    | none =>
      refine disconnectWithRecovery_afterHandoff (.refl r) hslot ?_ rfl ?_
      · rw [handoffArmed, hdeadline]
        rfl
      · simp only [preserveRunnerHandoffDisconnect, hslot, hdeadline]
    | some deadline =>
      by_cases hnow : now ≥ deadline
      · have hp : r.preserveRunnerHandoffDisconnect c now = (.ok false,
            r.updateSlot (·.connectionId = some c)
              fun slot => { slot with runnerHandoffDeadline := none }) := by
          simp only [preserveRunnerHandoffDisconnect, hslot, hdeadline, if_pos hnow]
        refine disconnectWithRecovery_afterHandoff ?_ hslot ?_ ?_ hp
        · refine .updateSlot fun slot' hslot' => .of_connected rfl ?_ id
          simp [of_decide_eq_true hslot']
        · simpa [handoffArmed, hdeadline] using hnow
        · rfl
      · have harmed : handoffArmed slot now := by simpa [handoffArmed, hdeadline] using hnow
        rw [disconnectWithRecovery_handoffKept grace hslot harmed]
        exact .handoffKept hslot harmed

/-! ## Handoff expiry -/

/-- A seat that is kept or given up: its holder loses the input socket and the deadline, if any, and
a guest its resume token. -/
def Clears (slot slot' : PlayerSlot) : Prop :=
  Keeps slot slot' ∨ ∃ resume, (resume = slot.resumeTokenHash ∨ resume = none)
    ∧ seat slot' = { seat slot with
      inputConnectionId := none
      resumeTokenHash := resume
      inputSocketTokenHash := none
      inputSocketControlConnectionId := none
      reconnectDeadline := none }

theorem Clears.trans {slot slot' slot'' : PlayerSlot} (h : Clears slot slot')
    (h' : Clears slot' slot'') : Clears slot slot'' := by
  rcases h with h | ⟨resume, hresume, h⟩ <;> rcases h' with h' | ⟨resume', hresume', h'⟩
  · exact .inl (h.trans h')
  · refine .inr ⟨resume', ?_, by rw [h', h.holder]⟩
    rwa [h.resumeTokenHash] at hresume'
  · exact .inr ⟨resume, hresume, h'.holder.trans h⟩
  refine .inr ⟨resume', ?_, by rw [h', h]⟩
  have htoken : slot'.resumeTokenHash = resume := congrArg Seat.resumeTokenHash h
  rcases hresume' with rfl | rfl
  · rw [htoken]
    exact hresume
  · exact .inr rfl

/-- Some seats were given up. Everything negotiated is forgotten. -/
structure SeatsCleared (r r' : NetplayRoom) : Prop where
  core : sessionCore r' = { (sessionCore r).reset 0 with status := r'.status }
  players : List.Forall₂ Clears r.players r'.players

namespace SeatsCleared

variable {r r' r'' : NetplayRoom}

theorem trans (h : SeatsCleared r r') (h' : SeatsCleared r' r'') : SeatsCleared r r'' :=
  ⟨by rw [h'.core, h.core]; rfl, forall₂_trans Clears.trans h.players h'.players⟩

theorem of_same (h : SameSession r r') (h' : SeatsCleared r' r'') : SeatsCleared r r'' :=
  ⟨by rw [h'.core, h.core], forall₂_trans Clears.trans (h.players.imp fun _ _ => Or.inl) h'.players⟩

theorem same (h : SeatsCleared r r') (h' : SameSession r' r'') : SeatsCleared r r'' :=
  ⟨by rw [h'.core, h.core, h'.status],
    forall₂_trans Clears.trans h.players (h'.players.imp fun _ _ => Or.inl)⟩

theorem withStatus (h : SeatsCleared r r') (status : RoomStatus) :
    SeatsCleared r { r' with status := status } :=
  ⟨congrArg (fun core : SessionCore => { core with status := status }) h.core, h.players⟩

theorem clearDisconnectedSlot (r : NetplayRoom) (p : PlayerIndex) (isHost : Bool) :
    SeatsCleared r (r.clearDisconnectedSlot p isHost) := by
  refine ⟨rfl, ?_⟩
  have hedit : List.Forall₂ Clears r.players
      (r.updateSlot (·.playerIndex = p) (·.clearDisconnected isHost)).players := by
    refine forall₂_updateFirst (fun slot => .inl (.refl slot)) fun slot _ => .inr ?_
    cases isHost with
    | true => exact ⟨_, .inl rfl, rfl⟩
    | false => exact ⟨none, .inr rfl, rfl⟩
  have hreset := (resetSyncStateTo_keeps
    (r.updateSlot (·.playerIndex = p) (·.clearDisconnected isHost)) 0).imp
      fun _ _ h => (Or.inl h : Clears _ _)
  exact forall₂_trans Clears.trans hedit hreset

end SeatsCleared

/-- Either only markers were dropped, or seats were given up and the room is closed (the host's
seat) or waiting for a guest. -/
def ExpiryOutcome (r : NetplayRoom) : Option Bool × NetplayRoom → Prop
  | (none, r') => SameSession r r'
  | (some closed, r') =>
    SeatsCleared r r' ∧ r'.status = if closed then .closed else .waitingForGuest

/-- The loop over expired handoffs; `r₀` is the room at its start. -/
theorem expireRunnerHandoffsLoop_outcome {r₀ : NetplayRoom} (expired : List PlayerSlot) :
    ∀ {r : NetplayRoom} {guestCleared : Bool},
      (if guestCleared then SeatsCleared r₀ r else SameSession r₀ r) →
      ExpiryOutcome r₀ (expireRunnerHandoffsLoop r guestCleared expired) := by
  induction expired with
  | nil =>
    intro r guestCleared h
    cases guestCleared with
    | false => exact h
    | true => exact ⟨h.withStatus _, rfl⟩
  | cons slot rest ih =>
    intro r guestCleared h
    rw [expireRunnerHandoffsLoop]
    by_cases hconn : slot.isConnected
    · -- the player is back: only the marker goes
      rw [if_pos hconn]
      apply ih
      have hsame : SameSession r (r.updateSlot (·.playerIndex = slot.playerIndex)
          fun slot => { slot with runnerHandoffDeadline := none }) :=
        .updateSlot fun _ _ => ⟨rfl, fun _ _ => ⟨rfl, rfl⟩, id, rfl⟩
      cases guestCleared with
      | false => exact SameSession.trans h hsame
      | true => exact SeatsCleared.same h hsame
    · rw [if_neg hconn]
      have hcleared : ∀ isHost,
          SeatsCleared r₀ (r.clearDisconnectedSlot slot.playerIndex isHost) := by
        intro isHost
        cases guestCleared with
        | false => exact .of_same h (.clearDisconnectedSlot ..)
        | true => exact SeatsCleared.trans h (.clearDisconnectedSlot ..)
      by_cases hhost : slot.role = .host
      · rw [if_pos hhost, decide_eq_true hhost]
        exact ⟨hcleared true, rfl⟩
      · rw [if_neg hhost, decide_eq_false hhost]
        exact ih (hcleared false)

/-- An expired handoff whose player has not come back. -/
def handoffLapsed (now : Instant) (slot : PlayerSlot) : Bool :=
  handoffExpired now slot && !slot.isConnected

/-- The handoff of the host's seat has lapsed, and with it the room. -/
def hostHandoffLapsed (r : NetplayRoom) (now : Instant) : Bool :=
  r.players.any fun slot => handoffLapsed now slot && slot.role = .host

/-- The handoff of a guest's seat has lapsed. -/
def guestHandoffLapsed (r : NetplayRoom) (now : Instant) : Bool :=
  r.players.any fun slot => handoffLapsed now slot && slot.role ≠ .host

/-- What the loop answers: the host's seat decides, then the guest's. -/
theorem expireRunnerHandoffsLoop_answer (expired : List PlayerSlot) :
    ∀ {r : NetplayRoom} {guestCleared : Bool},
      (expireRunnerHandoffsLoop r guestCleared expired).1
        = if expired.any fun slot => !slot.isConnected && slot.role = .host then some true
          else if guestCleared || expired.any fun slot =>
            !slot.isConnected && slot.role ≠ .host then
            some false
          else none := by
  induction expired with
  | nil =>
    intro r guestCleared
    cases guestCleared <;> rfl
  | cons slot rest ih =>
    intro r guestCleared
    rw [expireRunnerHandoffsLoop]
    by_cases hconn : slot.isConnected
    · rw [if_pos hconn, ih]
      simp [hconn]
    rw [if_neg hconn]
    by_cases hhost : slot.role = .host
    · rw [if_pos hhost]
      simp [hconn, hhost]
    · rw [if_neg hhost, ih]
      simp [hconn, hhost]

theorem expireRunnerHandoffs_answer (r : NetplayRoom) (now : Instant) :
    (r.expireRunnerHandoffs now).1 = if hostHandoffLapsed r now then some true
      else if guestHandoffLapsed r now then some false else none := by
  rw [expireRunnerHandoffs, expireRunnerHandoffsLoop_answer]
  simp only [List.any_filter, hostHandoffLapsed, guestHandoffLapsed, handoffLapsed, Bool.false_or,
    Bool.and_assoc]

theorem expireRunnerHandoffs_outcome (r : NetplayRoom) (now : Instant) :
    ExpiryOutcome r (r.expireRunnerHandoffs now) :=
  expireRunnerHandoffsLoop_outcome _ (SameSession.refl r)

/-- Seats that are given up take the side data along. -/
theorem expireRunnerHandoffsLoop_side {r₀ : NetplayRoom} (expired : List PlayerSlot) :
    ∀ {r : NetplayRoom} {guestCleared : Bool},
      sideData r = (if guestCleared then .fresh 0 else sideData r₀) →
      sideData (expireRunnerHandoffsLoop r guestCleared expired).2
        = if (expireRunnerHandoffsLoop r guestCleared expired).1.isSome then .fresh 0
          else sideData r₀ := by
  induction expired with
  | nil =>
    intro r guestCleared h
    cases guestCleared <;> exact h
  | cons slot rest ih =>
    intro r guestCleared h
    rw [expireRunnerHandoffsLoop]
    by_cases hconn : slot.isConnected
    · rw [if_pos hconn]
      exact ih h
    rw [if_neg hconn]
    by_cases hhost : slot.role = .host
    · rw [if_pos hhost]
      rfl
    · rw [if_neg hhost]
      exact ih rfl

theorem expireRunnerHandoffs_side (r : NetplayRoom) (now : Instant) :
    sideData (r.expireRunnerHandoffs now).2
      = if (r.expireRunnerHandoffs now).1.isSome then .fresh 0 else sideData r :=
  expireRunnerHandoffsLoop_side _ rfl

theorem expireRunnerHandoffs_status (r : NetplayRoom) (now : Instant) :
    (r.expireRunnerHandoffs now).2.status = if hostHandoffLapsed r now then .closed
      else if guestHandoffLapsed r now then .waitingForGuest else r.status := by
  have hanswer := expireRunnerHandoffs_answer r now
  have houtcome := expireRunnerHandoffs_outcome r now
  rcases hresult : r.expireRunnerHandoffs now with ⟨answer, r'⟩
  rw [hresult] at hanswer houtcome
  simp only at hanswer
  by_cases hhost : hostHandoffLapsed r now
  · rw [if_pos hhost] at hanswer ⊢
    subst hanswer
    exact houtcome.2
  · rw [if_neg hhost] at hanswer ⊢
    by_cases hguest : guestHandoffLapsed r now
    · rw [if_pos hguest] at hanswer ⊢
      subst hanswer
      exact houtcome.2
    · rw [if_neg hguest] at hanswer ⊢
      subst hanswer
      exact SameSession.status houtcome

/-! ## Heartbeats -/

/-- A slot keeps its seat, or has lost both sockets and may come back until a deadline. -/
def TimesOut (slot slot' : PlayerSlot) : Prop :=
  Keeps slot slot' ∨ ∃ deadline, seat slot' = { seat slot with
    connectionId := none
    inputConnectionId := none
    inputSocketTokenHash := none
    inputSocketControlConnectionId := none
    reconnectDeadline := some deadline }

theorem TimesOut.trans {slot' slot'' : PlayerSlot} (h : TimesOut slot slot')
    (h' : TimesOut slot' slot'') : TimesOut slot slot'' := by
  rcases h with h | ⟨d, h⟩ <;> rcases h' with h' | ⟨d', h'⟩
  · exact .inl (h.trans h')
  · exact .inr ⟨d', by rw [h', h.holder]⟩
  · exact .inr ⟨d, h'.holder.trans h⟩
  · exact .inr ⟨d', by rw [h', h]⟩

/-- Players who stayed silent too long were dropped and recovery started. -/
structure StaleDropped (r r' : NetplayRoom) : Prop where
  watched : r.status.watchesHeartbeats
  core : sessionCore r' = (sessionCore r).recover
  players : List.Forall₂ TimesOut r.players r'.players
  absent : ∃ slot ∈ r'.players, slot.connectionId = none
  side : sideData r' = .fresh 0

/-- Who is not connected does not become so. -/
theorem TimesOut.absent {slots slots' : List PlayerSlot} (h : List.Forall₂ TimesOut slots slots')
    (habsent : ∃ slot ∈ slots, slot.connectionId = none) :
    ∃ slot ∈ slots', slot.connectionId = none := by
  obtain ⟨slot, hslot, hnone⟩ := habsent
  obtain ⟨slot', hslot', htimes⟩ := forall₂_mem h.flip hslot
  refine ⟨slot', hslot', ?_⟩
  rcases htimes with hkept | ⟨_, hseat⟩
  · exact hkept.connectionId.trans hnone
  · exact congrArg Seat.connectionId hseat

/-- Dropping one player after another: what a reset leaves is the same as before. -/
theorem dropStalePlayers_keeps (now : Instant) (grace : Duration) (stale : List PlayerIndex) :
    ∀ r : NetplayRoom,
      (sessionCore (stale.foldl (dropStalePlayer now grace) r)).reset 0
          = (sessionCore r).reset 0
        ∧ List.Forall₂ TimesOut r.players
            (stale.foldl (dropStalePlayer now grace) r).players := by
  induction stale with
  | nil => exact fun r => ⟨rfl, List.forall₂_same.mpr fun slot _ => .inl (.refl slot)⟩
  | cons p rest ih =>
    intro r
    obtain ⟨hcore, hplayers⟩ := ih (dropStalePlayer now grace r p)
    have hdrop : List.Forall₂ TimesOut r.players
        (dropStalePlayer now grace r p).players :=
      forall₂_updateFirst (fun slot => .inl (.refl slot)) fun _ _ => .inr ⟨now + grace, rfl⟩
    exact ⟨hcore, forall₂_trans TimesOut.trans hdrop hplayers⟩

theorem dropStalePlayers_absent (now : Instant) (grace : Duration) (rest : List PlayerIndex)
    (hslot : slot ∈ r.players) :
    ∃ slot' ∈ ((slot.playerIndex :: rest).foldl (dropStalePlayer now grace) r).players,
      slot'.connectionId = none := by
  rw [List.foldl_cons]
  refine TimesOut.absent (dropStalePlayers_keeps now grace rest _).2 ?_
  cases hfound : r.players.find? (·.playerIndex = slot.playerIndex) with
  | none => exact absurd (decide_eq_true rfl) (List.find?_eq_none.mp hfound slot hslot)
  | some first => exact ⟨_, mem_updateFirst hfound, rfl⟩

/-- Everybody on the list is dropped, on the epoch of the session. -/
theorem dropStalePlayers_players (now : Instant) (grace : Duration) (stale : List PlayerIndex) :
    ∀ r : NetplayRoom, (r.players.map (·.playerIndex)).Nodup →
      (stale.foldl (dropStalePlayer now grace) r).players
        = r.players.map fun slot => if slot.playerIndex ∈ stale then
            (slot.dropTransport now).markReconnecting now grace r.roomEpoch else slot := by
  induction stale with
  | nil => simp
  | cons p rest ih =>
    intro r hnd
    have hfirst : (dropStalePlayer now grace r p).players
        = r.players.map fun slot => if slot.playerIndex = p then
          (slot.dropTransport now).markReconnecting now grace r.roomEpoch else slot := by
      simp only [dropStalePlayer, updateSlot_players, removePlayerSync_players]
      rw [updateFirst_key hnd, updateWhere]
      simp only [decide_eq_true_eq]
    have hindices : (dropStalePlayer now grace r p).players.map (·.playerIndex)
        = r.players.map (·.playerIndex) := by
      rw [hfirst, List.map_map]
      refine List.map_congr_left fun slot _ => ?_
      rw [Function.comp_apply]
      split <;> rfl
    rw [List.foldl_cons, ih _ (hindices ▸ hnd), hfirst, List.map_map]
    refine List.map_congr_left fun slot _ => ?_
    -- a second drop changes nothing
    have hepoch : (dropStalePlayer now grace r p).roomEpoch = r.roomEpoch := rfl
    rw [Function.comp_apply, hepoch]
    by_cases hp : slot.playerIndex = p
    · have hlisted : slot.playerIndex ∈ p :: rest := hp ▸ List.mem_cons_self
      simp only [if_pos hp, if_pos hlisted]
      split <;> rfl
    · rw [if_neg hp]
      simp only [List.mem_cons, hp, false_or]

theorem enterRecoveryState_core (r : NetplayRoom) (epoch : Nat) :
    sessionCore (r.enterRecoveryState epoch) = (sessionCore r).recover := rfl

/-- Starting recovery moves nobody. -/
theorem enterRecoveryState_keeps (r : NetplayRoom) (epoch : Nat) :
    List.Forall₂ Keeps r.players (r.enterRecoveryState epoch).players :=
  forall₂_trans Keeps.trans (resetSyncStateTo_keeps r 0)
    (forall₂_updateWhere Keeps.refl fun _ _ hconnected =>
      .of_connected rfl (Option.isSome_iff_ne_none.mp hconnected) fun _ => rfl)

theorem recoverStaleConnections_outcome (r : NetplayRoom) (now : Instant)
    (heartbeatDisconnect grace : Duration) :
    (r.recoverStaleConnections now heartbeatDisconnect grace).2 = r
      ∨ StaleDropped r (r.recoverStaleConnections now heartbeatDisconnect grace).2 := by
  unfold recoverStaleConnections
  by_cases hwatch : r.status.watchesHeartbeats
  · simp only [hwatch, Bool.not_true, Bool.false_eq_true, if_false]
    split
    · exact .inl rfl
    right
    rename_i hstale
    obtain ⟨hcore, hplayers⟩ := dropStalePlayers_keeps now grace
      ((r.players.filter (·.silentFor now heartbeatDisconnect)).map (·.playerIndex)) r
    refine ⟨hwatch, ?_, forall₂_trans TimesOut.trans hplayers
      ((enterRecoveryState_keeps _ _).imp fun _ _ => Or.inl), ?_, rfl⟩
    · rw [enterRecoveryState_core, SessionCore.recover, hcore, SessionCore.recover]
    refine TimesOut.absent ((enterRecoveryState_keeps _ _).imp fun _ _ => Or.inl) ?_
    cases hsilent : r.players.filter (·.silentFor now heartbeatDisconnect) with
    | nil => simp [hsilent] at hstale
    | cons slot slots =>
      have hmem : slot ∈ r.players.filter (·.silentFor now heartbeatDisconnect) := by
        rw [hsilent]
        exact List.mem_cons_self
      exact dropStalePlayers_absent now grace _ (List.mem_of_mem_filter hmem)
  · simp [hwatch]

/-- Heartbeats either find nobody silent, or the silent players lose their seats' sockets and
recovery starts. -/
theorem recoverStaleConnections_players (now : Instant) (heartbeatDisconnect grace : Duration)
    (hnodup : (r.players.map (·.playerIndex)).Nodup) :
    (r.recoverStaleConnections now heartbeatDisconnect grace).2 = r
      ∨ (∃ slot ∈ r.players, slot.silentFor now heartbeatDisconnect)
        ∧ ∃ dropped : NetplayRoom, dropped.players
            = updateWhere (·.silentFor now heartbeatDisconnect)
                (fun slot => (slot.dropTransport now).markReconnecting now grace r.roomEpoch)
                r.players
          ∧ (r.recoverStaleConnections now heartbeatDisconnect grace).2
            = dropped.enterRecoveryState dropped.roomEpoch := by
  unfold recoverStaleConnections
  split
  · exact .inl rfl
  dsimp only
  split
  · exact .inl rfl
  rename_i hsome
  rw [List.isEmpty_iff, List.map_eq_nil_iff] at hsome
  obtain ⟨slot, hslot⟩ := List.exists_mem_of_ne_nil _ hsome
  rw [List.mem_filter] at hslot
  refine .inr ⟨⟨slot, hslot⟩, _, ?_, rfl⟩
  rw [dropStalePlayers_players now grace _ r hnodup, updateWhere]
  refine List.map_congr_left fun slot hslot => ?_
  have hlisted : slot.playerIndex ∈ (r.players.filter (·.silentFor now heartbeatDisconnect)).map
      (·.playerIndex) ↔ slot.silentFor now heartbeatDisconnect := by
    constructor
    · intro hmem
      obtain ⟨other, hother, hindex⟩ := List.mem_map.mp hmem
      rw [List.mem_filter] at hother
      have hfound := find?_key hnodup hother.1
      rw [hindex, find?_key hnodup hslot] at hfound
      exact Option.some.inj hfound ▸ hother.2
    · exact fun hsilent => List.mem_map_of_mem (List.mem_filter.mpr ⟨hslot, hsilent⟩)
  simp only [hlisted]

/-- Where no heartbeats are watched the sweep ends with the handoffs. -/
theorem sweepRoom_unwatched {relay : Relay} (hpin : r.stateRecoveryPinExpired now = false)
    (h : (r.expireRunnerHandoffs now).2.status.watchesHeartbeats = false) :
    sweepRoom relay r now = (r.expireRunnerHandoffs now).2 := by
  simp [sweepRoom, closeExpiredStateRecovery, hpin, markStaleConnections, h,
    recoverStaleConnections]

/-- A sweep that finds a lapsed handoff does nothing after clearing the seat. -/
theorem sweepRoom_lapsed (relay : Relay) (hpin : r.stateRecoveryPinExpired now = false)
    (h : hostHandoffLapsed r now ∨ guestHandoffLapsed r now) :
    SeatsCleared r (sweepRoom relay r now)
      ∧ (sweepRoom relay r now).status
        = if hostHandoffLapsed r now then .closed else .waitingForGuest := by
  have hstatus : (r.expireRunnerHandoffs now).2.status
      = if hostHandoffLapsed r now then .closed else .waitingForGuest := by
    rw [expireRunnerHandoffs_status]
    split
    · rfl
    · rename_i hhost
      rw [if_pos (h.resolve_left hhost)]
  have hunwatched : (r.expireRunnerHandoffs now).2.status.watchesHeartbeats = false := by
    rw [hstatus]
    split <;> rfl
  rw [sweepRoom_unwatched hpin hunwatched]
  refine ⟨?_, hstatus⟩
  have hanswer := expireRunnerHandoffs_answer r now
  have houtcome := expireRunnerHandoffs_outcome r now
  rcases hresult : r.expireRunnerHandoffs now with ⟨answer, r'⟩
  rw [hresult] at hanswer houtcome
  cases answer with
  | none =>
    by_cases hhost : hostHandoffLapsed r now
    · exact absurd hanswer (by simp [hhost])
    · exact absurd hanswer (by simp [hhost, h.resolve_left hhost])
  | some closed => exact houtcome.1

/-- In a running session the loss of an input socket takes the control socket with it. -/
theorem disconnectInputSocket_running {c control : ConnectionId} {grace : Duration}
    (hslot : r.slotForInputConnection c = some slot) (hcontrol : slot.connectionId = some control)
    (hrunning : r.status.inputLossIsRecoverable) :
    (r.disconnectInputSocket c now grace).2
      = ((r.detachInputSocket c slot.playerIndex now).disconnectWithRecovery control now
        grace).2 := by
  simp only [disconnectInputSocket, hslot, hrunning, hcontrol, if_true]
  split
  · rename_i h
    rw [h]
  · rename_i h
    rw [h]

end NetplayRelay.Proof
