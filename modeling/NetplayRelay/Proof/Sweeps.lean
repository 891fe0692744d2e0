import NetplayRelay.Proof.Waiting

/-!
# What a sweep leaves

A sweep looks at the pin of a state recovery, at the handoffs and at the heartbeats of a room, in
this order. Here is what it leaves of slots and of the session when it does not drop the room.
-/

namespace NetplayRelay.Proof

open Lib Protocol Rooms Registry NetplayRoom

variable {relay : Relay} {r r' : NetplayRoom} {now : Instant}

/-! ## Handoffs -/

/-- At most the handoff marker is gone. -/
def Unmarks (slot slot' : PlayerSlot) : Prop :=
  slot' = slot ∨ slot' = { slot with runnerHandoffDeadline := none }

theorem Unmarks.silentFor {slot slot' : PlayerSlot} (h : Unmarks slot slot') (now : Instant)
    (age : Duration) : slot'.silentFor now age = slot.silentFor now age := by
  rcases h with rfl | rfl <;> rfl

/-- Handoffs that expired under a connected player lose their markers. -/
theorem expireRunnerHandoffsLoop_unmarks (expired : List PlayerSlot)
    (hexpired : ∀ slot ∈ expired, slot.isConnected) :
    ∀ r : NetplayRoom, List.Forall₂ Unmarks r.players
      (expireRunnerHandoffsLoop r false expired).2.players := by
  induction expired with
  | nil => exact fun r => List.forall₂_same.mpr fun _ _ => .inl rfl
  | cons slot rest ih =>
    intro r
    rw [expireRunnerHandoffsLoop, if_pos (hexpired slot List.mem_cons_self)]
    have hedit : List.Forall₂ Unmarks r.players
        (r.updateSlot (·.playerIndex = slot.playerIndex)
          fun slot => { slot with runnerHandoffDeadline := none }).players :=
      forall₂_updateFirst (fun _ => .inl rfl) fun _ _ => .inr rfl
    have hrest := ih (fun slot hslot => hexpired slot (List.mem_cons_of_mem _ hslot))
      (r.updateSlot (·.playerIndex = slot.playerIndex)
        fun slot => { slot with runnerHandoffDeadline := none })
    refine forall₂_trans ?_ hedit hrest
    rintro a b c (rfl | rfl) (rfl | rfl)
    · exact .inl rfl
    · exact .inr rfl
    · exact .inr rfl
    · exact .inr rfl

theorem expireRunnerHandoffs_unmarks (hhost : hostHandoffLapsed r now = false)
    (hguest : guestHandoffLapsed r now = false) :
    List.Forall₂ Unmarks r.players (r.expireRunnerHandoffs now).2.players := by
  refine expireRunnerHandoffsLoop_unmarks _ ?_ r
  intro slot hslot
  obtain ⟨hmem, hexpired⟩ := List.mem_filter.mp hslot
  by_contra hconnected
  simp only [hostHandoffLapsed, guestHandoffLapsed, handoffLapsed,
    List.any_eq_false] at hhost hguest
  have hnotHost := hhost slot hmem
  have hnotGuest := hguest slot hmem
  simp_all

theorem expireRunnerHandoffs_same (hhost : hostHandoffLapsed r now = false)
    (hguest : guestHandoffLapsed r now = false) : SameSession r (r.expireRunnerHandoffs now).2 := by
  have hanswer := expireRunnerHandoffs_answer r now
  have houtcome := expireRunnerHandoffs_outcome r now
  rw [hhost, hguest] at hanswer
  rcases hresult : r.expireRunnerHandoffs now with ⟨answer, r'⟩
  rw [hresult] at hanswer houtcome
  obtain rfl : answer = none := hanswer
  exact houtcome

/-! ## Heartbeats -/

/-- Some player has been silent for too long, in a status in which that counts. -/
def heartbeatLost (relay : Relay) (r : NetplayRoom) (now : Instant) : Bool :=
  r.status.watchesHeartbeats
    && r.players.any (·.silentFor now relay.recovery.heartbeatDisconnect)

theorem markStaleConnections_silent (r : NetplayRoom) (now : Instant) (stale lost age : Duration) :
    (r.markStaleConnections now stale lost).2.players.any (·.silentFor now age)
      = r.players.any (·.silentFor now age) := by
  unfold markStaleConnections
  split
  · rfl
  · exact any_of_forall₂ (R := fun slot slot' => slot'.silentFor now age = slot.silentFor now age)
      (forall₂_updateWhere (fun _ => rfl) fun _ _ _ => rfl) fun _ _ h => h

theorem markStaleConnections_core (r : NetplayRoom) (now : Instant) (stale lost : Duration) :
    sessionCore (r.markStaleConnections now stale lost).2 = sessionCore r := by
  unfold markStaleConnections
  split <;> rfl

/-- Recovery starts exactly if a heartbeat is lost. -/
theorem recoverStaleConnections_cases (relay : Relay) (r : NetplayRoom) (now : Instant) :
    let next := (r.recoverStaleConnections now relay.recovery.heartbeatDisconnect
      relay.recovery.reconnectGrace).2
    (heartbeatLost relay r now = false ∧ next = r)
      ∨ (heartbeatLost relay r now = true ∧ sessionCore next = (sessionCore r).recover
        ∧ sideData next = .fresh 0) := by
  unfold recoverStaleConnections heartbeatLost
  by_cases hwatch : r.status.watchesHeartbeats
  · simp only [hwatch, Bool.not_true, Bool.false_eq_true, if_false, Bool.true_and]
    by_cases hsilent : r.players.any (·.silentFor now relay.recovery.heartbeatDisconnect)
    · have hstale : ((r.players.filter (·.silentFor now relay.recovery.heartbeatDisconnect)).map
          (·.playerIndex)).isEmpty = false := by
        simpa using hsilent
      obtain ⟨hcore, _⟩ := dropStalePlayers_keeps now relay.recovery.reconnectGrace
        ((r.players.filter (·.silentFor now relay.recovery.heartbeatDisconnect)).map
          (·.playerIndex)) r
      rw [if_neg (by simp [hstale])]
      refine .inr ⟨hsilent, ?_, rfl⟩
      rw [enterRecoveryState_core, SessionCore.recover, hcore, SessionCore.recover]
    · have hstale : ((r.players.filter (·.silentFor now relay.recovery.heartbeatDisconnect)).map
          (·.playerIndex)).isEmpty := by
        simpa using hsilent
      rw [if_pos hstale]
      exact .inl ⟨by simpa using hsilent, rfl⟩
  · simp [hwatch]

/-- The room in which a sweep looks for players who are gone. -/
def marked (relay : Relay) (r : NetplayRoom) (now : Instant) : NetplayRoom :=
  ((r.expireRunnerHandoffs now).2.markStaleConnections now relay.recovery.heartbeatStale
    relay.recovery.heartbeatDisconnect).2

theorem sweepRoom_eq (hpin : r.stateRecoveryPinExpired now = false) :
    sweepRoom relay r now = ((marked relay r now).recoverStaleConnections now
      relay.recovery.heartbeatDisconnect relay.recovery.reconnectGrace).2 := by
  simp [sweepRoom, closeExpiredStateRecovery, hpin, marked]

theorem marked_core (hhost : hostHandoffLapsed r now = false)
    (hguest : guestHandoffLapsed r now = false) :
    sessionCore (marked relay r now) = sessionCore r :=
  (markStaleConnections_core _ now _ _).trans (expireRunnerHandoffs_same hhost hguest).core

theorem marked_lost (hhost : hostHandoffLapsed r now = false)
    (hguest : guestHandoffLapsed r now = false) :
    heartbeatLost relay (marked relay r now) now = heartbeatLost relay r now := by
  have hsilent := any_of_forall₂ (expireRunnerHandoffs_unmarks hhost hguest)
    fun _ _ h => Unmarks.silentFor h now relay.recovery.heartbeatDisconnect
  have hstatus : (marked relay r now).status = r.status :=
    congrArg (·.status) (marked_core hhost hguest)
  rw [heartbeatLost, heartbeatLost, hstatus, marked, markStaleConnections_silent, hsilent]

/-- What a sweep that finds no lapsed handoff leaves of the session. -/
theorem sweepRoom_core (relay : Relay) (hpin : r.stateRecoveryPinExpired now = false)
    (hhost : hostHandoffLapsed r now = false) (hguest : guestHandoffLapsed r now = false) :
    sessionCore (sweepRoom relay r now)
      = if heartbeatLost relay r now then (sessionCore r).recover else sessionCore r := by
  have hcore : sessionCore (marked relay r now) = sessionCore r := marked_core hhost hguest
  rw [sweepRoom_eq hpin, ← marked_lost hhost hguest, ← hcore]
  rcases recoverStaleConnections_cases relay (marked relay r now) now with
    ⟨hkept, hsame⟩ | ⟨hlost, hrecovers, _⟩
  · rw [hkept, hsame]
    rfl
  · rw [hlost, hrecovers]
    rfl

/-- What a sweep of a room without an expired pin leaves beside the session. -/
theorem sweepRoom_side (relay : Relay) (hpin : r.stateRecoveryPinExpired now = false) :
    sideData (sweepRoom relay r now)
      = if hostHandoffLapsed r now || guestHandoffLapsed r now || heartbeatLost relay r now
        then .fresh 0 else sideData r := by
  have hmarked : sideData (marked relay r now)
      = if hostHandoffLapsed r now || guestHandoffLapsed r now then .fresh 0 else sideData r := by
    rw [marked, (markStaleConnections_same _ _ _ _).2, expireRunnerHandoffs_side,
      expireRunnerHandoffs_answer]
    cases hostHandoffLapsed r now <;> cases guestHandoffLapsed r now <;> rfl
  have hbeats := recoverStaleConnections_cases relay (marked relay r now) now
  rw [sweepRoom_eq hpin]
  cases hlapsed : hostHandoffLapsed r now || guestHandoffLapsed r now with
  | true =>
    rw [hlapsed] at hmarked
    rcases hbeats with ⟨_, hsame⟩ | ⟨_, _, hfresh⟩
    · rw [hsame, hmarked]
      rfl
    · exact hfresh
  | false =>
    obtain ⟨hhost, hguest⟩ := Bool.or_eq_false_iff.mp hlapsed
    rw [hlapsed] at hmarked
    rw [Bool.false_or, ← marked_lost hhost hguest]
    rcases hbeats with ⟨hkept, hsame⟩ | ⟨hlost, _, hfresh⟩
    · rw [hkept, hsame, hmarked]
    · rw [hlost, hfresh, if_pos rfl]

end NetplayRelay.Proof
