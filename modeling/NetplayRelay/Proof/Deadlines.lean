import NetplayRelay.Proof.Registries
import NetplayRelay.Proof.Sweeps

/-!
# When a seat stays reserved

A lost player's seat is reserved until its reconnect deadline. The deadline stands on the slot, but
a sweep asks the status first: only a recovering room is removed for it. The first player who comes
back takes the room out of recovery, and a handoff of the guest that lapses sends it back to
waiting. From then on nobody looks at the deadline of the other seat.

`strands` says on which rooms a sweep leaves such a seat behind. What the sweep tests is the room
after it has worked on it, so the first half of the module says what this work leaves of the data
the tests read.
-/

namespace NetplayRelay.Proof

open Lib Protocol Rooms Registry NetplayRoom

variable {relay : Relay} {r : NetplayRoom} {s : StoredRoom} {now : Instant}

/-- Some seat's reconnect deadline has come. -/
def overdue (r : NetplayRoom) (now : Instant) : Bool :=
  r.players.any fun slot => slot.reconnectDeadline.any (now ≥ ·)

/-- The room without the seats whose runner handoff has lapsed. -/
def remaining (r : NetplayRoom) (now : Instant) : NetplayRoom :=
  { r with players := r.players.filter fun slot => !handoffLapsed now slot }

/-! ## Seats that are given up -/

/-- What the tests of a sweep read of a seat; `gone` says that the seat was given up. -/
structure Settles (gone : Bool) (slot slot' : PlayerSlot) : Prop where
  playerIndex : slot'.playerIndex = slot.playerIndex
  connectionId : slot'.connectionId = slot.connectionId
  lastSeenAt : slot'.lastSeenAt = slot.lastSeenAt
  isEmpty : slot'.isEmpty = (slot.isEmpty || gone)
  deadline : slot'.reconnectDeadline = if gone then none else slot.reconnectDeadline

theorem Settles.of_edit {slot slot' : PlayerSlot} (hindex : slot'.playerIndex = slot.playerIndex)
    (hcontrol : slot'.connectionId = slot.connectionId) (hseen : slot'.lastSeenAt = slot.lastSeenAt)
    (hstatus : slot'.status = slot.status)
    (hdeadline : slot'.reconnectDeadline = slot.reconnectDeadline) : Settles false slot slot' where
  playerIndex := hindex
  connectionId := hcontrol
  lastSeenAt := hseen
  isEmpty := by rw [PlayerSlot.isEmpty, PlayerSlot.isEmpty, hstatus, Bool.or_false]
  deadline := hdeadline

theorem Settles.refl (slot : PlayerSlot) : Settles false slot slot := .of_edit rfl rfl rfl rfl rfl

theorem Settles.trans {gone gone' : Bool} {slot slot' slot'' : PlayerSlot}
    (h : Settles gone slot slot') (h' : Settles gone' slot' slot'') :
    Settles (gone || gone') slot slot'' where
  playerIndex := h'.playerIndex.trans h.playerIndex
  connectionId := h'.connectionId.trans h.connectionId
  lastSeenAt := h'.lastSeenAt.trans h.lastSeenAt
  isEmpty := by rw [h'.isEmpty, h.isEmpty, Bool.or_assoc]
  deadline := by
    rw [h'.deadline, h.deadline]
    cases gone <;> cases gone' <;> rfl

/-- A guest's seat is given up, the other one is not touched. -/
theorem clearDisconnectedSlot_settles (hnd : (r.players.map (·.playerIndex)).Nodup)
    (p : PlayerIndex) :
    List.Forall₂ (fun slot slot' => Settles (slot.playerIndex = p) slot slot') r.players
      (r.clearDisconnectedSlot p false).players := by
  have hedit : List.Forall₂ (fun slot slot' => Settles (slot.playerIndex = p) slot slot') r.players
      (r.updateSlot (·.playerIndex = p) (·.clearDisconnected false)).players := by
    rw [updateSlot_players, updateFirst_key hnd, updateWhere,
      List.forall₂_map_right_iff, List.forall₂_same]
    intro slot _
    by_cases hslot : slot.playerIndex = p
    · simp only [hslot, decide_true, if_true]
      exact ⟨rfl, rfl, rfl, by simp [PlayerSlot.clearDisconnected, PlayerSlot.isEmpty], rfl⟩
    · simp only [hslot, decide_false, Bool.false_eq_true, if_false]
      exact .refl slot
  rw [clearDisconnectedSlot_players, resetSyncStateTo_players]
  split
  · rw [List.forall₂_map_right_iff]
    refine hedit.imp fun slot slot' h => ?_
    have hreset : Settles false slot' slot'.clearReports := .of_edit rfl rfl rfl rfl rfl
    simpa only [Bool.or_false] using h.trans hreset
  · exact hedit

/-- One of the listed players is absent and had this seat. -/
def givenUp (expired : List PlayerSlot) (p : PlayerIndex) : Bool :=
  expired.any fun slot => p = slot.playerIndex && !slot.isConnected

/-- The loop over expired handoffs, as long as it does not meet an absent host. -/
theorem expireRunnerHandoffsLoop_settles (expired : List PlayerSlot)
    (hhost : ∀ slot ∈ expired, slot.isConnected = false → slot.role ≠ .host) :
    ∀ {r : NetplayRoom} {guestCleared : Bool}, (r.players.map (·.playerIndex)).Nodup →
      List.Forall₂ (fun slot slot' => Settles (givenUp expired slot.playerIndex) slot slot')
        r.players (expireRunnerHandoffsLoop r guestCleared expired).2.players := by
  induction expired with
  | nil =>
    intro r guestCleared _
    have hsame : (expireRunnerHandoffsLoop r guestCleared []).2.players = r.players := by
      cases guestCleared <;> rfl
    rw [hsame]
    exact List.forall₂_same.mpr fun slot _ => .refl slot
  | cons first rest ih =>
    intro r guestCleared hnd
    have ih' := @ih fun slot hslot => hhost slot (List.mem_cons_of_mem _ hslot)
    -- one round of the loop and the rounds after it
    have hround : ∀ {r₁ : NetplayRoom} {cleared : Bool},
        List.Forall₂ (fun slot slot' => Settles
          (slot.playerIndex = first.playerIndex && !first.isConnected) slot slot')
          r.players r₁.players →
        List.Forall₂ (fun slot slot' => Settles (givenUp (first :: rest) slot.playerIndex)
          slot slot') r.players
          (expireRunnerHandoffsLoop r₁ cleared rest).2.players := by
      intro r₁ cleared hround
      have hindices : r₁.players.map (·.playerIndex) = r.players.map (·.playerIndex) :=
        map_eq_of_forall₂ (hround.imp fun _ _ h => h.playerIndex)
      refine forall₂_comp hround (ih' (hindices ▸ hnd)) ?_
      intro a b c hab hbc
      rw [hab.playerIndex] at hbc
      rw [givenUp, List.any_cons]
      exact hab.trans hbc
    rw [expireRunnerHandoffsLoop]
    cases hconnected : first.isConnected with
    | true =>
      rw [if_pos rfl]
      refine hround (forall₂_updateFirst (fun slot => ?_) fun slot _ => ?_)
      all_goals
        rw [hconnected, Bool.not_true, Bool.and_false]
        exact .of_edit rfl rfl rfl rfl rfl
    | false =>
      have hguest : first.role ≠ .host := hhost first List.mem_cons_self hconnected
      rw [if_neg Bool.false_ne_true, if_neg hguest, decide_eq_false hguest]
      refine hround ?_
      rw [hconnected]
      simpa using clearDisconnectedSlot_settles hnd first.playerIndex

/-- **What a sweep leaves of the seats**, as far as it goes on to test them. -/
theorem expireRunnerHandoffs_settles (hseats : Seats r) (hhost : hostHandoffLapsed r now = false) :
    List.Forall₂ (fun slot slot' => Settles (handoffLapsed now slot) slot slot') r.players
      (r.expireRunnerHandoffs now).2.players := by
  have hnd : (r.players.map (·.playerIndex)).Nodup := by
    rw [hseats.indices]
    decide
  have hnoHost : ∀ slot ∈ r.players.filter (handoffExpired now),
      slot.isConnected = false → slot.role ≠ .host := by
    intro slot hslot habsent hrole
    obtain ⟨hmem, hexpired⟩ := List.mem_filter.mp hslot
    have hnot := List.any_eq_false.mp hhost slot hmem
    exact hnot (by simp [handoffLapsed, hexpired, habsent, hrole])
  have hloop : List.Forall₂ (fun slot slot' => Settles
      (givenUp (r.players.filter (handoffExpired now)) slot.playerIndex) slot slot')
      r.players (r.expireRunnerHandoffs now).2.players :=
    expireRunnerHandoffsLoop_settles _ hnoHost hnd
  -- a player index stands for one seat
  have hgone : ∀ slot ∈ r.players, givenUp (r.players.filter (handoffExpired now))
      slot.playerIndex = handoffLapsed now slot := by
    intro slot hslot
    rw [givenUp, List.any_filter, Bool.eq_iff_iff, List.any_eq_true, handoffLapsed]
    constructor
    · rintro ⟨other, hother, h⟩
      simp only [Bool.and_eq_true, decide_eq_true_eq] at h
      have hsame : other = slot := by
        have hfind := find?_key hnd hother
        rw [← h.2.1, find?_key hnd hslot] at hfind
        exact (Option.some.inj hfind).symm
      rw [← hsame, h.1, h.2.2]
      rfl
    · intro h
      exact ⟨slot, hslot, by simpa using h⟩
  have hboth := (List.forall₂_and_left _ _).mpr ⟨hgone, hloop⟩
  exact hboth.imp fun slot slot' h => h.1 ▸ h.2

theorem expireRunnerHandoffs_overdue (hseats : Seats r) (hhost : hostHandoffLapsed r now = false) :
    overdue (r.expireRunnerHandoffs now).2 now = overdue (remaining r now) now := by
  rw [overdue, overdue, remaining, List.any_filter]
  refine any_of_forall₂ (expireRunnerHandoffs_settles hseats hhost) fun slot slot' h => ?_
  rw [h.deadline]
  cases handoffLapsed now slot <;> simp

/-- The idle test, seat by seat. -/
theorem isIdleDisconnected_eq (r : NetplayRoom) (now : Instant) (idleTimeout : Duration) :
    r.isIdleDisconnected now idleTimeout = (r.players.any (!·.isEmpty)
      && r.players.all (fun slot => slot.isEmpty || slot.lastSeenAt.all (now - · ≥ idleTimeout))
      && r.players.all (!·.isConnected)) := by
  have hnobody : (!(r.players.filter (!·.isEmpty)).isEmpty) = r.players.any (!·.isEmpty) := by
    rw [Bool.eq_iff_iff]
    simp
  rw [isIdleDisconnected, hnobody, List.all_filterMap, List.all_filter]
  simp only [Bool.not_not]
  rfl

theorem expireRunnerHandoffs_idle (hseats : Seats r) (hhost : hostHandoffLapsed r now = false)
    (idleTimeout : Duration) :
    (r.expireRunnerHandoffs now).2.isIdleDisconnected now idleTimeout
      = (remaining r now).isIdleDisconnected now idleTimeout := by
  have hsettled := expireRunnerHandoffs_settles hseats hhost
  simp only [isIdleDisconnected_eq, remaining, List.any_filter, List.all_filter]
  congr 1
  · congr 1
    · refine any_of_forall₂ hsettled fun slot slot' h => ?_
      rw [h.isEmpty, Bool.not_or, Bool.and_comm]
    · refine all_of_forall₂ hsettled fun slot slot' h => ?_
      rw [h.isEmpty, h.lastSeenAt]
      cases handoffLapsed now slot <;> simp
  · refine all_of_forall₂ hsettled fun slot slot' h => ?_
    rw [PlayerSlot.isConnected, h.connectionId, ← PlayerSlot.isConnected]
    cases hconnected : slot.isConnected <;> simp [handoffLapsed, hconnected]

/-! ## New deadlines -/

/-- Dropping players gives them the full grace period from now on. -/
theorem dropStalePlayers_deadlines (now : Instant) (grace : Duration) (stale : List PlayerIndex) :
    ∀ r : NetplayRoom,
      List.Forall₂ (fun slot slot' : PlayerSlot => slot'.reconnectDeadline = slot.reconnectDeadline
          ∨ slot'.reconnectDeadline = some (now + grace)) r.players
        (stale.foldl (dropStalePlayer now grace) r).players := by
  induction stale with
  | nil => exact fun r => List.forall₂_same.mpr fun _ _ => .inl rfl
  | cons p rest ih =>
    intro r
    have hdrop : List.Forall₂ (fun slot slot' : PlayerSlot =>
        slot'.reconnectDeadline = slot.reconnectDeadline
          ∨ slot'.reconnectDeadline = some (now + grace)) r.players
        (dropStalePlayer now grace r p).players :=
      forall₂_updateFirst (fun _ => .inl rfl) fun _ _ => .inr rfl
    refine forall₂_trans ?_ hdrop (ih (dropStalePlayer now grace r p))
    rintro a b c hab (hbc | hbc)
    · rw [hbc]
      exact hab
    · exact .inr hbc

theorem recoverStaleConnections_deadlines (r : NetplayRoom) (now : Instant)
    (heartbeatDisconnect grace : Duration) :
    List.Forall₂ (fun slot slot' : PlayerSlot => slot'.reconnectDeadline = slot.reconnectDeadline
        ∨ slot'.reconnectDeadline = some (now + grace)) r.players
      (r.recoverStaleConnections now heartbeatDisconnect grace).2.players := by
  unfold recoverStaleConnections
  split
  · exact List.forall₂_same.mpr fun _ _ => .inl rfl
  dsimp only
  split
  · exact List.forall₂_same.mpr fun _ _ => .inl rfl
  refine forall₂_comp (dropStalePlayers_deadlines now grace _ r) (enterRecoveryState_keeps _ _) ?_
  intro slot slot' slot'' h hkept
  rw [hkept.reconnectDeadline]
  exact h

/-- The heartbeats of a sweep make no seat overdue. -/
theorem sweepRoom_overdue (hgrace : 0 < relay.recovery.reconnectGrace)
    (hpin : r.stateRecoveryPinExpired now = false) (h : overdue (sweepRoom relay r now) now) :
    overdue (r.expireRunnerHandoffs now).2 now := by
  have hmarked : List.Forall₂ (fun slot slot' : PlayerSlot =>
      slot'.reconnectDeadline = slot.reconnectDeadline)
      (r.expireRunnerHandoffs now).2.players (marked relay r now).players := by
    simp only [marked, markStaleConnections]
    split
    · exact List.forall₂_same.mpr fun _ _ => rfl
    · exact forall₂_updateWhere (fun _ => rfl) fun _ _ _ => rfl
  rw [sweepRoom_eq hpin] at h
  obtain ⟨slot', hslot', hoverdue⟩ := List.any_eq_true.mp h
  obtain ⟨slot₂, hslot₂, hdeadline⟩ :=
    forall₂_mem (recoverStaleConnections_deadlines _ now _ _) hslot'
  obtain ⟨slot, hslot, hsame⟩ := forall₂_mem hmarked hslot₂
  refine List.any_eq_true.mpr ⟨slot, hslot, ?_⟩
  rcases hdeadline with hold | hnew
  · rwa [← hsame, ← hold]
  -- a deadline set in this sweep is not due in it
  rw [hnew] at hoverdue
  have hdue : now + relay.recovery.reconnectGrace ≤ now := by simpa using hoverdue
  exact absurd hdue (Nat.not_le.mpr (Nat.lt_add_of_pos_right hgrace))

/-! ## Sweeps -/

/-- The sweep leaves a seat behind whose deadline has come: the room is not recovering any more, or
stops recovering in this sweep, and neither of the other tests removes it. -/
def strands (relay : Relay) (s : StoredRoom) (now : Instant) : Bool :=
  overdue (remaining s.room now) now && !hostHandoffLapsed s.room now
    && (guestHandoffLapsed s.room now || s.room.status ≠ .recovering)
    && !((guestHandoffLapsed s.room now || s.room.status = .waitingForGuest)
      && now - s.createdAt ≥ relay.joinTimeout)
    && !(remaining s.room now).isIdleDisconnected now relay.recovery.roomIdle

theorem sweepRemoves_overdue (hs : Reachable relay s) (h : overdue (remaining s.room now) now) :
    sweepRoom relay s.room now = (s.room.expireRunnerHandoffs now).2
      ∧ s.sweepRemoves relay now = !strands relay s now := by
  have hseats := seats_reachable hs
  -- somebody is waited for, so no session is left to watch
  have hidle : Idle (sessionCore s.room) := by
    refine waited_reachable hs (.inr ?_)
    obtain ⟨slot, hslot, hdue⟩ := List.any_eq_true.mp h
    refine ⟨slot, List.mem_of_mem_filter hslot, ?_⟩
    obtain ⟨deadline, hdeadline, _⟩ := (Option.any_eq_true _ _).mp hdue
    rw [hdeadline]
    rfl
  have hpin : s.room.stateRecoveryPinExpired now = false := by
    have hnone : s.room.stateRecovery = none := hidle.noRecovery
    simp [stateRecoveryPinExpired, hnone]
  have hstatus := expireRunnerHandoffs_status s.room now
  have hunwatched : (s.room.expireRunnerHandoffs now).2.status.watchesHeartbeats = false := by
    rw [hstatus]
    split
    · rfl
    · split
      · rfl
      · exact isWaiting_unwatched hidle.status
  have hswept : sweepRoom relay s.room now = (s.room.expireRunnerHandoffs now).2 :=
    sweepRoom_unwatched hpin hunwatched
  refine ⟨hswept, ?_⟩
  have hanswer := expireRunnerHandoffs_answer s.room now
  cases hhost : hostHandoffLapsed s.room now with
  | true =>
    rw [hhost, if_pos rfl] at hanswer
    simp [StoredRoom.sweepRemoves, hanswer, strands, hhost]
  | false =>
    have hoverdue : overdue (s.room.expireRunnerHandoffs now).2 now :=
      (expireRunnerHandoffs_overdue hseats hhost).trans h
    have hexpired : (s.room.expireRunnerHandoffs now).2.isRecoveryExpired now
        = decide ((s.room.expireRunnerHandoffs now).2.status = .recovering) := by
      rw [isRecoveryExpired, ← overdue, hoverdue, Bool.and_true]
    rw [hhost, if_neg Bool.false_ne_true] at hanswer hstatus
    simp only [StoredRoom.sweepRemoves, hswept, closeExpiredStateRecovery, hpin,
      StoredRoom.isExpiredWaiting, hexpired, expireRunnerHandoffs_idle hseats hhost, hanswer,
      hstatus, strands, h, hhost]
    cases guestHandoffLapsed s.room now <;> simp [Bool.not_and, Bool.or_assoc, Bool.or_comm]

/-- **One room.** The sweep keeps it with an overdue seat exactly if it strands. -/
theorem sweep_overdue_iff (hs : Reachable relay s) (hgrace : 0 < relay.recovery.reconnectGrace) :
    (∃ t, s.step relay (.sweep now) = some t ∧ overdue t.room now) ↔ strands relay s now := by
  have hremoved : s.removedBy relay (.sweep now) = s.sweepRemoves relay now := rfl
  constructor
  · rintro ⟨t, ht, hoverdue⟩
    have hkept : s.sweepRemoves relay now = false := by
      rw [← hremoved]
      by_contra h
      rw [StoredRoom.step, if_pos (by simpa using h)] at ht
      exact absurd ht (by simp)
    rw [step_room ht] at hoverdue
    have hfirst := sweepRoom_overdue hgrace (step_sweep_pin ht) hoverdue
    have hhost : hostHandoffLapsed s.room now = false := by
      by_contra h
      have hanswer := expireRunnerHandoffs_answer s.room now
      rw [if_pos (by simpa using h)] at hanswer
      exact absurd hkept (by simp [StoredRoom.sweepRemoves, hanswer])
    rw [expireRunnerHandoffs_overdue (seats_reachable hs) hhost] at hfirst
    rw [(sweepRemoves_overdue hs hfirst).2] at hkept
    simpa using hkept
  · intro hstrands
    have hoverdue : overdue (remaining s.room now) now := by
      simp only [strands, Bool.and_eq_true] at hstrands
      exact hstrands.1.1.1.1
    have hhost : hostHandoffLapsed s.room now = false := by
      simp only [strands, Bool.and_eq_true] at hstrands
      simpa using hstrands.1.1.1.2
    obtain ⟨hswept, hkept⟩ := sweepRemoves_overdue hs hoverdue
    refine ⟨_, by rw [StoredRoom.step, hremoved, hkept, hstrands]; rfl, ?_⟩
    have hroom : applyOp relay s.room (.sweep now) = (s.room.expireRunnerHandoffs now).2 := hswept
    rw [hroom, expireRunnerHandoffs_overdue (seats_reachable hs) hhost]
    exact hoverdue

theorem overdue_eq_false {r : NetplayRoom} {now : Instant} :
    overdue r now = false
      ↔ ∀ slot ∈ r.players, ∀ deadline, slot.reconnectDeadline = some deadline →
        now < deadline := by
  simp only [overdue, List.any_eq_false, Option.any_eq_true, not_exists, not_and,
    decide_eq_true_eq, ge_iff_le, Nat.not_le]

/-! ## Registries -/

/-- **No seat stays reserved beyond its deadline** exactly if no stored room strands. -/
theorem no_seat_overstays (relay : Relay) (registry : RoomRegistry) (now : Instant)
    (hreachable : RegistryReachable relay registry) (hgrace : 0 < relay.recovery.reconnectGrace) :
    (∀ code s, (RoomRegistry.sweepExpiredRooms relay registry now).2.stored.lookup code = some s →
        ∀ slot ∈ s.room.players, ∀ deadline, slot.reconnectDeadline = some deadline →
          now < deadline)
      ↔ ∀ code s, registry.stored.lookup code = some s → strands relay s now = false := by
  simp only [← overdue_eq_false, sweepExpiredRooms_lookup]
  constructor
  · intro h code s hs
    by_contra hstrands
    obtain ⟨t, ht, hoverdue⟩ := (sweep_overdue_iff (registry_rooms_reachable hreachable code s hs)
      hgrace).mpr (by simpa using hstrands)
    have hnone := h code t (by rw [hs, Option.bind_some, ht])
    exact absurd (hoverdue.symm.trans hnone) (by simp)
  · intro h code t ht
    obtain ⟨s, hs, hstep⟩ := Option.bind_eq_some_iff.mp ht
    by_contra hoverdue
    have hstrands := (sweep_overdue_iff (registry_rooms_reachable hreachable code s hs) hgrace).mp
      ⟨t, hstep, by simpa using hoverdue⟩
    exact absurd (hstrands.symm.trans (h code s hs)) (by simp)

/-- The registry with one room after some calls. -/
def sampleRegistry (ops : List RoomOp) : RoomRegistry :=
  (storedHistory ops).foldl (RoomRegistry.apply sampleRelay) Intake.empty

/-- The host is lost in full swing. -/
def hostLost : List RoomOp := seating false ++ handshake 5 0 ++ [.disconnect hostSocket 0]

/-- The room is recovering when its deadline comes, and goes. -/
theorem no_seat_overstays_hostLost :
    (sampleRegistry hostLost).stored.entries.length = 1
      ∧ ∀ code s, (RoomRegistry.sweepExpiredRooms sampleRelay (sampleRegistry hostLost)
        (secs 100)).2.stored.lookup code = some s →
      ∀ slot ∈ s.room.players, ∀ deadline, slot.reconnectDeadline = some deadline →
        secs 100 < deadline := by
  have hsample : Guarded (fun registry op => some (RoomRegistry.apply sampleRelay registry op))
        RegistryAdmissible Intake.empty (storedHistory hostLost)
      ∧ (sampleRegistry hostLost).stored.entries.length = 1
      ∧ (sampleRegistry hostLost).stored.entries.all
        fun entry => strands sampleRelay entry.2 (secs 100) = false := by
    decide +kernel
  refine ⟨hsample.2.1, (no_seat_overstays sampleRelay (sampleRegistry hostLost) (secs 100)
    (registry_reachable_foldl hsample.1) (by decide)).mpr ?_⟩
  intro code s hs
  have hentry := List.all_eq_true.mp hsample.2.2 _ (AList.mem_lookup_iff.mp hs)
  exact of_decide_eq_true hentry

/-- Both players are lost and the guest comes back: the room is checking compatibility when the
host's deadline comes, and the sweep keeps it with the host's seat reserved. -/
theorem seat_overstays :
    ∃ relay registry now, 0 < relay.recovery.reconnectGrace ∧ RegistryReachable relay registry
      ∧ ∃ code s, (RoomRegistry.sweepExpiredRooms relay registry now).2.stored.lookup code = some s
        ∧ ∃ slot ∈ s.room.players, ∃ deadline, slot.reconnectDeadline = some deadline
          ∧ deadline ≤ now := by
  let ops : List RoomOp := seating false ++ handshake 5 0 ++ [.disconnect hostSocket 0,
    .disconnect guestSocket 0, .reconnectPlayer ⟨.two, "gr".toList, "gr2".toList, "gi2".toList, 3,
      ⟨5⟩, secs 50, ⟨true, true, false, false, true⟩⟩]
  have hsample : Guarded (fun registry op => some (RoomRegistry.apply sampleRelay registry op))
        RegistryAdmissible Intake.empty (storedHistory ops)
      ∧ ((RoomRegistry.sweepExpiredRooms sampleRelay (sampleRegistry ops)
          (secs 100)).2.stored.lookup sampleCode.normalized).any fun s => s.room.players.any
            fun slot =>
        slot.reconnectDeadline.any (· ≤ secs 100) := by
    decide +kernel
  obtain ⟨hguarded, hkept⟩ := hsample
  obtain ⟨s, hs, hroom⟩ := (Option.any_eq_true _ _).mp hkept
  obtain ⟨slot, hslot, hdue⟩ := List.any_eq_true.mp hroom
  obtain ⟨deadline, hdeadline, hle⟩ := (Option.any_eq_true _ _).mp hdue
  exact ⟨sampleRelay, sampleRegistry ops, secs 100, by decide, registry_reachable_foldl hguarded,
    sampleCode.normalized, s, hs, slot, hslot, deadline, hdeadline, of_decide_eq_true hle⟩

end NetplayRelay.Proof
