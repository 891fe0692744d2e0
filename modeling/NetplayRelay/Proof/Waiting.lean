import NetplayRelay.Proof.Seats

/-!
# Waiting for a player

While a room is recovering, or some seat has a reconnect deadline, nothing of a session is left:
no pause, no clock request, no input, no release. This is what makes it harmless that a returning
player resets the room on the current epochs.

The two conditions are kept apart because they do not coincide. The host may come back through its
invite, which clears its deadline and leaves the room recovering; and a fingerprint that is
rejected takes a recovering room back to the compatibility check while the deadline runs on.
-/

namespace NetplayRelay.Proof

open Lib Protocol Rooms Registry NetplayRoom

/-- Statuses in which nobody is playing or about to. -/
def isWaiting : RoomStatus → Bool
  | .waitingForGuest | .checkingCompatibility | .recovering | .closed => true
  | _ => false

theorem isWaiting_unwatched {status : RoomStatus} (h : isWaiting status) :
    status.watchesHeartbeats = false := by
  cases status <;> first | rfl | cases h

/-- Nothing of a session is left. -/
structure Idle (core : SessionCore) : Prop where
  status : isWaiting core.status
  noRequest : core.clockSyncRequest = none
  noPause : core.pausing = false
  noInput : core.nextInputFrames = ∅
  start : core.syncStartFrame = 0
  release : core.nextReleaseFrame = 0
  noStart : core.scheduledStart = none
  noRecovery : core.stateRecovery = none

def HasDeadline (r : NetplayRoom) : Prop := ∃ slot ∈ r.players, slot.reconnectDeadline.isSome

/-- The room waits for a lost player. -/
def Waited (r : NetplayRoom) : Prop := r.status = .recovering ∨ HasDeadline r

variable {relay : Relay} {r r' : NetplayRoom}

/-- A seat with a deadline is not connected. -/
theorem HasDeadline.not_full (h : HasDeadline r) (hseats : Seats r) :
    r.connectedPlayerIndices.length ≠ r.maxPlayers := by
  obtain ⟨slot, hslot, hdeadline⟩ := h
  intro hall
  have hconnected := full_of_connected hseats hall slot hslot
  rw [PlayerSlot.isConnected, (hseats.seated slot hslot).lost hdeadline] at hconnected
  exact absurd hconnected (by simp)

theorem seatChange_waited {op : RoomOp} (h : SeatChange r op r') (hwaited : Waited r') :
    r'.status = .recovering ∨ HasDeadline r := by
  rcases hwaited with hstatus | ⟨slot', hslot', hdeadline⟩
  · exact .inl hstatus
  cases h with
  | kept h =>
    obtain ⟨slot, hslot, hs⟩ := forall₂_mem h hslot'
    exact .inr ⟨slot, hslot, hs.reconnectDeadline ▸ hdeadline⟩
  | attached _ hedit hrest =>
    obtain ⟨slot₁, hslot₁, hs⟩ := forall₂_mem hrest hslot'
    have hdeadline₁ : slot₁.reconnectDeadline.isSome := hs.reconnectDeadline ▸ hdeadline
    have hrel := forall₂_updateFirst (R := fun slot slot' : PlayerSlot =>
      slot'.reconnectDeadline.isSome → slot.reconnectDeadline.isSome) (fun _ => id)
      fun slot hslot => (hedit slot hslot).deadline
    obtain ⟨slot, hslot, hdeadline₀⟩ := forall₂_mem hrel hslot₁
    exact .inr ⟨slot, hslot, hdeadline₀ hdeadline₁⟩
  | yielded _ h =>
    obtain ⟨slot, hslot, hs⟩ := forall₂_mem h hslot'
    exact .inr ⟨slot, hslot, hs.deadline hdeadline⟩
  | dropped _ hstatus => exact .inl hstatus

/-- A reset leaves nothing of a session. -/
theorem Idle.reset {core : SessionCore} (h : isWaiting core.status) :
    Idle (core.reset 0) := ⟨h, rfl, rfl, rfl, rfl, rfl, rfl, rfl⟩

/-- Nothing of what is idle depends on the other parts of the session. -/
theorem Idle.of_same (h : SameSession r r') (hidle : Idle (sessionCore r)) :
    Idle (sessionCore r') := by
  rw [h.core]
  exact hidle

/-- Forgetting one player's input changes nothing where there is none. -/
theorem Idle.forgetInput {core : SessionCore} (hidle : Idle core) (p : PlayerIndex) :
    Idle { core with nextInputFrames := core.nextInputFrames.erase p } := by
  refine { hidle with noInput := ?_ }
  rw [hidle.noInput]
  rfl

theorem controlLoss_idle {c : ConnectionId} {now : Instant} {grace : Duration}
    (hinv : r'.status = r.status → Idle (sessionCore r)) (h : ControlLoss r c now grace r') :
    Idle (sessionCore r') := by
  cases h with
  | unknown _ h => exact (hinv h.status).of_same h
  | handoffKept => exact Idle.reset (hinv rfl).status
  | @alsoLost r₁ _ slot _ hr₁ _ _ _ hstatus =>
    have hidle := (Idle.of_same hr₁ (hinv hr₁.status)).forgetInput slot.playerIndex
    exact ⟨hidle.status, hidle.noRequest, hidle.noPause, hidle.noInput, hidle.start,
      hidle.release, hidle.noStart, hidle.noRecovery⟩
  | recovery | hostGone | guestGone => exact ⟨rfl, rfl, rfl, rfl, rfl, rfl, rfl, rfl⟩

/-- While a player is waited for, every call leaves the room idle. -/
theorem effect_idle {op : RoomOp} (hseats : Seats r) (hinv : Waited r → Idle (sessionCore r))
    (h : Effect relay r op r') (hwait : r'.status = .recovering ∨ HasDeadline r) :
    Idle (sessionCore r') := by
  -- the status is as it was
  have hsame : r'.status = r.status → Idle (sessionCore r) := by
    intro hstatus
    rcases hwait with hrecovering | hdeadline
    · exact hinv (.inl (hstatus ▸ hrecovering))
    · exact hinv (.inr hdeadline)
  -- the status is a new one, other than recovering
  have hdeadline : r'.status ≠ .recovering → HasDeadline r := fun h => hwait.resolve_left h
  have hmoved : r'.status ≠ .recovering → Idle (sessionCore r) := fun h => hinv (.inr (hdeadline h))
  -- nobody is waited for in a session, so only the start of recovery is left
  have hbusy : isWaiting r.status = false → r'.status = .recovering := by
    intro hstatus
    by_contra hne
    exact absurd ((hmoved hne).status.symm.trans hstatus) (by simp)
  cases h with
  | bookkeeping h => exact (hsame h.status).of_same h
  | joined | reconnected | exited => exact ⟨rfl, rfl, rfl, rfl, rfl, rfl, rfl, rfl⟩
  | handoffReconnected | inputAttached => exact hsame rfl
  | hostAttached | fingerprintStored | linkStored | snapshotCompleted | sampleStored
  | voteCounted =>
    have hidle := hsame rfl
    exact ⟨hidle.status, hidle.noRequest, hidle.noPause, hidle.noInput, hidle.start,
      hidle.release, hidle.noStart, hidle.noRecovery⟩
  | controlLost h => exact controlLoss_idle hsame h
  | inputLost => exact (hsame rfl).forgetInput _
  | inputAndControlLost _ _ _ h =>
    refine controlLoss_idle (fun hstatus => ?_) h
    exact (hsame hstatus).forgetInput _
  | pinTimedOut =>
    have hidle := hmoved (by simp)
    exact ⟨rfl, hidle.noRequest, hidle.noPause, hidle.noInput, hidle.start, hidle.release, rfl,
      hidle.noRecovery⟩
  | @handoffsLapsed _ closed _ _ hcleared hstatus =>
    rw [hcleared.core, hstatus]
    cases closed <;> exact ⟨rfl, rfl, rfl, rfl, rfl, rfl, rfl, rfl⟩
  | heartbeatsStopped _ hdropped =>
    rw [hdropped.core]
    exact ⟨rfl, rfl, rfl, rfl, rfl, rfl, rfl, rfl⟩
  | fingerprintRejected | fingerprintsDiffer | linkRejected | linksDiffer =>
    have hidle := hmoved (by simp)
    exact ⟨rfl, hidle.noRequest, hidle.noPause, hidle.noInput, hidle.start, hidle.release,
      hidle.noStart, hidle.noRecovery⟩
  | @fingerprintsAgree _ _ fp p _ _ _ _ hall =>
    have hstored : List.Forall₂ Keeps r.players
        (r.setPlayerStatus p .checkingCompatibility).players := setPlayerStatus_keeps r (by simp)
    have hfull : r.connectedPlayerIndices.length = r.maxPlayers := by
      rw [← connectedPlayerIndices_keeps hstored]
      rw [connectedPlayersHaveFingerprints, allConnected,
        Bool.and_eq_true, decide_eq_true_eq] at hall
      exact hall.1
    exact absurd hfull ((hdeadline (by simp)).not_full hseats)
  | linksAgree _ _ _ hall => exact absurd hall ((hdeadline (by simp)).not_full hseats)
  | becameReady hstatus h =>
    obtain ⟨_, hcore⟩ := h.core
    have hready : r'.status = .ready := congrArg (·.status) hcore
    have hrecovering := hbusy (by rcases hstatus with h | h <;> rw [h] <;> rfl)
    exact absurd (hready.symm.trans hrecovering) (by simp)
  | startedNow hstatus
  | resynced _ hstatus | recoveryPrepared _ hstatus | recoveryLimited _ hstatus =>
    exact absurd (hbusy (by rcases hstatus with h | h <;> rw [h] <;> rfl)) (by simp)
  | startFixedBySample _ hrequest =>
    have hidle := hmoved (by simp [scheduleStart])
    exact absurd hrequest (by simp [show r.clockSyncRequest = none from hidle.noRequest])
  | startFixedByVote _ hstatus =>
    exact absurd (hbusy (by rcases hstatus with h | h <;> rw [h] <;> rfl))
      (by simp [scheduleStart])
  | pauseOpened hstatus =>
    have hidle := hsame rfl
    rcases hstatus with h | h <;> exact absurd hidle.status (by simp [sessionCore, h, isWaiting])
  | pauseNoted hpause =>
    exact absurd (hsame rfl).noPause (by simp [SessionCore.pausing, sessionCore, hpause])
  | paused _ hpause | pauseEndedByLast _ hpause | restartedByLast _ hpause
  | pauseEnded _ hpause | restarted _ hpause =>
    have hidle := hmoved (by simp [restartSession, beginV5PauseResume, scheduleV5Resume])
    exact absurd hidle.noPause (by simp [SessionCore.pausing, sessionCore, hpause])
  | inputAccepted _ hstatus =>
    have hwaiting := (hsame rfl).status
    cases h : r.status <;> simp_all [sessionCore, isWaiting, RoomStatus.acceptsStrictInput]
  | openHeld hstatus | frameReleased hstatus =>
    exact absurd (hsame rfl).status (by simp [sessionCore, hstatus, isWaiting])
  | openedByHost hstatus | openedByTimer hstatus | pinned hstatus =>
    exact absurd (hbusy (by rw [hstatus]; rfl)) (by simp)
  | legacyInput h =>
    have hwaiting := (hsame (congrArg (·.status) h.core)).status
    rcases h.status with h | h <;> exact absurd hwaiting (by simp [sessionCore, h, isWaiting])
  | legacyTick _ h =>
    have hrecovering := hbusy (by rcases h.status with h | h <;> rw [h] <;> rfl)
    exact absurd (h.playing.symm.trans hrecovering) (by simp)

theorem waited_step {op : RoomOp} (hseats : Seats r) (h : Waited r → Idle (sessionCore r)) :
    Waited (applyOp relay r op) → Idle (sessionCore (applyOp relay r op)) := by
  intro hwaited
  have heffect := applyOp_effect relay r op
  exact effect_idle hseats h heffect (seatChange_waited (effect_seats hseats heffect) hwaited)

/-- **Whoever is waited for, there is no session to come back to.** -/
theorem waited_reachable {s : StoredRoom} (h : Reachable relay s) :
    Waited s.room → Idle (sessionCore s.room) := by
  refine reachable_inv (fun r => Waited r → Idle (sessionCore r)) ?_ ?_ h
  · intro roomId key c session version resume input now voice _
    cases voice <;> exact ⟨rfl, rfl, rfl, rfl, rfl, rfl, rfl, rfl⟩
  · intro s op hs hinv _
    exact waited_step (seats_reachable hs) hinv

end NetplayRelay.Proof
