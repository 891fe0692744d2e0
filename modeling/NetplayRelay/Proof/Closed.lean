import NetplayRelay.Proof.Effects
import NetplayRelay.Proof.Histories

/-!
# Closed rooms

A closed room refuses joins, attachments, reconnects, fingerprints and readiness. It does not
refuse everything: the branches that write a status without looking at it are open to whoever
still holds a socket of the room, and the room that runs out of repair attempts is closed with all
its sockets. `reopens` lists these branches, and a closed room stays closed exactly as long as
none of them is taken.
-/

namespace NetplayRelay.Proof

open Lib Protocol Rooms Registry NetplayRoom

/-- The calls that take a closed room out of that status: the guest's control socket closes
outside a runner handoff, the last acknowledgement of a leftover pause arrives, the last clock
sample of a leftover request arrives, or the sweep finds a guest whose handoff has lapsed. -/
def reopens (relay : Relay) (r : NetplayRoom) : RoomOp → Bool
  | .disconnect c now =>
    (r.slotForConnection c).any fun slot => slot.role ≠ .host && !handoffArmed slot now
  | .markSessionPauseReached c sequence frame _ => completesPause r c sequence frame
  | .recordClockSyncSample _ c sample now => fixesStart r c sample (relay.serverTimeMsAt now)
  | .sweep now => !r.stateRecoveryPinExpired now && !hostHandoffLapsed r now
    && guestHandoffLapsed r now
  | _ => false

variable {relay : Relay} {r : NetplayRoom}

/-! ## Staying closed -/

theorem controlLoss_closed {c : ConnectionId} {now : Instant} {grace : Duration}
    {r' : NetplayRoom} (hclosed : r.status = .closed) (h : ControlLoss r c now grace r') :
    (r'.status = .closed ↔
      ((r.slotForConnection c).any fun slot => slot.role ≠ .host && !handoffArmed slot now)
        = false) := by
  have hrecoverable : r.status.isRecoverable = false := by rw [hclosed]; rfl
  cases h with
  | unknown hslot hsame => simp [hslot, hsame.status, hclosed]
  | handoffKept hslot harmed => simp [hslot, harmed, hclosed]
  | alsoLost hr₁ hslot₀ hunarmed hslot hstatus =>
    exact absurd (hclosed.symm.trans hstatus) (by simp)
  | recovery hr₁ hslot₀ hunarmed hslot hstatus => exact absurd (hrecoverable ▸ hstatus) (by simp)
  | @hostGone r₁ slot₀ slot hr₁ hslot₀ hunarmed hslot hhost =>
    have hrole := roleForConnection_keeps hr₁.players c
    simp only [roleForConnection, hslot, hslot₀, Option.map_some, Option.some.injEq] at hrole
    simp [hslot₀, ← hrole, hhost]
  | @guestGone r₁ slot₀ slot hr₁ hslot₀ hunarmed hslot hguest =>
    have hrole := roleForConnection_keeps hr₁.players c
    simp only [roleForConnection, hslot, hslot₀, Option.map_some, Option.some.injEq] at hrole
    simp [hslot₀, ← hrole, hguest, hunarmed]

theorem effect_closed {op : RoomOp} {r' : NetplayRoom} (hclosed : r.status = .closed)
    (h : Effect relay r op r') (hno : reopens relay r op = false) : r'.status = .closed := by
  have hplay : ¬(r.status = .playing ∨ r.status = .paused) := by rw [hclosed]; simp
  cases h with
  | bookkeeping h => exact h.status.trans hclosed
  | joined hstatus | hostAttached hstatus | handoffReconnected hstatus | reconnected hstatus
  | fingerprintRejected hmode hstatus | fingerprintStored hmode hstatus
  | fingerprintsDiffer hmode hstatus | fingerprintsAgree hmode hstatus
  | linkRejected hmode hstatus | linkStored hmode hstatus | linksDiffer hmode hstatus
  | linksAgree hmode hstatus => exact absurd hclosed hstatus
  | inputAttached => exact hclosed
  | exited => rfl
  | controlLost h => exact (controlLoss_closed hclosed h).mpr hno
  | inputLost => exact hclosed
  | inputAndControlLost hslot hstatus | becameReady hstatus | startedNow hstatus
  | startFixedByVote hr₁ hstatus | pauseEnded hr₁ hpausing hstatus
  | restarted hr₁ hpausing hstatus | openedByHost hstatus | openedByTimer hstatus
  | pinned hstatus => rw [hclosed] at hstatus; exact absurd hstatus (by decide)
  | pinTimedOut => rfl
  | @handoffsLapsed now closed _ _ _ hstatus _ hpin hhandoffs =>
    have hanswer := expireRunnerHandoffs_answer r now
    rw [hhandoffs] at hanswer
    simp only [reopens, hpin, Bool.not_false, Bool.true_and, Bool.and_eq_false_iff,
      Bool.not_eq_false'] at hno
    rcases hno with hhost | hguest
    · rw [hhost, if_pos rfl] at hanswer
      rw [hstatus, if_pos (Option.some.inj hanswer)]
    · cases hhost : hostHandoffLapsed r now <;> simp_all
  | heartbeatsStopped hr₁ hdropped =>
    have hwatched := hdropped.watched
    rw [hr₁.status, hclosed] at hwatched
    exact absurd hwatched (by decide)
  | snapshotCompleted => exact hclosed
  | sampleStored => exact hclosed
  | startFixedBySample hr₁ hrequest hnone hfixes => exact absurd (hno.symm.trans hfixes) (by simp)
  | voteCounted => exact hclosed
  | pauseOpened => exact hclosed
  | pauseNoted => exact hclosed
  | paused hr₁ hpausing hcompletes | pauseEndedByLast hr₁ hpausing hcompletes
  | restartedByLast hr₁ hpausing hcompletes => exact absurd (hno.symm.trans hcompletes) (by simp)
  | inputAccepted => exact hclosed
  | openHeld => exact hclosed
  | frameReleased => exact hclosed
  | legacyInput h => exact absurd h.status hplay
  | legacyTick hlegacy h =>
    have hstatus := h.status
    rw [hclosed] at hstatus
    exact absurd hstatus (by decide)
  | resynced hr₁ hstatus | recoveryPrepared hr₁ hstatus => exact absurd hstatus hplay
  | recoveryLimited => rfl

/-! ## Leaving the status -/

/-- Each of the listed calls does take the room out of `closed`. -/
theorem reopens_status {op : RoomOp} (hclosed : r.status = .closed) (h : reopens relay r op) :
    (applyOp relay r op).status ≠ .closed := by
  cases op with
  | disconnect c now =>
    intro hstatus
    have hloss := disconnectWithRecovery_loss r c now relay.recovery.reconnectGrace
    have := (controlLoss_closed hclosed hloss).mp hstatus
    exact absurd (this.symm.trans h) (by simp)
  | markSessionPauseReached c sequence frame now =>
    rcases markSessionPauseReached_completes (t := relay.serverTimeMsAt now) h with
      hstatus | hstatus | hstatus <;> rw [applyOp, hstatus] <;> decide
  | recordClockSyncSample order c sample now =>
    rw [applyOp, recordClockSyncSample_fixes h]
    decide
  | sweep now =>
    simp only [reopens, Bool.and_eq_true, Bool.not_eq_true'] at h
    obtain ⟨⟨hpin, hhost⟩, hguest⟩ := h
    rw [applyOp, (sweepRoom_lapsed relay hpin (.inr hguest)).2, hhost]
    decide
  | _ => exact absurd h (by simp [reopens])

theorem closed_step_iff (relay : Relay) (op : RoomOp) (hclosed : r.status = .closed) :
    (applyOp relay r op).status = .closed ↔ reopens relay r op = false := by
  constructor
  · intro hstatus
    by_contra h
    exact reopens_status hclosed (by simpa using h) hstatus
  · exact effect_closed hclosed (applyOp_effect relay r op)

/-- **A closed room stays closed over a history exactly when no call of the history is one of
those that reopen it.** -/
theorem closed_absorbing_iff (relay : Relay) (r : NetplayRoom) (ops : List RoomOp)
    (hclosed : r.status = .closed) :
    (∀ done, done <+: ops → (done.foldl (applyOp relay) r).status = .closed)
      ↔ Guarded (fun r op => some (applyOp relay r op)) (fun r op => reopens relay r op = false)
        r ops :=
  forall_prefix_iff_guarded (P := fun r : NetplayRoom => r.status = .closed)
    (fun _ op h _ => closed_step_iff relay op h) hclosed guarded_true

/-- After an exit nothing is left to reopen the room with. -/
theorem closed_absorbing_after_exit :
    (after sampleRelay (sampleRoom 4) (seating false ++ [.playerExited guestSocket 0])).room.status
        = .closed
      ∧ ∀ done, done <+: [RoomOp.disconnect hostSocket 1, .sweep (secs 400),
          .markSessionPauseReached hostSocket 1 8 1, .connectHost "host".toList ⟨7⟩ [] [] 2
            ⟨true, true, true, true, true⟩] →
        (done.foldl (applyOp sampleRelay) (after sampleRelay (sampleRoom 4)
          (seating false ++ [.playerExited guestSocket 0])).room).status = .closed :=
  ⟨by decide +kernel,
    (closed_absorbing_iff sampleRelay _ _ (by decide +kernel)).mpr (by decide +kernel)⟩

/-! ## A room that reopens -/

/-- A version 5 session whose state is repaired twice within a minute and then differs again. -/
def outOfAttempts : List RoomOp :=
  seating false ++ handshake 5 0
    ++ mismatchAt 600 ++ [.pinStateRecovery hostSocket 2 2 ⟨1, sampleManifest 600⟩]
      ++ handshake 5 600
    ++ mismatchAt 1200 ++ [.pinStateRecovery hostSocket 2 3 ⟨2, sampleManifest 1200⟩]
    ++ handshake 5 1200 ++ mismatchAt 1800

/-- The room that ran out of repair attempts is closed but keeps its sockets: when the guest's
control socket closes, it waits for a guest again. -/
theorem closed_room_reopens :
    Reachable sampleRelay (after sampleRelay (sampleRoom 5) outOfAttempts)
      ∧ (after sampleRelay (sampleRoom 5) outOfAttempts).room.status = .closed
      ∧ ((after sampleRelay (sampleRoom 5) outOfAttempts).step sampleRelay
          (.disconnect guestSocket 0)).map (·.room.status) = some .waitingForGuest :=
  ⟨reachable_after (by decide +kernel), by decide +kernel⟩

end NetplayRelay.Proof
