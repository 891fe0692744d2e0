import NetplayRelay.Proof.Waiting

/-!
# Interrupted sessions

When a session is interrupted and the room goes back before its start, the session epoch should
have moved on, so that nothing sent for the old session is taken for the new one. Three calls do
not keep to this. A compatibility report is judged whatever the status: one that is rejected, or
that completes the reports, takes a running session back to the check. A link cable report does the
same in every status but playing. And the sweep gives up a guest's seat whose handoff has lapsed
without looking at the status.
-/

namespace NetplayRelay.Proof

open Lib Protocol Rooms Registry NetplayRoom

/-- A session is under way. -/
def inSession : RoomStatus → Bool
  | .startScheduled | .playing | .paused => true
  | _ => false

/-- The next session has not begun. -/
def beforeSession : RoomStatus → Bool
  | .waitingForGuest | .checkingCompatibility | .syncingState | .ready => true
  | _ => false

/-- A session under way is broken off. -/
def Interrupts (r r' : NetplayRoom) : Prop := inSession r.status ∧ beforeSession r'.status

/-- The fingerprint is judged now: it does not fit the session, or it is the last one. -/
def fingerprintDecides (r : NetplayRoom) (c : ConnectionId) (fp : CompatibilityFingerprint) :
    Bool :=
  r.session.mode = .controllerNetplay && r.status ≠ .closed
    && (r.playerIndexForConnection c).any fun p => !r.fingerprintMatchesSession fp
      || r.allConnected fun q => q = p || (r.compatibility.lookup q).isSome

/-- The link cable report is judged now: it fails a check, or it is the last one. -/
def linkReportDecides (r : NetplayRoom) (c : ConnectionId)
    (compatibility : LinkCableCompatibility) :
    Bool :=
  r.status ≠ .closed && r.status ≠ .playing && (r.playerIndexForConnection c).any fun p =>
    match r.linkDescriptor with
    | .error _ => false
    | .ok link => compatibility.protocolVersion ≠ r.protocolVersion
      || match r.linkCableState.setCompatibility p link compatibility with
        | (.error _, _) => true
        | (.ok (), state) =>
          state.connectedPlayersHaveCompatibility r.connectedPlayerIndices r.maxPlayers

/-- The calls that break a session off on its own epoch. -/
def breaksOff (r : NetplayRoom) : RoomOp → Bool
  | .setCompatibility _ c fp => inSession r.status && fingerprintDecides r c fp
  | .setLinkCableCompatibility _ c compatibility =>
    inSession r.status && linkReportDecides r c compatibility
  | .sweep now => inSession r.status && !r.stateRecoveryPinExpired now
    && !hostHandoffLapsed r now && guestHandoffLapsed r now
  | _ => false

variable {relay : Relay} {r r' : NetplayRoom}

/-! ## The three calls -/

/-- A stored fingerprint completes the reports when all others are there. -/
theorem storeFingerprint_complete (p : PlayerIndex) (fp : CompatibilityFingerprint) :
    (r.storeFingerprint p fp).connectedPlayersHaveFingerprints
      = r.allConnected fun q => q = p || (r.compatibility.lookup q).isSome := by
  have hconnected : (r.storeFingerprint p fp).connectedPlayerIndices = r.connectedPlayerIndices :=
    connectedPlayerIndices_keeps (setPlayerStatus_keeps r (by simp))
  have hlookup : ∀ q, ((r.storeFingerprint p fp).compatibility.lookup q).isSome
      = (decide (q = p) || (r.compatibility.lookup q).isSome) := by
    intro q
    rw [storeFingerprint_compatibility]
    by_cases h : q = p
    · subst h
      simp
    · rw [AList.lookup_insert_ne h]
      simp [h]
  simp only [connectedPlayersHaveFingerprints, allConnected, hconnected, hlookup]
  rfl

/-- A fingerprint that the check rejects, or that completes the reports, is judged. -/
theorem fingerprintDecides_of {c : ConnectionId} {fp : CompatibilityFingerprint} {p : PlayerIndex}
    (hmode : r.session.mode = .controllerNetplay) (hclosed : r.status ≠ .closed)
    (hp : r.playerIndexForConnection c = some p) (h : r.fingerprintMatchesSession fp = false
      ∨ (r.storeFingerprint p fp).connectedPlayersHaveFingerprints) :
    fingerprintDecides r c fp := by
  rw [storeFingerprint_complete] at h
  rcases h with h | h <;> simp [fingerprintDecides, hmode, hclosed, hp, h]

theorem setCompatibility_status (order : HashOrder) (c : ConnectionId)
    (fp : CompatibilityFingerprint) :
    (r.setCompatibilityForConnection order c fp).2.sessionEpoch = r.sessionEpoch
      ∧ (fingerprintDecides r c fp →
          beforeSession (r.setCompatibilityForConnection order c fp).2.status)
      ∧ (fingerprintDecides r c fp = false →
          (r.setCompatibilityForConnection order c fp).2.status = r.status) := by
  unfold setCompatibilityForConnection fingerprintDecides
  by_cases hmode : r.session.mode = .controllerNetplay
  · by_cases hclosed : r.status = .closed
    · simp [hmode, hclosed]
    cases hp : r.playerIndexForConnection c with
    | none => simp [hmode, hclosed]
    | some p =>
      cases hfp : r.fingerprintMatchesSession fp with
      | false => simp [hmode, hclosed, setPlayerStatus, beforeSession]
      | true =>
        have hall := storeFingerprint_complete (r := r) p fp
        simp only [hmode, hclosed, ne_eq, not_true_eq_false, if_false, hall, decide_true,
          not_false_eq_true, Bool.true_and, Option.any_some, Bool.not_true, Bool.false_or,
          Bool.false_eq_true]
        split
        · rename_i h
          simp_all [setPlayerStatus]
        · rename_i h
          split <;> simp_all [setPlayerStatus, beforeSession]
  · simp [hmode]

theorem setLinkCableCompatibility_status (order : HashOrder) (c : ConnectionId)
    (compatibility : LinkCableCompatibility) :
    (r.setLinkCableCompatibilityForConnection order c compatibility).2.sessionEpoch = r.sessionEpoch
      ∧ (linkReportDecides r c compatibility →
          beforeSession (r.setLinkCableCompatibilityForConnection order c compatibility).2.status)
      ∧ (linkReportDecides r c compatibility = false →
          (r.setLinkCableCompatibilityForConnection order c compatibility).2.status
            = r.status) := by
  unfold setLinkCableCompatibilityForConnection linkReportDecides
  by_cases hclosed : r.status = .closed
  · simp [hclosed]
  by_cases hplaying : r.status = .playing
  · simp [hplaying]
  cases hp : r.playerIndexForConnection c with
  | none => simp [hclosed, hplaying]
  | some p =>
    cases hlink : r.linkDescriptor with
    | error => simp [hclosed, hplaying]
    | ok link =>
      by_cases hversion : compatibility.protocolVersion = r.protocolVersion
      · rcases hset : r.linkCableState.setCompatibility p link compatibility with
          ⟨_ | _, state⟩
        · simp [hclosed, hplaying, hversion, hset, setPlayerStatus, beforeSession]
        have hconnected : (r.storeLinkCompatibility p state).connectedPlayerIndices
            = r.connectedPlayerIndices :=
          connectedPlayerIndices_keeps (storeLinkCompatibility_keeps p state)
        simp only [hclosed, hplaying, hversion, hset, hconnected, if_false, ne_eq,
          not_true_eq_false, not_false_eq_true, decide_true, decide_false, Bool.true_and,
          Bool.false_or, Option.any_some]
        split
        · rename_i h
          simp_all [setPlayerStatus]
        · rename_i h
          split <;> simp_all [setPlayerStatus, beforeSession]
      · simp [hclosed, hplaying, hversion, setPlayerStatus, beforeSession]

/-- Each of the three calls breaks the session off on its own epoch. -/
theorem breaksOff_interrupts (relay : Relay) {op : RoomOp} (h : breaksOff r op) :
    Interrupts r (applyOp relay r op) ∧ (applyOp relay r op).sessionEpoch = r.sessionEpoch := by
  cases op with
  | setCompatibility order c fp =>
    rw [breaksOff, Bool.and_eq_true] at h
    obtain ⟨hepoch, hmoved, _⟩ := setCompatibility_status (r := r) order c fp
    exact ⟨⟨h.1, hmoved h.2⟩, hepoch⟩
  | setLinkCableCompatibility order c compatibility =>
    rw [breaksOff, Bool.and_eq_true] at h
    obtain ⟨hepoch, hmoved, _⟩ := setLinkCableCompatibility_status (r := r) order c compatibility
    exact ⟨⟨h.1, hmoved h.2⟩, hepoch⟩
  | sweep now =>
    simp only [breaksOff, Bool.and_eq_true, Bool.not_eq_true'] at h
    obtain ⟨⟨⟨hsession, hpin⟩, hhost⟩, hguest⟩ := h
    -- the seat is cleared on the epochs it was lost on
    obtain ⟨hcleared, hstatus⟩ := sweepRoom_lapsed relay hpin (.inr hguest)
    refine ⟨⟨hsession, ?_⟩, congrArg (·.sessionEpoch) hcleared.core⟩
    rw [applyOp, hstatus, hhost]
    rfl
  | _ => exact absurd h (by simp [breaksOff])

/-! ## All other calls -/

/-- Reports are judged in any status. -/
def isReport : RoomOp → Bool
  | .setCompatibility .. | .setLinkCableCompatibility .. => true
  | _ => false

/-- A report that is not judged leaves the status alone. -/
theorem report_kept (relay : Relay) {op : RoomOp} (hreport : isReport op) (hin : inSession r.status)
    (hkept : breaksOff r op = false) : (applyOp relay r op).status = r.status := by
  cases op with
  | setCompatibility order c fp =>
    rw [breaksOff, hin, Bool.true_and] at hkept
    exact (setCompatibility_status order c fp).2.2 hkept
  | setLinkCableCompatibility order c compatibility =>
    rw [breaksOff, hin, Bool.true_and] at hkept
    exact (setLinkCableCompatibility_status order c compatibility).2.2 hkept
  | _ => exact absurd hreport (by simp [isReport])

theorem not_beforeSession {status : RoomStatus} (h : inSession status) : ¬beforeSession status := by
  cases status <;> simp_all [inSession, beforeSession]

theorem controlLoss_not_interrupts {c : ConnectionId} {now : Instant} {grace : Duration}
    (h : ControlLoss r c now grace r') : ¬Interrupts r r' := by
  rintro ⟨hin, hbefore⟩
  have hrecoverable : r.status.isRecoverable := by
    cases hstatus : r.status <;> simp_all [inSession, RoomStatus.isRecoverable]
  cases h with
  | unknown _ h => exact not_beforeSession hin (h.status ▸ hbefore)
  | handoffKept => exact not_beforeSession hin hbefore
  | alsoLost _ _ _ _ hstatus => exact absurd hin (by simp [hstatus, inSession])
  | recovery => exact absurd hbefore (by simp [beforeSession])
  | hostGone _ _ _ _ _ hstatus | guestGone _ _ _ _ _ hstatus =>
    exact absurd (hstatus.symm.trans hrecoverable) (by simp)

/-- Whatever else breaks a session off moves its epoch on. -/
theorem effect_interrupts {op : RoomOp} (hwaited : Waited r → Idle (sessionCore r))
    (hbound : r.sessionEpoch < u64Max) (h : Effect relay r op r') (hi : Interrupts r r') :
    r.sessionEpoch < r'.sessionEpoch ∨ isReport op ∨ breaksOff r op := by
  obtain ⟨hin, hbefore⟩ := hi
  have hsame : r'.status ≠ r.status := by
    intro hstatus
    exact not_beforeSession hin (hstatus ▸ hbefore)
  cases h with
  | bookkeeping h => exact absurd h.status hsame
  | joined => exact .inl (lt_satAdd_one hbound)
  | hostAttached | handoffReconnected | inputAttached | inputLost
  | snapshotCompleted | sampleStored | voteCounted | pauseOpened | pauseNoted
  | inputAccepted | openHeld | frameReleased => exact absurd rfl hsame
  | reconnected _ hreturns _ hdeadline =>
    -- nobody is waited for while a session is under way
    have hidle := hwaited (.inr ⟨_, List.mem_of_find?_eq_some hreturns.found, hdeadline⟩)
    have hwaiting : isWaiting r.status := hidle.status
    cases hstatus : r.status <;> simp_all [inSession, isWaiting]
  | exited | pinTimedOut | paused | pauseEndedByLast | pauseEnded | openedByHost | openedByTimer
  | recoveryPrepared | recoveryLimited => exact absurd hbefore (by simp [beforeSession])
  | controlLost h | inputAndControlLost _ _ _ h =>
    exact absurd ⟨hin, hbefore⟩ (controlLoss_not_interrupts h)
  | @handoffsLapsed now closed _ _ _ hstatus _ hpin hhandoffs =>
    have hanswer := expireRunnerHandoffs_answer r now
    rw [hhandoffs] at hanswer
    rw [hstatus] at hbefore
    cases hhost : hostHandoffLapsed r now with
    | true =>
      rw [hhost, if_pos rfl] at hanswer
      exact absurd hbefore (by simp [Option.some.inj hanswer, beforeSession])
    | false =>
      cases hguest : guestHandoffLapsed r now with
      | true => exact .inr (.inr (by simp [breaksOff, hin, hpin, hhost, hguest]))
      | false => exact absurd hanswer (by simp [hhost, hguest])
  | heartbeatsStopped _ hdropped =>
    have hrecovering : r'.status = .recovering := congrArg (·.status) hdropped.core
    exact absurd hbefore (by simp [hrecovering, beforeSession])
  | fingerprintRejected | fingerprintStored | fingerprintsDiffer | fingerprintsAgree | linkRejected
  | linkStored | linksDiffer | linksAgree => exact .inr (.inl rfl)
  | becameReady hstatus | startedNow hstatus =>
    rcases hstatus with h | h <;> exact absurd hin (by simp [h, inSession])
  | startFixedBySample | startFixedByVote =>
    exact absurd hbefore (by simp [scheduleStart, beforeSession])
  | restartedByLast | restarted =>
    exact absurd hbefore (by simp [restartSession, beginV5PauseResume,
      scheduleV5Resume, beforeSession])
  | legacyInput h => exact absurd (congrArg (·.status) h.core) hsame
  | legacyTick _ h => exact absurd hbefore (by simp [h.playing, beforeSession])
  | resynced hr₁ =>
    left
    rw [← hr₁.sessionEpoch] at hbound ⊢
    exact lt_satAdd_one hbound
  | pinned hstatus => exact absurd hin (by simp [hstatus, inSession])

/-- **Breaking a session off moves the session epoch on, except by the three calls that judge a
report or give a guest's seat up in the middle of it.** -/
theorem interruption_bumps_iff {s : StoredRoom} (h : Reachable relay s) (op : RoomOp)
    (hbound : s.room.sessionEpoch < u64Max) :
    (Interrupts s.room (applyOp relay s.room op) →
        s.room.sessionEpoch < (applyOp relay s.room op).sessionEpoch)
      ↔ breaksOff s.room op = false := by
  constructor
  · intro hbumps
    by_contra hbreaks
    obtain ⟨hinterrupts, hepoch⟩ := breaksOff_interrupts relay (by simpa using hbreaks)
    have := hbumps hinterrupts
    omega
  · intro hkept hinterrupts
    rcases effect_interrupts (waited_reachable h) hbound (applyOp_effect relay s.room op)
      hinterrupts with hlt | hreport | hbreaks
    · exact hlt
    · have hstatus := report_kept relay hreport hinterrupts.1 hkept
      exact absurd (hstatus ▸ hinterrupts.2) (not_beforeSession hinterrupts.1)
    · exact absurd (hkept.symm.trans hbreaks) (by simp)

/-- In a legacy room a second, different state hash breaks the session off, one epoch later. -/
theorem interruption_bumps_onMismatch :
    let history := seating false ++ handshake 4 0
      ++ [.recordStateHash .stored hostSocket ⟨600, sampleHash⟩ 0]
    let report := RoomOp.recordStateHash .stored guestSocket ⟨600, List.replicate 64 'b'⟩ 0
    (after sampleRelay (sampleRoom 4) history).room.sessionEpoch
      < (applyOp sampleRelay
        (after sampleRelay (sampleRoom 4) history).room report).sessionEpoch := by
  intro history report
  have hroom : Possible sampleRelay (sampleRoom 4) history
      ∧ (after sampleRelay (sampleRoom 4) history).room.sessionEpoch < u64Max
      ∧ inSession (after sampleRelay (sampleRoom 4) history).room.status
      ∧ beforeSession (applyOp sampleRelay (after sampleRelay (sampleRoom 4) history).room
          report).status := by decide +kernel
  obtain ⟨hpossible, hbound, hin, hbefore⟩ := hroom
  exact (interruption_bumps_iff (reachable_after hpossible) report hbound).mpr rfl ⟨hin, hbefore⟩

/-- A player of a playing room sends its fingerprint once more: the room synchronises again, on the
epochs of the session that was under way. -/
theorem fingerprint_interrupts_onSameEpoch :
    Reachable sampleRelay playingRoom ∧ playingRoom.room.status = .playing
      ∧ playingRoom.room.sessionEpoch = 2
      ∧ (playingRoom.step sampleRelay (.setCompatibility .stored guestSocket
          (sampleFingerprint 5))).map (fun s => (s.room.status, s.room.sessionEpoch))
        = some (.syncingState, 2) :=
  ⟨playingRoom_reachable, by decide +kernel⟩

end NetplayRelay.Proof
