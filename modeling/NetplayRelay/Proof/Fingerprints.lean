import NetplayRelay.Proof.Contracts
import NetplayRelay.Proof.SessionEpochs

/-!
# Fingerprints of a session

A controller room goes past the compatibility check when both players' fingerprints fit the session
and agree, and it should stay so until it goes back. The status is not what guards this. A pause or
a clock request that was open when a fingerprint took the room back to the check is still there, and
its last answer takes the room past the check again; and a handoff forgets the fingerprints of a
running session without touching its status. Between these, the invariant holds (`Matched`).

The invariant speaks of more than the statuses past the check: as long as a pause or a clock request
is open elsewhere, its last answer may lead there.
-/

namespace NetplayRelay.Proof

open Lib Protocol Rooms Registry NetplayRoom

/-- Statuses past the compatibility check, except while a state is repaired. -/
def isMatched : RoomStatus → Bool
  | .syncingState | .ready | .startScheduled | .playing | .paused => true
  | _ => false

/-- Both players' fingerprints are stored, fit the session and do not differ. -/
def FingerprintsAgree (r : NetplayRoom) : Prop :=
  ∃ host guest, r.compatibility.lookup .one = some host ∧ r.compatibility.lookup .two = some guest
    ∧ r.fingerprintMatchesSession host ∧ r.fingerprintMatchesSession guest
    ∧ host.firstMismatch guest = none ∧ guest.firstMismatch host = none

/-- The calls that lose the agreement: a socket that closes under an armed handoff in the middle of
a session, and the last answer to a pause or a clock request in a room that is back at the check. -/
def losesAgreement (relay : Relay) (r : NetplayRoom) : RoomOp → Bool
  | .disconnect c now => isMatched r.status && (r.slotForConnection c).any (handoffArmed · now)
  | .disconnectInputSocket c now => isMatched r.status && r.status.inputLossIsRecoverable
    && (r.slotForInputConnection c).any (handoffArmed · now)
  | .markSessionPauseReached c sequence frame _ =>
    r.status = .checkingCompatibility && completesPause r c sequence frame
  | .recordClockSyncSample _ c sample now =>
    r.status = .checkingCompatibility && fixesStart r c sample (relay.serverTimeMsAt now)
  | _ => false

variable {relay : Relay} {r r' : NetplayRoom} {fp : CompatibilityFingerprint} {p : PlayerIndex}
  {c : ConnectionId} {now : Instant} {order : HashOrder}

/-! ## What is stored fits the session -/

/-- The check only looks at terms that never change. -/
theorem SameTerms.fingerprintMatchesSession (h : SameTerms r r') (fp : CompatibilityFingerprint) :
    r'.fingerprintMatchesSession fp = r.fingerprintMatchesSession fp := by
  obtain ⟨delay, hsession⟩ := h.session
  simp only [NetplayRoom.fingerprintMatchesSession, NetplayRoom.usesStrictControllerInput,
    fingerprintStateFormatMatchesSession, h.protocolVersion, hsession]
  rfl

/-- A fingerprint is checked as it came and stored with its content hash in lower case. -/
theorem fingerprintMatchesSession_lowered (h : r.fingerprintMatchesSession fp) :
    r.fingerprintMatchesSession { fp with contentHash := fp.contentHash.toAsciiLowercase } := by
  have hformat : r.fingerprintStateFormatMatchesSession
      { fp with contentHash := fp.contentHash.toAsciiLowercase }
    = r.fingerprintStateFormatMatchesSession fp := rfl
  simp only [NetplayRoom.fingerprintMatchesSession, eqIgnoreAsciiCase_lowered, hformat] at h ⊢
  split at h
  · rename_i hlegacy
    rw [if_pos hlegacy]
    exact h
  · rename_i hlegacy
    rw [if_neg hlegacy]
    split at h
    · rename_i profile romIdentity hprofile hrom
      rw [validDeterminismV5_lowered, hprofile, hrom]
      exact h
    · exact absurd h (by simp)

/-- Everything that is stored fits the session. -/
def StoredFit (r : NetplayRoom) : Prop :=
  ∀ p fp, r.compatibility.lookup p = some fp → r.fingerprintMatchesSession fp

theorem StoredFit.of_eq (h : StoredFit r) (hterms : SameTerms r r')
    (hcompatibility : r'.compatibility = r.compatibility) : StoredFit r' := by
  intro p fp hp
  rw [hterms.fingerprintMatchesSession]
  exact h p fp (hcompatibility ▸ hp)

theorem StoredFit.of_empty (h : r.compatibility = ∅) : StoredFit r := by
  intro p fp hp
  rw [h] at hp
  exact absurd hp (by simp)

theorem StoredFit.of_erase (h : StoredFit r) (hterms : SameTerms r r')
    (hcompatibility : r'.compatibility = r.compatibility.erase p) : StoredFit r' := by
  intro q fp hq
  rw [hterms.fingerprintMatchesSession]
  rw [hcompatibility] at hq
  exact h q fp (lookup_erase_some hq)

theorem StoredFit.of_insert (h : StoredFit r) (hterms : SameTerms r r')
    (hfp : r.fingerprintMatchesSession fp)
    (hcompatibility : r'.compatibility = r.compatibility.insert p fp) : StoredFit r' := by
  intro q fp' hq
  rw [hterms.fingerprintMatchesSession]
  rw [hcompatibility] at hq
  by_cases hp : q = p
  · subst hp
    rw [AList.lookup_insert, Option.some.injEq] at hq
    exact hq ▸ hfp
  · rw [AList.lookup_insert_ne hp] at hq
    exact h q fp' hq

theorem controlLoss_storedFit {grace : Duration} (hfit : StoredFit r)
    (h : ControlLoss r c now grace r') : StoredFit r' := by
  have hterms := controlLoss_terms h
  cases h with
  | unknown _ h => exact hfit.of_eq hterms h.compatibility
  | alsoLost hr₁ => exact hfit.of_erase hterms (congrArg (AList.erase _) hr₁.compatibility)
  | handoffKept | recovery | hostGone | guestGone => exact .of_empty rfl

theorem effect_storedFit {op : RoomOp} (h : Effect relay r op r') (hfit : StoredFit r) :
    StoredFit r' := by
  have hterms := effect_terms h
  cases h with
  | bookkeeping h => exact hfit.of_eq hterms h.compatibility
  | joined | reconnected | exited | resynced | pinned => exact .of_empty rfl
  | hostAttached | handoffReconnected | inputAttached | inputLost | pinTimedOut
  | linkRejected | linkStored | linksDiffer | linksAgree | snapshotCompleted | sampleStored
  | voteCounted
  | pauseOpened | pauseNoted | paused | pauseEndedByLast | pauseEnded | restartedByLast
  | restarted | inputAccepted | openHeld | frameReleased | openedByHost | openedByTimer =>
    exact hfit.of_eq hterms rfl
  | controlLost h => exact controlLoss_storedFit hfit h
  | inputAndControlLost _ _ _ h =>
    refine controlLoss_storedFit ?_ h
    exact hfit.of_eq (.of_eq rfl rfl rfl) rfl
  | handoffsLapsed hcleared => exact .of_empty (congrArg (·.compatibility) hcleared.core)
  | heartbeatsStopped _ hdropped =>
    exact .of_empty (congrArg (·.compatibility) hdropped.core)
  | fingerprintRejected => exact hfit.of_erase hterms rfl
  | fingerprintStored _ _ _ hfp | fingerprintsDiffer _ _ _ hfp | fingerprintsAgree _ _ _ hfp =>
    exact hfit.of_insert hterms (fingerprintMatchesSession_lowered hfp) rfl
  | becameReady _ h =>
    obtain ⟨_, hcore⟩ := h.core
    exact hfit.of_eq hterms (congrArg (·.compatibility) hcore)
  | startedNow _ hr₁ | startFixedBySample hr₁ | startFixedByVote hr₁
  | recoveryPrepared hr₁ | recoveryLimited hr₁ => exact hfit.of_eq hterms hr₁.compatibility
  | legacyInput h | legacyTick _ h =>
    exact hfit.of_eq hterms (congrArg (·.compatibility) h.core)

theorem storedFit_reachable {s : StoredRoom} (h : Reachable relay s) : StoredFit s.room := by
  refine reachable_inv StoredFit ?_ ?_ h
  · intro roomId key c session version resume input now voice
    cases voice <;> exact .of_empty rfl
  · intro s op _ hfit _
    exact effect_storedFit (applyOp_effect relay s.room op) hfit

/-! ## Agreement -/

/-- The room is past the check, or an open pause or clock request may take it there. -/
def pastCheck (core : SessionCore) : Bool :=
  isMatched core.status || (core.status ≠ .checkingCompatibility
    && (core.pausing || core.clockSyncRequest.isSome))

theorem pastCheck_of_status {status : RoomStatus} (h : r.status = status)
    (hmatched : isMatched status) : pastCheck (sessionCore r) := by
  rw [pastCheck, show (sessionCore r).status = status from h, hmatched]
  rfl

theorem not_pastCheck_of_checking {core : SessionCore} (h : core.status = .checkingCompatibility) :
    ¬pastCheck core := by
  rw [pastCheck, h]
  simp [isMatched]

theorem not_pastCheck_of_idle {core : SessionCore} (hstatus : isMatched core.status = false)
    (hpause : core.pausing = false) (hrequest : core.clockSyncRequest = none) :
    ¬pastCheck core := by
  rw [pastCheck, hstatus, hpause, hrequest]
  simp

/-- Both players are there and their fingerprints agree. -/
structure Matched (r : NetplayRoom) : Prop where
  agree : FingerprintsAgree r
  full : Full r

theorem Matched.keep (h : Matched r) (hterms : SameTerms r r')
    (hcompatibility : r'.compatibility = r.compatibility) (hfull : Full r') : Matched r' := by
  refine ⟨?_, hfull⟩
  obtain ⟨host, guest, hhost, hguest, hfits, hfits', hagree⟩ := h.agree
  refine ⟨host, guest, hcompatibility ▸ hhost, hcompatibility ▸ hguest, ?_, ?_, hagree⟩
  · rw [hterms.fingerprintMatchesSession]
    exact hfits
  · rw [hterms.fingerprintMatchesSession]
    exact hfits'

/-- A fingerprint that fits a controller session carries the profile its protocol asks for. -/
theorem firstMismatch_self (hmode : r.session.mode = .controllerNetplay)
    (h : r.fingerprintMatchesSession fp) : fp.firstMismatch fp = none := by
  refine (firstMismatch_none fp fp).mpr ⟨rfl, fun hstrict => ?_⟩
  rw [NetplayRoom.fingerprintMatchesSession] at h
  split at h
  · rename_i hlegacy
    -- the check ends early only where the room is not strict
    have hversion : fp.protocolVersion = r.protocolVersion := by
      simp only [Bool.and_eq_true, decide_eq_true_eq] at h
      exact h.1.1.1.1
    have hroom : r.usesStrictControllerInput := by
      simp [NetplayRoom.usesStrictControllerInput, ← hversion, hstrict, hmode]
    simp [h, hroom] at hlegacy
  · split at h
    · rename_i profile _ hprofile _
      rw [CompatibilityFingerprint.validDeterminismV5, Option.filter_eq_some_iff] at hprofile
      rw [hprofile.1]
      rfl
    · exact absurd h (by simp)

/-- A map yields its entries, whatever the order. -/
theorem mem_values_iff {α : Type} {m : PlayerMap α} {a : α} :
    a ∈ m.values order ↔ ∃ p, m.lookup p = some a := by
  have hmem : a ∈ m.entries.map (·.2) ↔ ∃ p, m.lookup p = some a := by
    rw [List.mem_map]
    constructor
    · rintro ⟨⟨p, _⟩, hentry, rfl⟩
      exact ⟨p, AList.mem_lookup_iff.mpr hentry⟩
    · rintro ⟨p, hp⟩
      exact ⟨⟨p, a⟩, AList.mem_lookup_iff.mp hp, rfl⟩
  cases order with
  | stored => exact hmem
  | reversed => exact List.mem_reverse.trans hmem

theorem mem_values {α : Type} {m : PlayerMap α} {a : α} (order : HashOrder)
    (h : m.lookup p = some a) : a ∈ m.values order :=
  mem_values_iff.mpr ⟨p, h⟩

/-- When the entries that are there do not differ, any two of them agree, whatever the order in
which the map yields them. -/
theorem stored_agree (hmode : r.session.mode = .controllerNetplay) (hfit : StoredFit r)
    (h : r.storedFingerprintsMismatch order = false) {q : PlayerIndex}
    {f g : CompatibilityFingerprint} (hf : r.compatibility.lookup p = some f)
    (hg : r.compatibility.lookup q = some g) : f.firstMismatch g = none := by
  -- everything agrees with the entry that comes first
  have hbaseline : ∃ baseline : CompatibilityFingerprint, ∀ {p fp},
      r.compatibility.lookup p = some fp → baseline.firstMismatch fp = none := by
    rw [storedFingerprintsMismatch] at h
    cases hvalues : r.compatibility.values order with
    | nil => exact absurd (hvalues ▸ mem_values order hf) (by simp)
    | cons baseline others =>
      rw [hvalues] at h
      refine ⟨baseline, fun {p fp} hp => ?_⟩
      rcases List.mem_cons.mp (hvalues ▸ mem_values order hp) with rfl | hother
      · exact firstMismatch_self hmode (hfit p _ hp)
      · simpa using List.any_eq_false.mp h fp hother
  obtain ⟨baseline, hbaseline⟩ := hbaseline
  exact firstMismatch_trans (firstMismatch_symm (hbaseline hf)) (hbaseline hg)

/-- The check passes: both fingerprints are there and agree. -/
theorem matched_of_check (hseats : Seats r) (hfit : StoredFit r)
    (hmode : r.session.mode = .controllerNetplay) (hall : r.connectedPlayersHaveFingerprints)
    (hsame : r.storedFingerprintsMismatch order = false) : Matched r := by
  rw [connectedPlayersHaveFingerprints, allConnected, Bool.and_eq_true, decide_eq_true_eq] at hall
  have hfull := full_of_connected hseats hall.1
  have hboth := hall.2
  rw [hfull.connectedPlayerIndices hseats] at hboth
  simp only [List.all_cons, List.all_nil, Bool.and_true, Bool.and_eq_true] at hboth
  obtain ⟨host, hhost⟩ := Option.isSome_iff_exists.mp hboth.1
  obtain ⟨guest, hguest⟩ := Option.isSome_iff_exists.mp hboth.2
  exact ⟨⟨host, guest, hhost, hguest, hfit _ _ hhost, hfit _ _ hguest,
    stored_agree hmode hfit hsame hhost hguest, stored_agree hmode hfit hsame hguest hhost⟩, hfull⟩

/-- Where both fingerprints are there, a new one completes them again. -/
theorem Matched.complete (h : Matched r) (hseats : Seats r) :
    (r.storeFingerprint p fp).connectedPlayersHaveFingerprints := by
  obtain ⟨host, guest, hhost, hguest, _⟩ := h.agree
  rw [storeFingerprint_complete, allConnected,
    h.full.connectedPlayerIndices hseats, hseats.capacity]
  simp [hhost, hguest]

theorem Full.detachInputSocket (h : Full r) : Full (r.detachInputSocket c p now) := by
  have hmap : List.Forall₂ (fun slot slot' : PlayerSlot => slot'.isConnected = slot.isConnected)
      r.players (r.detachInputSocket c p now).players :=
    forall₂_updateFirst (fun _ => rfl) fun _ _ => rfl
  intro slot' hslot'
  obtain ⟨slot, hslot, hs⟩ := forall₂_mem hmap hslot'
  exact hs ▸ h slot hslot

theorem controlLoss_matched {grace : Duration}
    (hidle : r.status = .recovering → Idle (sessionCore r))
    (hinv : pastCheck (sessionCore r) → Matched r)
    (hkept : (isMatched r.status && (r.slotForConnection c).any (handoffArmed · now)) = false)
    (h : ControlLoss r c now grace r') (hpast : pastCheck (sessionCore r')) : Matched r' := by
  have hterms := controlLoss_terms h
  cases h with
  | unknown _ h =>
    rw [h.core] at hpast
    have hmatched := hinv hpast
    exact hmatched.keep hterms h.compatibility (hmatched.full.keep h.players)
  | handoffKept hslot harmed =>
    have hstatus : isMatched r.status = false := by simpa [hslot, harmed] using hkept
    exact absurd hpast (not_pastCheck_of_idle hstatus rfl rfl)
  | alsoLost hr₁ _ _ _ hstatus =>
    have hidle := (hidle hstatus).of_same hr₁
    have hrecovering := congrArg isMatched (hr₁.status.trans hstatus)
    exact absurd hpast (not_pastCheck_of_idle hrecovering hidle.noPause hidle.noRequest)
  | recovery | hostGone | guestGone => exact absurd hpast (not_pastCheck_of_idle rfl rfl rfl)

/-- **No other call loses the agreement.** The sweep that finds an overdue pin is left out: it
drops the room. -/
theorem effect_matched {op : RoomOp} (hseats : Seats r) (hwaited : Waited r → Idle (sessionCore r))
    (hfit : StoredFit r) (hmode : r.session.mode = .controllerNetplay)
    (hinv : pastCheck (sessionCore r) → Matched r) (hkept : losesAgreement relay r op = false)
    (hstored : ∀ now, op = .sweep now → r.stateRecoveryPinExpired now = false)
    (h : Effect relay r op r') (hpast : pastCheck (sessionCore r')) : Matched r' := by
  have hterms := effect_terms h
  have hchange := effect_seats hseats h
  -- the room was past the check before, and the call does not touch the fingerprints
  have hkeep : leaves op = false → r'.compatibility = r.compatibility →
      pastCheck (sessionCore r) → Matched r' := by
    intro hstay hcompatibility hbefore
    have hmatched := hinv hbefore
    exact hmatched.keep hterms hcompatibility (hchange.full hstay hmatched.full)
  -- the last answer to a pause or a clock request
  have hanswer : r.status ≠ .checkingCompatibility →
      r.pauseState.isSome ∨ r.clockSyncRequest.isSome → pastCheck (sessionCore r) := by
    intro hstatus hopen
    simp only [pastCheck, Bool.or_eq_true, Bool.and_eq_true, decide_eq_true_eq]
    exact .inr ⟨hstatus, hopen⟩
  have hplay : r.status = .playing ∨ r.status = .paused → pastCheck (sessionCore r) := by
    rintro (hstatus | hstatus) <;> exact pastCheck_of_status hstatus rfl
  cases h with
  | bookkeeping h =>
    rw [h.core] at hpast
    have hmatched := hinv hpast
    exact hmatched.keep hterms h.compatibility (hmatched.full.keep h.players)
  | joined | reconnected | resynced | pinned | fingerprintRejected | fingerprintsDiffer =>
    exact absurd hpast (not_pastCheck_of_checking rfl)
  | hostAttached | handoffReconnected | inputAttached | sampleStored | voteCounted
  | inputAccepted | openHeld | frameReleased => exact hkeep rfl rfl hpast
  | exited => exact absurd hpast (not_pastCheck_of_idle rfl rfl rfl)
  | controlLost h => exact controlLoss_matched (fun hs => hwaited (.inl hs)) hinv hkept h hpast
  | inputLost =>
    have hmatched := hinv hpast
    exact hmatched.keep hterms rfl hmatched.full.detachInputSocket
  | @inputAndControlLost c control now slot _ hslot hstatus hcontrol h =>
    -- the input socket goes first, then the control socket of the same seat
    refine controlLoss_matched (fun hrecovering => ?_) (fun hbefore => ?_) ?_ h hpast
    · exact (hwaited (.inl hrecovering)).forgetInput _
    · have hmatched := hinv hbefore
      exact hmatched.keep (.of_eq rfl rfl rfl) rfl hmatched.full.detachInputSocket
    · rw [slotForConnection_detachInputSocket hseats hslot hcontrol]
      simp only [losesAgreement, hslot, hstatus, Bool.and_true] at hkept
      exact hkept
  | pinTimedOut hpin => exact absurd hpin (by simp [hstored _ rfl])
  | @handoffsLapsed _ closed _ _ hcleared hstatus =>
    rw [hcleared.core, hstatus] at hpast
    cases closed <;> exact absurd hpast (not_pastCheck_of_idle rfl rfl rfl)
  | heartbeatsStopped _ hdropped =>
    rw [hdropped.core] at hpast
    exact absurd hpast (not_pastCheck_of_idle rfl rfl rfl)
  | fingerprintStored _ _ _ _ hall =>
    exact absurd (hall.symm.trans ((hinv hpast).complete hseats)) (by simp)
  | @fingerprintsAgree order _ fp p _ _ _ hfp hall hsame =>
    have hseats' : Seats (r.storeFingerprint p fp) :=
      hseats.keep (setPlayerStatus_keeps _ (by simp)) rfl
    have hfit' : StoredFit (r.storeFingerprint p fp) :=
      hfit.of_insert (.of_eq rfl rfl rfl) (fingerprintMatchesSession_lowered hfp) rfl
    have hmatched := matched_of_check hseats' hfit' hmode hall hsame
    exact hmatched.keep (.of_eq rfl rfl rfl) rfl
      (hmatched.full.keep (updateConnected_keeps fun _ => .enter (by simp)))
  | linkRejected hlink | linkStored hlink | linksDiffer hlink | linksAgree hlink =>
    exact absurd (hmode.symm.trans hlink) (by simp)
  | becameReady hstatus h =>
    obtain ⟨_, hcore⟩ := h.core
    refine hkeep rfl (congrArg (·.compatibility) hcore) ?_
    rcases hstatus with hstatus | hstatus <;> exact pastCheck_of_status hstatus rfl
  | startedNow hstatus hr₁ | startFixedByVote hr₁ hstatus =>
    refine hkeep rfl hr₁.compatibility ?_
    rcases hstatus with hstatus | hstatus <;> exact pastCheck_of_status hstatus rfl
  | startFixedBySample hr₁ hrequest _ hfixes =>
    refine hkeep rfl hr₁.compatibility (hanswer ?_ (.inr (by rw [hrequest]; rfl)))
    simpa [losesAgreement, hfixes] using hkept
  | snapshotCompleted hop _ hstatus =>
    refine hkeep (snapshotOf_stays hop) rfl ?_
    rcases hstatus with hstatus | hstatus <;> exact pastCheck_of_status hstatus rfl
  | pauseOpened hstatus => exact hkeep rfl rfl (hplay hstatus)
  | pauseNoted hpause hnoted =>
    refine hkeep hnoted.stays rfl ?_
    have hpausing : (sessionCore r).pausing := by rw [SessionCore.pausing, sessionCore, hpause]; rfl
    rw [pastCheck, hpausing]
    exact hpast
  | paused _ hpause hcompletes | pauseEndedByLast _ hpause hcompletes
  | restartedByLast _ hpause hcompletes =>
    refine hkeep rfl rfl (hanswer ?_ (.inl (by rw [hpause]; rfl)))
    simpa [losesAgreement, hcompletes] using hkept
  | pauseEnded _ _ hstatus | restarted _ _ hstatus
  | openedByHost hstatus | openedByTimer hstatus =>
    exact hkeep rfl rfl (pastCheck_of_status hstatus rfl)
  | legacyInput h =>
    have hmatched := hinv (hplay h.status)
    refine hmatched.keep hterms (congrArg (·.compatibility) h.core) ?_
    exact fun slot hslot => hmatched.full slot (h.players ▸ hslot)
  | legacyTick _ h =>
    refine hkeep rfl (congrArg (·.compatibility) h.core) ?_
    rcases h.status with hstatus | hstatus <;> exact pastCheck_of_status hstatus rfl
  | recoveryPrepared hr₁ hstatus | recoveryLimited hr₁ hstatus =>
    exact hkeep rfl hr₁.compatibility (hplay hstatus)

/-! ## Whole runs -/

/-- **In every run of a controller room in which no call loses the agreement, whatever room past the
check it leads to has both fingerprints, and they agree.** -/
theorem fingerprints_agree {roomId key c session version resume input now voice ops s}
    (hguarded : Guarded (StoredRoom.step relay)
      (fun s op => Admissible s.room op ∧ losesAgreement relay s.room op = false)
      (createRoom roomId key c session version resume input now voice) ops)
    (hrun : run (StoredRoom.step relay)
      (createRoom roomId key c session version resume input now voice) ops = some s)
    (hmode : s.room.session.mode = .controllerNetplay) (hstatus : isMatched s.room.status) :
    FingerprintsAgree s.room := by
  let Inv : StoredRoom → Prop := fun s => Reachable relay s
    ∧ (s.room.session.mode = .controllerNetplay → pastCheck (sessionCore s.room) → Matched s.room)
  have hkeep : ∀ s op t, Inv s →
      Admissible s.room op ∧ losesAgreement relay s.room op = false →
      s.step relay op = some t → Inv t := by
    intro s op t hs hcall hstep
    refine ⟨reachable_step hs.1 hcall.1 hstep, fun hmode => ?_⟩
    have heffect := applyOp_effect relay s.room op
    rw [step_room hstep] at hmode ⊢
    rw [(effect_terms heffect).mode] at hmode
    refine effect_matched (seats_reachable hs.1) (waited_reachable hs.1) (storedFit_reachable hs.1)
      hmode (hs.2 hmode) hcall.2 (fun now hop => ?_) heffect
    exact step_sweep_pin (hop ▸ hstep)
  have hnew : Inv (createRoom roomId key c session version resume input now voice) := by
    refine ⟨reachable_createRoom, ?_⟩
    intro _ hpast
    cases voice <;> exact absurd hpast (not_pastCheck_of_idle rfl rfl rfl)
  have hinv := invariant_run hkeep hguarded hrun hnew
  exact (hinv.2 hmode (pastCheck_of_status rfl hstatus)).agree

/-- The first session of two players. -/
theorem fingerprints_agree_playing : FingerprintsAgree playingRoom.room := by
  have hfacts : Guarded (StoredRoom.step sampleRelay)
        (fun s op => Admissible s.room op ∧ losesAgreement sampleRelay s.room op = false)
        (sampleRoom 5) (seating false ++ handshake 5 0)
      ∧ (run (StoredRoom.step sampleRelay) (sampleRoom 5) (seating false ++ handshake 5 0)).isSome
      ∧ playingRoom.room.session.mode = .controllerNetplay ∧ isMatched playingRoom.room.status := by
    decide +kernel
  obtain ⟨hguarded, hsome, hmode, hstatus⟩ := hfacts
  obtain ⟨s, hs⟩ := Option.isSome_iff_exists.mp hsome
  have hroom : playingRoom = s := by rw [playingRoom, after, hs, Option.getD_some]
  rw [hroom] at hmode hstatus ⊢
  exact fingerprints_agree hguarded hs hmode hstatus

/-- A pause of a legacy session whose last answer comes after a fingerprint was rejected. -/
def pauseAfterCheck : List RoomOp :=
  seating false ++ handshake 4 0 ++ [.requestSessionPause hostSocket "p".toList .menu 0,
    .setCompatibility .stored guestSocket (strangeFingerprint 4),
    .markSessionPauseReached hostSocket 1 8 0, .markSessionPauseReached guestSocket 1 8 0]

/-- A clock request of a strict session whose last sample comes after a fingerprint was rejected. -/
def clockAfterCheck : List RoomOp :=
  seating true ++ handshake 5 0 ++ almostScheduled
    ++ [.setCompatibility .stored guestSocket (strangeFingerprint 5),
      .recordClockSyncSample .stored guestSocket (clockSample 1) 0]

/-- Three sessions without the guest's fingerprint: its socket closed under an armed handoff, or the
last answer to a pause or a clock request came after its fingerprint was rejected. -/
theorem session_without_fingerprint :
    let handedOff := after sampleRelay (sampleRoom 4) (seating false
      ++ [.armRunnerHandoff guestSocket 0] ++ handshake 4 0 ++ [.disconnect guestSocket 1])
    let paused := after sampleRelay (sampleRoom 4) pauseAfterCheck
    let scheduled := after sampleRelay (sampleRoom 5) clockAfterCheck
    (Reachable sampleRelay handedOff ∧ handedOff.room.status = .playing
        ∧ handedOff.room.compatibility.lookup .two = none)
      ∧ (Reachable sampleRelay paused ∧ paused.room.status = .paused
        ∧ paused.room.compatibility.lookup .two = none)
      ∧ Reachable sampleRelay scheduled ∧ scheduled.room.status = .startScheduled
        ∧ scheduled.room.compatibility.lookup .two = none := by
  refine ⟨⟨reachable_after ?_, ?_⟩, ⟨reachable_after ?_, ?_⟩, reachable_after ?_, ?_⟩ <;>
    decide +kernel

end NetplayRelay.Proof
