import NetplayRelay.Proof.SessionEpochs

/-!
# Sockets of a running session

A controller session begins with four sockets: nobody counts as ready before both players' input
sockets hang on their seats. From there on the status alone does not say that they are still there.
The host may come back through its invite at any time, and a seat under an armed runner handoff may
be taken over or left, all without touching the status; and a session may begin, or a pause end,
on an answer that was asked for before a socket went.

`unseats` names these calls, and nothing else: along a run, every session has all its sockets
exactly as long as none of them is made.
-/

namespace NetplayRelay.Proof

open Lib Protocol Rooms Registry NetplayRoom

/-- The player is there, with both sockets. -/
def isAttached (slot : PlayerSlot) : Bool :=
  slot.connectionId.isSome && slot.inputConnectionId.isSome

/-- Both players are. -/
def allAttached (r : NetplayRoom) : Bool := r.players.all isAttached

/-- A session that is under way has all its sockets. -/
def Attended (r : NetplayRoom) : Prop := inSession r.status → allAttached r

/-- The request takes the seat of a player over whose handoff is armed. -/
def takesOver (r : NetplayRoom) (request : PlayerReconnectRequest) : Bool :=
  (r.slotForPlayer request.playerIndex).any fun slot => handoffArmed slot request.now
    && slot.resumeTokenHash = some request.resumeTokenHash
    && (request.roomEpoch = slot.reconnectRoomEpoch.getD r.roomEpoch
      || request.roomEpoch = r.roomEpoch)

/-- The calls that leave a session without one of its sockets, or begin one without. -/
def unseats (relay : Relay) (r : NetplayRoom) : RoomOp → Bool
  | .connectHost key .. => inSession r.status
    && (r.players.find? (·.role = .host)).any (·.subjectKey = some key)
  | .reconnectPlayer request => inSession r.status && takesOver r request
  | .disconnect c now => inSession r.status && (r.slotForConnection c).any (handoffArmed · now)
  | .disconnectInputSocket c now =>
    inSession r.status && (r.slotForInputConnection c).any (handoffArmed · now)
  | .recordClockSyncSample _ c sample now =>
    !allAttached r && fixesStart r c sample (relay.serverTimeMsAt now)
  | .markDeterministicReady _ c _ _ => !allAttached r && fixesStartByVote r c
  | .markSessionPauseReached c sequence frame _ =>
    !allAttached r && completesPause r c sequence frame
  | _ => false

variable {relay : Relay} {r r' : NetplayRoom} {op : RoomOp} {slot : PlayerSlot} {c : ConnectionId}
  {now : Instant}

/-! ## Sockets and seats -/

theorem allAttached_keeps (h : List.Forall₂ Keeps r.players r'.players) :
    allAttached r' = allAttached r :=
  all_of_forall₂ h fun slot slot' hs => by
    rw [isAttached, isAttached, hs.connectionId, hs.inputConnectionId]

/-- Calls that move nobody leave all sockets where they are. -/
theorem SeatChange.keeps (h : SeatChange r op r') (hnew : attaches op = none)
    (hstay : leaves op = false) : List.Forall₂ Keeps r.players r'.players := by
  cases h with
  | kept h => exact h
  | attached hattached => exact absurd (hnew.symm.trans hattached) (by simp)
  | yielded hleaves | dropped hleaves => exact absurd (hstay.symm.trans hleaves) (by simp)

/-- The check before readiness looks at all seats. -/
theorem allAttached_of_sockets (hseats : Seats r) (h : r.connectedPlayersHaveInputSockets) :
    allAttached r := by
  obtain ⟨hlength, hall⟩ := Bool.and_eq_true_iff.mp h
  have hfull := full_of_connected hseats (of_decide_eq_true hlength)
  refine List.all_eq_true.mpr fun slot hslot => ?_
  have hindex : slot.playerIndex ∈ r.connectedPlayerIndices :=
    List.mem_map_of_mem (List.mem_filter.mpr ⟨hslot, hfull slot hslot⟩)
  have hinput := List.all_eq_true.mp hall _ hindex
  rw [hseats.slotForPlayer hslot] at hinput
  exact Bool.and_eq_true_iff.mpr ⟨hfull slot hslot, hinput⟩

theorem allAttached_attached (h : allAttached r) (hslot : slot ∈ r.players) :
    slot.connectionId.isSome ∧ slot.inputConnectionId.isSome :=
  Bool.and_eq_true_iff.mp (List.all_eq_true.mp h slot hslot)

/-- One slot without a socket is enough. -/
theorem not_allAttached (hslot : slot ∈ r.players)
    (h : slot.connectionId = none ∨ slot.inputConnectionId = none) : allAttached r = false := by
  refine List.all_eq_false.mpr ⟨slot, hslot, ?_⟩
  rcases h with h | h <;> simp [isAttached, h]

/-- In a session the loss of an input socket starts recovery. -/
theorem inSession_inputLossIsRecoverable {status : RoomStatus} (h : inSession status) :
    status.inputLossIsRecoverable := by
  cases status <;> first | rfl | exact absurd h (by simp [inSession])

/-! ## No other call unseats anybody -/

theorem controlLoss_attended {grace : Duration} (hinv : r.slotForConnection c = none → Attended r)
    (hkept : (inSession r.status && (r.slotForConnection c).any (handoffArmed · now)) = false)
    (h : ControlLoss r c now grace r') : Attended r' := by
  intro hin
  cases h with
  | unknown hslot h =>
    rw [h.status] at hin
    rw [allAttached_keeps h.players]
    exact hinv hslot hin
  | handoffKept hslot harmed =>
    have hout : inSession r.status = false := by simpa [hslot, harmed] using hkept
    exact absurd (hout.symm.trans hin) (by simp)
  | alsoLost hr₁ _ _ _ hstatus =>
    exact absurd hin (by simp [detachControl, markSlotReconnecting, hr₁.status, hstatus, inSession])
  | recovery | hostGone | guestGone => exact absurd hin (by simp [inSession])

theorem effect_attended (hseats : Seats r) (hmode : r.session.mode = .controllerNetplay)
    (hinv : Attended r) (hkept : unseats relay r op = false) (h : Effect relay r op r') :
    Attended r' := by
  intro hin
  have hchange := effect_seats hseats h
  -- the session had its sockets before, and nobody is moved
  have hkeep : allAttached r → List.Forall₂ Keeps r.players r'.players → allAttached r' := by
    intro hbefore hplayers
    rwa [allAttached_keeps hplayers]
  have hquiet : attaches op = none → leaves op = false → allAttached r → allAttached r' :=
    fun hnew hstay hbefore => hkeep hbefore (hchange.keeps hnew hstay)
  cases h with
  | bookkeeping h =>
    rw [h.status] at hin
    exact hkeep (hinv hin) h.players
  | joined | reconnected | exited | pinTimedOut | fingerprintRejected | fingerprintsDiffer
  | fingerprintsAgree | resynced | recoveryPrepared | recoveryLimited | pinned =>
    exact absurd hin (by simp [inSession, resetSyncForCheckingCompatibility])
  | hostAttached _ hslot hkey =>
    have hout : inSession r.status = false := by simpa [unseats, hslot, hkey] using hkept
    exact absurd (hout.symm.trans hin) (by simp)
  | @handoffReconnected request slot _ hreturns hhandoff =>
    have harmed : handoffArmed slot request.now := by
      obtain ⟨deadline, hdeadline⟩ := Option.isSome_iff_exists.mp hhandoff
      have htime := hreturns.inTime.2
      rw [handoffArmed, hdeadline]
      rwa [hdeadline] at htime
    have htakes : takesOver r request := by
      simp [takesOver, hreturns.found, harmed, hreturns.token, hreturns.epoch]
    have hout : inSession r.status = false := by simpa [unseats, htakes] using hkept
    exact absurd (hout.symm.trans hin) (by simp)
  | @inputAttached p _ _ _ c now _ hslot hcontrol =>
    have hbefore := hinv hin
    have hmap : List.Forall₂ (fun slot slot' => isAttached slot → isAttached slot') r.players
        (r.updateSlot (·.playerIndex = p) fun slot =>
          { slot with
            inputSocketTokenHash := none
            inputSocketControlConnectionId := none
            inputConnectionId := some c
            lastSeenAt := some now }).players := by
      refine forall₂_updateFirst (fun _ => id) fun slot _ hs => ?_
      simpa [isAttached] using (Bool.and_eq_true_iff.mp hs).1
    refine List.all_eq_true.mpr fun slot' hslot' => ?_
    obtain ⟨slot, hslot, hs⟩ := forall₂_mem hmap hslot'
    exact hs (List.all_eq_true.mp hbefore slot hslot)
  | controlLost h => exact controlLoss_attended (fun _ => hinv) hkept h hin
  | @inputLost c now slot hslot hstatus =>
    -- in a running session the seat has a control socket, which would have gone too
    have hcontrol := hseats.controlOfInput hslot
    rw [hstatus (inSession_inputLossIsRecoverable hin)] at hcontrol
    exact absurd hcontrol (by simp)
  | @inputAndControlLost c control now slot _ hslot hstatus hcontrol h =>
    -- the input socket goes first, then the control socket of the same seat
    have hfound : (r.detachInputSocket c slot.playerIndex now).slotForConnection control
        = some (forgetInput now slot) := slotForConnection_detachInputSocket hseats hslot hcontrol
    refine controlLoss_attended (fun hunknown => ?_) ?_ h hin
    · exact absurd (hunknown.symm.trans hfound) (by simp)
    · have harmed : handoffArmed (forgetInput now slot) now = handoffArmed slot now := rfl
      simpa [unseats, hfound, hslot, harmed] using hkept
  | @handoffsLapsed _ closed _ _ _ hstatus =>
    rw [hstatus] at hin
    cases closed <;> exact absurd hin (by simp [inSession])
  | heartbeatsStopped _ hdropped =>
    have hstatus : r'.status = .recovering := congrArg (·.status) hdropped.core
    exact absurd hin (by simp [hstatus, inSession])
  | fingerprintStored | sampleStored | voteCounted | pauseOpened | inputAccepted | openHeld
  | frameReleased => exact hquiet rfl rfl (hinv hin)
  | linkRejected hlink | linkStored hlink | linksDiffer hlink | linksAgree hlink =>
    exact absurd (hmode.symm.trans hlink) (by simp)
  | snapshotCompleted | pauseNoted => exact hkeep (hinv hin) (keeps_refl _)
  | becameReady _ h =>
    obtain ⟨_, hcore⟩ := h.core
    have hstatus : r'.status = .ready := congrArg (·.status) hcore
    exact absurd hin (by simp [hstatus, inSession])
  | startedNow _ _ hmay => exact hquiet rfl rfl (allAttached_of_sockets hseats (hmay.sockets hmode))
  | startFixedBySample _ _ _ hfixes | startFixedByVote _ _ _ _ hfixes =>
    refine hquiet rfl rfl ?_
    simpa [unseats, hfixes] using hkept
  | paused _ _ hcompletes | pauseEndedByLast _ _ hcompletes | restartedByLast _ _ hcompletes =>
    refine hquiet rfl rfl ?_
    simpa [unseats, hcompletes] using hkept
  | pauseEnded _ _ hstatus | restarted _ _ hstatus | openedByHost hstatus | openedByTimer hstatus =>
    exact hquiet rfl rfl (hinv (by rw [hstatus]; rfl))
  | legacyInput h =>
    refine hkeep (hinv ?_) (by rw [h.players]; exact keeps_refl _)
    rcases h.status with hstatus | hstatus <;> rw [hstatus] <;> rfl
  | legacyTick _ h =>
    refine hquiet rfl rfl (hinv ?_)
    rcases h.status with hstatus | hstatus <;> rw [hstatus] <;> rfl

/-! ## Each of these calls does -/

theorem attachHost_unattended {key : Text} {resume input : ResumeTokenHash}
    {capabilities : ClientTransportCapabilities} (hin : inSession r.status)
    (hhost : (r.players.find? (·.role = .host)).any (·.subjectKey = some key)) :
    let r' := (r.attachHostWithResume key c resume input now capabilities).2
    r'.status = r.status ∧ allAttached r' = false := by
  obtain ⟨slot, hslot, hkey⟩ := (Option.any_eq_true _ _).mp hhost
  have hopen : r.status ≠ .closed := fun h => absurd hin (by simp [h, inSession])
  have hsame : ¬slot.subjectKey ≠ some key := by simpa using hkey
  simp only [attachHostWithResume, if_neg hopen, hslot, if_neg hsame]
  exact ⟨rfl, not_allAttached (mem_updateFirst hslot) (.inr rfl)⟩

theorem reconnectPlayer_unattended {request : PlayerReconnectRequest} (hseats : Seats r)
    (hinv : Attended r) (hin : inSession r.status) (htakes : takesOver r request) :
    let r' := (r.reconnectPlayer request).2
    r'.status = r.status ∧ allAttached r' = false := by
  obtain ⟨slot, hslot, hmay⟩ := (Option.any_eq_true _ _).mp htakes
  simp only [Bool.and_eq_true, Bool.or_eq_true, decide_eq_true_eq] at hmay
  obtain ⟨⟨harmed, htoken⟩, hepoch⟩ := hmay
  obtain ⟨deadline, hdeadline, hnow⟩ := (Option.any_eq_true _ _).mp harmed
  have hopen : r.status ≠ .closed := fun h => absurd hin (by simp [h, inSession])
  -- nobody waits for a player who is there
  have hmem := List.mem_of_find?_eq_some hslot
  have hunawaited : slot.reconnectDeadline = none := by
    have hconnected := (allAttached_attached (hinv hin) hmem).1
    by_contra hsome
    have hlost := (hseats.seated slot hmem).lost (Option.isSome_iff_ne_none.mpr hsome)
    exact absurd hconnected (by simp [hlost])
  have hreturns : Returns r request slot := by
    refine ⟨hslot, htoken, .inl (by simp [hdeadline]), hepoch, ?_, ?_⟩
    · simp [hunawaited]
    · rw [hdeadline]
      exact hnow
  rw [reconnectPlayer_returns hopen hreturns, if_pos (by simp [hdeadline])]
  exact ⟨rfl, not_allAttached (mem_updateFirst hslot) (.inr rfl)⟩

theorem disconnectWithRecovery_unattended {grace : Duration}
    (hslot : r.slotForConnection c = some slot) (harmed : handoffArmed slot now) :
    let r' := (r.disconnectWithRecovery c now grace).2
    r'.status = r.status ∧ allAttached r' = false := by
  rw [disconnectWithRecovery_handoffKept grace hslot harmed]
  refine ⟨rfl, ?_⟩
  rw [allAttached_keeps (resetSyncStateTo_keeps _ 0)]
  exact not_allAttached (mem_updateFirst hslot) (.inl rfl)

theorem unseats_unattended (hseats : Seats r) (hinv : Attended r) (h : unseats relay r op) :
    ¬Attended (applyOp relay r op) := by
  have hchange := effect_seats hseats (applyOp_effect relay r op)
  intro hattended
  -- it is enough that the call ends in a session without its sockets
  have hfail : ∀ {status}, (applyOp relay r op).status = status → inSession status →
      allAttached (applyOp relay r op) = false → False := by
    intro status hstatus hin hmissing
    have := hattended (hstatus ▸ hin)
    exact absurd (hmissing.symm.trans this) (by simp)
  have hbegins : ∀ {status}, attaches op = none → leaves op = false → (!allAttached r) = true →
      (applyOp relay r op).status = status → inSession status → False := by
    intro status hnew hstay hmissing hstatus hin
    refine hfail hstatus hin ?_
    rw [allAttached_keeps (hchange.keeps hnew hstay)]
    simpa using hmissing
  cases op with
  | connectHost =>
    obtain ⟨hin, hhost⟩ := Bool.and_eq_true_iff.mp h
    obtain ⟨hstatus, hmissing⟩ := attachHost_unattended hin hhost
    exact hfail hstatus hin hmissing
  | reconnectPlayer =>
    obtain ⟨hin, htakes⟩ := Bool.and_eq_true_iff.mp h
    obtain ⟨hstatus, hmissing⟩ := reconnectPlayer_unattended hseats hinv hin htakes
    exact hfail hstatus hin hmissing
  | disconnect =>
    obtain ⟨hin, hslot⟩ := Bool.and_eq_true_iff.mp h
    obtain ⟨slot, hslot, harmed⟩ := (Option.any_eq_true _ _).mp hslot
    obtain ⟨hstatus, hmissing⟩ := disconnectWithRecovery_unattended hslot harmed
    exact hfail hstatus hin hmissing
  | disconnectInputSocket c now =>
    obtain ⟨hin, hslot⟩ := Bool.and_eq_true_iff.mp h
    obtain ⟨slot, hslot, harmed⟩ := (Option.any_eq_true _ _).mp hslot
    obtain ⟨control, hcontrol⟩ := Option.isSome_iff_exists.mp (hseats.controlOfInput hslot)
    have hloss : applyOp relay r (.disconnectInputSocket c now)
        = ((r.detachInputSocket c slot.playerIndex now).disconnectWithRecovery control now
            relay.recovery.reconnectGrace).2 :=
      disconnectInputSocket_running hslot hcontrol (inSession_inputLossIsRecoverable hin)
    obtain ⟨hstatus, hmissing⟩ := disconnectWithRecovery_unattended
      (slotForConnection_detachInputSocket hseats hslot hcontrol) harmed
    rw [← hloss] at hstatus hmissing
    exact hfail hstatus hin hmissing
  | recordClockSyncSample =>
    obtain ⟨hmissing, hfixes⟩ := Bool.and_eq_true_iff.mp h
    exact hbegins rfl rfl hmissing (recordClockSyncSample_fixes hfixes) rfl
  | markDeterministicReady =>
    obtain ⟨hmissing, hfixes⟩ := Bool.and_eq_true_iff.mp h
    exact hbegins rfl rfl hmissing (markDeterministicReady_fixes hfixes) rfl
  | markSessionPauseReached =>
    obtain ⟨hmissing, hcompletes⟩ := Bool.and_eq_true_iff.mp h
    rcases markSessionPauseReached_completes hcompletes with hstatus | hstatus | hstatus
    · exact hbegins rfl rfl hmissing hstatus rfl
    · exact hbegins rfl rfl hmissing hstatus rfl
    · exact hbegins rfl rfl hmissing hstatus rfl
  | _ => exact absurd h (by simp [unseats])

/-- Nor does such a call drop the room. -/
theorem unseats_stored {s : StoredRoom} (h : unseats relay s.room op) :
    s.removedBy relay op = false := by
  cases op with
  | disconnect c now =>
    obtain ⟨_, hslot⟩ := Bool.and_eq_true_iff.mp h
    obtain ⟨slot, hslot, harmed⟩ := (Option.any_eq_true _ _).mp hslot
    simp [StoredRoom.removedBy, disconnectWithRecovery_handoffKept _ hslot harmed]
  | sweep => exact absurd h (by simp [unseats])
  | _ => rfl

/-! ## Whole runs -/

/-- **Along a run of a controller room, every session has both players' control and input sockets
exactly if no call of the run unseats anybody.** -/
theorem session_attended_iff {roomId key c} {session : NetplaySessionDescriptor}
    {version resume input now voice ops} (hmode : session.mode = .controllerNetplay)
    (hadmissible : Guarded (StoredRoom.step relay) (fun s op => Admissible s.room op)
      (createRoom roomId key c session version resume input now voice) ops) :
    (∀ done s, done <+: ops → run (StoredRoom.step relay)
        (createRoom roomId key c session version resume input now voice) done = some s →
      inSession s.room.status → ∀ slot ∈ s.room.players,
        slot.connectionId.isSome ∧ slot.inputConnectionId.isSome)
      ↔ Guarded (StoredRoom.step relay) (fun s op => unseats relay s.room op = false)
        (createRoom roomId key c session version resume input now voice) ops := by
  let Inv : StoredRoom → Prop := fun s =>
    Reachable relay s ∧ s.room.session.mode = .controllerNetplay
  have hkeep : ∀ s op t, Inv s → Admissible s.room op → s.step relay op = some t → Inv t := by
    intro s op t hs hcall hstep
    refine ⟨reachable_step hs.1 hcall hstep, ?_⟩
    rw [step_room hstep, (effect_terms (applyOp_effect relay s.room op)).mode]
    exact hs.2
  have hstep : ∀ s op t, Inv s → Attended s.room → Admissible s.room op →
      s.step relay op = some t → (Attended t.room ↔ unseats relay s.room op = false) := by
    intro s op t hs hattended _ hstep
    have hseats := seats_reachable hs.1
    rw [step_room hstep]
    constructor
    · intro hafter
      by_contra hunseats
      exact unseats_unattended hseats hattended (by simpa using hunseats) hafter
    · exact fun hkept =>
        effect_attended hseats hs.2 hattended hkept (applyOp_effect relay s.room op)
  have hstop : ∀ s op, Inv s → Attended s.room → Admissible s.room op →
      s.step relay op = none → unseats relay s.room op = false := by
    intro s op _ _ _ hstop
    by_contra hunseats
    have hstored := unseats_stored (by simpa using hunseats)
    rw [StoredRoom.step, hstored] at hstop
    exact absurd hstop (by simp)
  have hnew : Inv (createRoom roomId key c session version resume input now voice)
      ∧ Attended (createRoom roomId key c session version resume input now voice).room := by
    refine ⟨⟨reachable_createRoom, ?_⟩, ?_⟩
    · cases voice <;> exact hmode
    · intro hin
      cases voice <;> exact absurd hin Bool.false_ne_true
  rw [← forall_reached_iff_guarded hkeep hstep hstop hnew.1 hnew.2 hadmissible]
  have hreading : ∀ s : StoredRoom, Attended s.room ↔ (inSession s.room.status →
      ∀ slot ∈ s.room.players, slot.connectionId.isSome ∧ slot.inputConnectionId.isSome) := by
    intro s
    simp only [Attended, allAttached, List.all_eq_true, isAttached, Bool.and_eq_true]
  simp only [hreading]

/-- The first session of two players. -/
theorem session_attended_playing :
    inSession playingRoom.room.status ∧ ∀ slot ∈ playingRoom.room.players,
      slot.connectionId.isSome ∧ slot.inputConnectionId.isSome := by
  have hfacts : Possible sampleRelay (sampleRoom 5) (seating false ++ handshake 5 0)
      ∧ Guarded (StoredRoom.step sampleRelay) (fun s op => unseats sampleRelay s.room op = false)
        (sampleRoom 5) (seating false ++ handshake 5 0)
      ∧ inSession playingRoom.room.status := by
    decide +kernel
  obtain ⟨hpossible, hkept, hin⟩ := hfacts
  exact ⟨hin, (session_attended_iff rfl hpossible.1).mpr hkept _ playingRoom (List.prefix_refl _)
    hpossible.run_eq hin⟩

/-- Three sessions without an input socket: the host came back through its invite, the guest's
sockets closed under an armed handoff, and the guest's input socket was gone when the last clock
sample fixed the start. -/
theorem session_unattended :
    let attachedAgain := after sampleRelay (sampleRoom 5) (seating false ++ handshake 5 0
      ++ [.connectHost "host".toList ⟨5⟩ "hr2".toList "hi2".toList 1
        ⟨true, true, false, false, true⟩])
    let handedOff := after sampleRelay (sampleRoom 5) (seating false
      ++ [.armRunnerHandoff guestSocket 0] ++ handshake 5 0 ++ [.disconnect guestSocket 1])
    let scheduled := after sampleRelay (sampleRoom 5) (seating true ++ handshake 5 0
      ++ almostScheduled ++ [.disconnectInputSocket guestInput 0,
        .recordClockSyncSample .stored guestSocket (clockSample 1) 0])
    let sockets := fun s : StoredRoom => s.room.players.map fun slot =>
      (slot.connectionId.isSome, slot.inputConnectionId.isSome)
    (Reachable sampleRelay attachedAgain
        ∧ attachedAgain.room.session.mode = .controllerNetplay
        ∧ attachedAgain.room.status = .playing
        ∧ sockets attachedAgain = [(true, false), (true, true)])
      ∧ (Reachable sampleRelay handedOff ∧ handedOff.room.session.mode = .controllerNetplay
        ∧ handedOff.room.status = .playing ∧ sockets handedOff = [(true, true), (false, false)])
      ∧ Reachable sampleRelay scheduled ∧ scheduled.room.session.mode = .controllerNetplay
        ∧ scheduled.room.status = .startScheduled
        ∧ sockets scheduled = [(true, true), (true, false)] := by
  refine ⟨⟨reachable_after ?_, ?_⟩, ⟨reachable_after ?_, ?_⟩, reachable_after ?_, ?_⟩ <;>
    decide +kernel

end NetplayRelay.Proof
