import NetplayRelay.Proof.Repairs
import NetplayRelay.Proof.SessionEpochs

/-!
# Scheduled starts

A common start is fixed by whichever comes last, a clock sample or a report of deterministic
readiness. The code asks for the samples in a ready room, but what it checks when they arrive is
neither the status nor the ready set. That the start is fixed in a ready room with both players
ready is a matter of what happened in between.

`StartInv` keeps track of it: as long as a clock request is open and no start is fixed, the room is
ready and so are both players, unless the room is being repaired or is closed. `untimely` names the
calls that break this, or that take the schedule of a scheduled start away. Everything else keeps
the invariant, whatever the order of calls.
-/

namespace NetplayRelay.Proof

open Lib Protocol Rooms Registry NetplayRoom

/-! ## What a start rests on -/

/-- The schedule is for the session it starts: its epochs, and the frame that is released first. -/
def ScheduleFits (core : SessionCore) : Prop :=
  ∃ start, core.scheduledStart = some start ∧ start.roomEpoch = core.roomEpoch
    ∧ start.sessionEpoch = core.sessionEpoch ∧ start.startFrame = core.syncStartFrame
    ∧ start.startFrame = core.nextReleaseFrame

/-- The sample with which player `p` answers `request`, if this call is one. -/
def answerOf (relay : Relay) (request : ClockSyncSampleRequest) (p : PlayerIndex)
    (visit : StoredRoom × RoomOp) : Option Nat :=
  match visit.2 with
  | .recordClockSyncSample _ c sample now =>
    if visit.1.room.playerIndexForConnection c = some p
        ∧ visit.1.room.clockSyncRequest = some request
        ∧ sampleAnswers request sample (relay.serverTimeMsAt now) then
      some sample.sampleIndex
    else none
  | _ => none

/-- The indices of the samples with which player `p` has answered `request`. -/
def answers (relay : Relay) (request : ClockSyncSampleRequest) (p : PlayerIndex)
    (past : List (StoredRoom × RoomOp)) : List Nat :=
  past.filterMap (answerOf relay request p)

/-- What a start that a sample or a vote fixes rests on. `past` are the calls up to this one. -/
structure Grounded (relay : Relay) (past : List (StoredRoom × RoomOp)) (r r' : NetplayRoom) :
    Prop where
  status : r.status = .ready
  ready : .one ∈ r.readyPlayers ∧ .two ∈ r.readyPlayers
  deterministic : .one ∈ r'.deterministicReadyPlayers ∧ .two ∈ r'.deterministicReadyPlayers
  snapshot : r.hostSnapshotCompleted
  /-- Each player has answered the open request with two different samples. -/
  samples : ∃ request, r.clockSyncRequest = some request ∧ ∀ p, p = .one ∨ p = .two →
    ∃ i ∈ answers relay request p past, ∃ j ∈ answers relay request p past, i ≠ j

/-- Clock samples and votes, the calls that can complete what a start waits for. -/
def isStartReport : RoomOp → Bool
  | .recordClockSyncSample .. | .markDeterministicReady .. => true
  | _ => false

/-! ## Calls out of turn -/

/-- Samples are being collected for a start. -/
def samplesClocks (r : NetplayRoom) : Bool :=
  r.status = .ready && r.clockSyncRequest.isSome && r.scheduledStart.isNone

/-- The calls that come out of turn. While samples are collected: the host comes back through its
invite, a player sends its fingerprint, a session begins without waiting for them. In a session or a
repair: a fingerprint is judged. In a room that is being repaired or is closed: the last answer to a
pause or to the clock request. Before a scheduled start: a socket closes under an armed handoff. -/
def untimely (relay : Relay) (r : NetplayRoom) : RoomOp → Bool
  | .connectHost key .. => samplesClocks r
    && (r.players.find? (·.role = .host)).any (·.subjectKey = some key)
  | .setCompatibility _ c fp => samplesClocks r && (r.playerIndexForConnection c).isSome
    || (inSession r.status || r.status = .repairingState) && fingerprintDecides r c fp
  | .markReady c .. => samplesClocks r && startsByReport r c
  | .markSessionPauseReached c sequence frame _ =>
    (r.status = .repairingState || r.status = .closed) && completesPause r c sequence frame
  | .recordClockSyncSample _ c sample now =>
    (r.status = .repairingState || r.status = .closed)
      && fixesStart r c sample (relay.serverTimeMsAt now)
  | .disconnect c now =>
    r.status = .startScheduled && (r.slotForConnection c).any (handoffArmed · now)
  | .disconnectInputSocket c now =>
    r.status = .startScheduled && (r.slotForInputConnection c).any (handoffArmed · now)
  | _ => false

/-! ## The invariant -/

structure StartInv (core : SessionCore) : Prop where
  /-- Samples are asked for twice, and after the host's snapshot. -/
  asked : ∀ request, core.clockSyncRequest = some request →
    request.requestedSampleCount = clockSyncRequestedSampleCount ∧ core.hostSnapshotCompleted
  /-- As long as samples can fix a start, the room is ready, and so are both players. -/
  sampling : core.clockSyncRequest.isSome → core.scheduledStart = none →
    (core.status = .ready ∧ .one ∈ core.readyPlayers ∧ .two ∈ core.readyPlayers)
      ∨ core.status = .repairingState ∨ core.status = .closed
  /-- A pause is a pause of a session. -/
  pausing : core.pauseState.isSome → core.status = .playing ∨ core.status = .paused
    ∨ core.status = .repairingState ∨ core.status = .closed
  scheduled : core.status = .startScheduled → ScheduleFits core
  /-- Before a session nothing has been released. -/
  unplayed : beforeSession core.status → core.nextReleaseFrame = core.syncStartFrame

variable {relay : Relay} {r r' : NetplayRoom} {op : RoomOp} {core core' : SessionCore}
  {c : ConnectionId} {past : List (StoredRoom × RoomOp)}

namespace StartInv

theorem of_same (h : StartInv (sessionCore r)) (hsame : SameSession r r') :
    StartInv (sessionCore r') := by
  rw [hsame.core]
  exact h

/-- Everything negotiated is forgotten. -/
theorem of_reset (hrequest : core.clockSyncRequest = none) (hpause : core.pauseState = none)
    (hstatus : core.status ≠ .startScheduled)
    (hframe : core.nextReleaseFrame = core.syncStartFrame) : StartInv core where
  asked := fun _ h => absurd (hrequest.symm.trans h) (by simp)
  sampling := fun h => absurd h (by simp [hrequest])
  pausing := fun h => absurd h (by simp [hpause])
  scheduled := fun h => absurd h hstatus
  unplayed := fun _ => hframe

/-- Requests, schedule, pause and status are as before; players may have become ready. -/
theorem carry (h : StartInv core) (hrequest : core'.clockSyncRequest = core.clockSyncRequest)
    (hsnapshot : core.hostSnapshotCompleted → core'.hostSnapshotCompleted)
    (hstart : core'.scheduledStart = core.scheduledStart) (hstatus : core'.status = core.status)
    (hready : core.readyPlayers ⊆ core'.readyPlayers) (hpause : core'.pauseState = core.pauseState)
    (hroom : core'.roomEpoch = core.roomEpoch) (hsession : core'.sessionEpoch = core.sessionEpoch)
    (hsync : core'.syncStartFrame = core.syncStartFrame)
    (hrelease : core'.nextReleaseFrame = core.nextReleaseFrame) : StartInv core' where
  asked := by
    rw [hrequest]
    exact fun request hr => ⟨(h.asked request hr).1, hsnapshot (h.asked request hr).2⟩
  sampling := by
    rw [hrequest, hstart, hstatus]
    intro hr hs
    rcases h.sampling hr hs with ⟨hstatus, hone, htwo⟩ | hother
    · exact .inl ⟨hstatus, hready hone, hready htwo⟩
    · exact .inr hother
  pausing := by
    rw [hpause, hstatus]
    exact h.pausing
  scheduled := by
    rw [hstatus, ScheduleFits, hstart, hroom, hsession, hsync, hrelease]
    exact h.scheduled
  unplayed := by
    rw [hstatus, hrelease, hsync]
    exact h.unplayed

theorem no_sampling (h : StartInv (sessionCore r)) (hready : samplesClocks r = false)
    (hrepair : r.status ≠ .repairingState) (hclosed : r.status ≠ .closed)
    (hrequest : r.clockSyncRequest.isSome) (hstart : r.scheduledStart = none) : False := by
  rcases h.sampling hrequest hstart with ⟨hstatus, _⟩ | hstatus | hstatus
  · have hstatus : r.status = .ready := hstatus
    exact absurd hready (by simp [samplesClocks, hstatus, hrequest, hstart])
  · exact hrepair hstatus
  · exact hclosed hstatus

/-- A start is fixed in a ready room before anything was released. -/
theorem scheduled_of_ready {r₁ : NetplayRoom} {t : Nat} (h : StartInv (sessionCore r))
    (hr₁ : sessionCore r₁ = core) (hstatus : r.status = .ready)
    (hrequest : core.clockSyncRequest = r.clockSyncRequest)
    (hsnapshot : core.hostSnapshotCompleted = r.hostSnapshotCompleted)
    (hpause : core.pauseState = r.pauseState) (hsync : core.syncStartFrame = r.syncStartFrame)
    (hrelease : core.nextReleaseFrame = r.nextReleaseFrame) :
    StartInv (sessionCore (scheduleStart r₁ t)) where
  asked := by
    have hasked := h.asked
    have hrequest' := (congrArg (·.clockSyncRequest) hr₁).trans hrequest
    have hsnapshot' := (congrArg (·.hostSnapshotCompleted) hr₁).trans hsnapshot
    intro request hr
    have hr' : r.clockSyncRequest = some request := hrequest'.symm.trans hr
    exact ⟨(hasked request hr').1, hsnapshot'.trans (hasked request hr').2⟩
  sampling := fun _ hnone => absurd hnone (by simp [sessionCore, scheduleStart])
  pausing := by
    intro hopen
    have hpause' := (congrArg (·.pauseState) hr₁).trans hpause
    have hopen' : r.pauseState.isSome := hpause' ▸ hopen
    rcases h.pausing hopen' with hp | hp | hp | hp <;>
      exact absurd (hstatus.symm.trans hp) (by simp)
  scheduled := by
    intro _
    have hframe : r.nextReleaseFrame = r.syncStartFrame :=
      h.unplayed (congrArg beforeSession hstatus)
    have hsync' : r₁.syncStartFrame = r.syncStartFrame :=
      (congrArg (·.syncStartFrame) hr₁).trans hsync
    have hrelease' : r₁.nextReleaseFrame = r.nextReleaseFrame :=
      (congrArg (·.nextReleaseFrame) hr₁).trans hrelease
    refine ⟨_, rfl, rfl, rfl, rfl, ?_⟩
    exact hsync'.trans (hframe.symm.trans hrelease'.symm)
  unplayed := fun hbefore => absurd hbefore (by simp [sessionCore, scheduleStart, beforeSession])

end StartInv

theorem controlLoss_start {now : Instant} {grace : Duration}
    (hwaited : r.status = .recovering → Idle (sessionCore r)) (hinv : StartInv (sessionCore r))
    (htimely : (decide (r.status = .startScheduled)
      && (r.slotForConnection c).any (handoffArmed · now)) = false)
    (h : ControlLoss r c now grace r') : StartInv (sessionCore r') := by
  cases h with
  | unknown _ h => exact hinv.of_same h
  | handoffKept hslot harmed =>
    have hstatus : r.status ≠ .startScheduled := by simpa [hslot, harmed] using htimely
    exact .of_reset rfl rfl hstatus rfl
  | @alsoLost r₁ _ _ _ hr₁ _ _ _ hstatus =>
    have hidle := (hwaited hstatus).of_same hr₁
    have hrecovering := hr₁.status.trans hstatus
    have hpause : r₁.pauseState = none := by
      simpa [SessionCore.pausing, sessionCore] using hidle.noPause
    refine .of_reset hidle.noRequest hpause ?_ (hidle.release.trans hidle.start.symm)
    exact fun h => absurd (hrecovering.symm.trans h) (by simp)
  | recovery | hostGone | guestGone => exact .of_reset rfl rfl (by simp [sessionCore]) rfl

/-- A fingerprint that is judged in time finds no samples and no session. -/
theorem judged_start {fp : CompatibilityFingerprint} {order : HashOrder} {p : PlayerIndex}
    (hwaited : Waited r → Idle (sessionCore r)) (hinv : StartInv (sessionCore r))
    (hclosed : r.status ≠ .closed) (hp : r.playerIndexForConnection c = some p)
    (hdecides : fingerprintDecides r c fp)
    (htimely : untimely relay r (.setCompatibility order c fp) = false)
    (hrequest : core.clockSyncRequest = r.clockSyncRequest)
    (hsnapshot : core.hostSnapshotCompleted = r.hostSnapshotCompleted)
    (hstart : core.scheduledStart = r.scheduledStart) (hpause : core.pauseState = r.pauseState)
    (hsync : core.syncStartFrame = r.syncStartFrame)
    (hrelease : core.nextReleaseFrame = r.nextReleaseFrame) (hstatus : beforeSession core.status) :
    StartInv core := by
  simp only [untimely, hp, hdecides, Option.isSome_some, Bool.and_true, Bool.or_eq_false_iff,
    decide_eq_false_iff_not] at htimely
  obtain ⟨hsampling, hsession, hrepair⟩ := htimely
  refine ⟨?_, ?_, ?_, ?_, ?_⟩
  · rw [hrequest, hsnapshot]
    exact hinv.asked
  · rw [hrequest, hstart]
    exact fun hr hs => (hinv.no_sampling hsampling hrepair hclosed hr hs).elim
  · rw [hpause]
    intro hopen
    rcases hinv.pausing hopen with h | h | h | h
    · exact absurd hsession (by simp [show r.status = .playing from h, inSession])
    · exact absurd hsession (by simp [show r.status = .paused from h, inSession])
    · exact absurd h hrepair
    · exact absurd h hclosed
  · intro h
    exact absurd hstatus (by simp [h, beforeSession])
  intro _
  rw [hsync, hrelease]
  cases hs : r.status with
  | recovering =>
    have hidle := hwaited (.inl hs)
    exact hidle.release.trans hidle.start.symm
  | repairingState => exact absurd hs hrepair
  | closed => exact absurd hs hclosed
  | startScheduled | playing | paused => exact absurd hsession (by simp [hs, inSession])
  | _ => exact hinv.unplayed (congrArg beforeSession hs)

/-- **Every call in turn keeps the invariant.** The sweep that finds an overdue pin is left out: it
drops the room. -/
theorem effect_start (hseats : Seats r) (hwaited : Waited r → Idle (sessionCore r))
    (hmode : r.session.mode = .controllerNetplay) (hinv : StartInv (sessionCore r))
    (htimely : untimely relay r op = false)
    (hstored : ∀ now, op = .sweep now → r.stateRecoveryPinExpired now = false)
    (h : Effect relay r op r') : StartInv (sessionCore r') := by
  -- a start can be fixed in a ready room only
  have hready : r.clockSyncRequest.isSome → r.scheduledStart = none →
      r.status ≠ .repairingState → r.status ≠ .closed → r.status = .ready := by
    intro hrequest hnone hrepair hclosed
    rcases hinv.sampling hrequest hnone with h | h | h
    · exact h.1
    · exact absurd h hrepair
    · exact absurd h hclosed
  -- nothing but the frames of a session under way has changed
  have hplays : ∀ {core : SessionCore}, core.clockSyncRequest = r.clockSyncRequest →
      core.hostSnapshotCompleted = r.hostSnapshotCompleted →
      (core.clockSyncRequest.isSome → core.scheduledStart = none → False) →
      (core.status = .playing ∨ core.status = .paused) → StartInv core := by
    intro core hrequest hsnapshot hnone hstatus
    refine ⟨?_, fun hr hs => (hnone hr hs).elim, fun _ => ?_, fun h => ?_, fun h => ?_⟩
    · rw [hrequest, hsnapshot]
      exact hinv.asked
    · rcases hstatus with h | h
      · exact .inl h
      · exact .inr (.inl h)
    · rcases hstatus with h' | h' <;> exact absurd (h.symm.trans h') (by simp)
    · rcases hstatus with h' | h' <;> exact absurd h (by simp [h', beforeSession])
  -- in a session samples fix nothing
  have hbusy : r.status = .playing ∨ r.status = .paused → r.clockSyncRequest.isSome →
      r.scheduledStart = none → False := by
    intro hstatus hrequest hnone
    rcases hinv.sampling hrequest hnone with ⟨h, _⟩ | h | h <;>
      rcases hstatus with h' | h' <;> exact absurd (h'.symm.trans h) (by simp)
  cases h with
  | bookkeeping h => exact hinv.of_same h
  | joined | reconnected | exited | resynced | pinned =>
    refine .of_reset rfl rfl ?_ rfl
    simp [sessionCore, resetSyncForCheckingCompatibility]
  | @hostAttached key _ _ _ _ _ slot _ hslot hkey =>
    have hsampling : samplesClocks r = false := by
      simpa [untimely, hslot, hkey] using htimely
    refine ⟨hinv.asked, fun hr hs => ?_, hinv.pausing, hinv.scheduled, hinv.unplayed⟩
    by_cases hrepair : r.status = .repairingState
    · exact .inr (.inl hrepair)
    · by_cases hclosed : r.status = .closed
      · exact .inr (.inr hclosed)
      · exact (hinv.no_sampling hsampling hrepair hclosed hr hs).elim
  | handoffReconnected | inputAttached => exact hinv
  | controlLost h => exact controlLoss_start (fun hs => hwaited (.inl hs)) hinv htimely h
  | inputLost | sampleStored | voteCounted | inputAccepted | openHeld =>
    exact hinv.carry rfl id rfl rfl subset_rfl rfl rfl rfl rfl rfl
  | @inputAndControlLost c control now slot _ hslot _ hcontrol h =>
    -- the input socket goes first, then the control socket of the same seat
    refine controlLoss_start (fun hrecovering => ?_) ?_ ?_ h
    · exact (hwaited (.inl hrecovering)).forgetInput _
    · exact hinv.carry rfl id rfl rfl subset_rfl rfl rfl rfl rfl rfl
    · have harmed : handoffArmed (forgetInput now slot) now = handoffArmed slot now := rfl
      rw [slotForConnection_detachInputSocket hseats hslot hcontrol]
      simpa [untimely, hslot, harmed] using htimely
  | pinTimedOut hpin => exact absurd hpin (by simp [hstored _ rfl])
  | @handoffsLapsed _ closed _ _ hcleared hstatus =>
    rw [hcleared.core, hstatus]
    cases closed <;> exact .of_reset rfl rfl (by simp) rfl
  | heartbeatsStopped _ hdropped =>
    rw [hdropped.core]
    exact .of_reset rfl rfl (by simp [SessionCore.recover]) rfl
  | fingerprintRejected _ hclosed hp hfp =>
    exact judged_start hwaited hinv hclosed hp (fingerprintDecides_of hmode hclosed hp (.inl hfp))
      htimely rfl rfl rfl rfl rfl rfl rfl
  | fingerprintsDiffer _ hclosed hp _ hall | fingerprintsAgree _ hclosed hp _ hall =>
    exact judged_start hwaited hinv hclosed hp (fingerprintDecides_of hmode hclosed hp (.inr hall))
      htimely rfl rfl rfl rfl rfl rfl rfl
  | fingerprintStored _ hclosed hp =>
    have hsampling : samplesClocks r = false := by
      simp only [untimely, hp, Option.isSome_some, Bool.and_true, Bool.or_eq_false_iff] at htimely
      exact htimely.1
    refine ⟨hinv.asked, fun hr hs => ?_, hinv.pausing, hinv.scheduled, hinv.unplayed⟩
    by_cases hrepair : r.status = .repairingState
    · exact .inr (.inl hrepair)
    · exact (hinv.no_sampling hsampling hrepair hclosed hr hs).elim
  | linkRejected hlink | linkStored hlink | linksDiffer hlink | linksAgree hlink =>
    exact absurd (hmode.symm.trans hlink) (by simp)
  | snapshotCompleted =>
    exact hinv.carry rfl (fun _ => rfl) rfl rfl subset_rfl rfl rfl rfl rfl rfl
  | @becameReady _ _ _ p _ hstatus h hmay =>
    have hbefore : beforeSession r.status := by
      rcases hstatus with h | h <;> rw [h] <;> rfl
    obtain ⟨request, hcore⟩ := h.core
    have hrequest : r'.clockSyncRequest = request := congrArg (·.clockSyncRequest) hcore
    have hasked := h.asked
    rw [hrequest] at hasked
    rw [hcore]
    refine ⟨fun request' hr => ?_, fun hr hs => .inl ⟨rfl, ?_⟩, fun hopen => ?_, fun h => ?_,
      fun _ => hinv.unplayed hbefore⟩
    · rcases hasked with rfl | ⟨_, rfl, hasks⟩
      · exact hinv.asked request' hr
      · obtain rfl := Option.some.inj hr
        exact ⟨hasks.count, hmay.snapshot hmode⟩
    · rcases hasked with rfl | ⟨_, rfl, hasks⟩
      · -- a request that was open before
        rcases hinv.sampling hr hs with ⟨_, hone, htwo⟩ | h | h
        · exact ⟨Finset.mem_insert_of_mem hone, Finset.mem_insert_of_mem htwo⟩
        · exact absurd hbefore (by simp [show r.status = .repairingState from h, beforeSession])
        · exact absurd hbefore (by simp [show r.status = .closed from h, beforeSession])
      · have hseats' : Seats (countReady r p) := hseats.keep (keeps_refl _) rfl
        have hplayers := (full_of_connected hseats' hasks.everybody).connectedPlayerIndices hseats'
        have hall := hasks.ready
        rw [hplayers] at hall
        exact ⟨hall .one (by simp), hall .two (by simp)⟩
    · rcases hinv.pausing hopen with h | h | h | h <;>
        exact absurd hbefore (by rw [show r.status = _ from h]; simp [beforeSession])
    · exact absurd h (by simp)
  | @startedNow c _ _ _ r₁ hstatus hr₁ hmay hall hp hunscheduled =>
    have hstarts : startsByReport r c := by
      simp [startsByReport, hstatus, hmay.snapshot hmode, hmay.sockets hmode, hp, hall,
        hunscheduled]
    have hsampling : samplesClocks r = false := by simpa [untimely, hstarts] using htimely
    obtain ⟨_, hcore⟩ := hr₁.core
    have hrequest : r₁.clockSyncRequest = r.clockSyncRequest :=
      congrArg (·.clockSyncRequest) hcore
    have hsnapshot : r₁.hostSnapshotCompleted = r.hostSnapshotCompleted :=
      congrArg (·.hostSnapshotCompleted) hcore
    have hstart : r₁.scheduledStart = r.scheduledStart :=
      congrArg (·.scheduledStart) hcore
    refine hplays hrequest hsnapshot (fun hr hs => ?_) (.inl rfl)
    refine hinv.no_sampling hsampling ?_ ?_ (hrequest ▸ hr) (hstart ▸ hs) <;>
      rcases hstatus with h | h <;> simp [h]
  | startFixedBySample hr₁ hrequest hnone hfixes =>
    have hopen : r.status ≠ .repairingState ∧ r.status ≠ .closed := by
      simpa [untimely, hfixes] using htimely
    have hstatus := hready (by simp [hrequest]) hnone hopen.1 hopen.2
    obtain ⟨_, hcore⟩ := hr₁.core
    exact hinv.scheduled_of_ready hcore hstatus rfl rfl rfl rfl rfl
  | startFixedByVote hr₁ hstatus hnone =>
    have hstatus : r.status = .ready := by
      rcases hstatus with h | h
      · exact h
      · obtain ⟨start, hstart, _⟩ := hinv.scheduled h
        exact absurd (hnone.symm.trans hstart) (by simp)
    obtain ⟨_, hcore⟩ := hr₁.core
    exact hinv.scheduled_of_ready hcore hstatus rfl rfl rfl rfl rfl
  | pauseOpened hstatus => exact hplays rfl rfl (hbusy hstatus) hstatus
  | pauseNoted hpause =>
    refine ⟨hinv.asked, hinv.sampling, fun _ => hinv.pausing ?_, hinv.scheduled, hinv.unplayed⟩
    rw [sessionCore, hpause]
    rfl
  | paused _ hpause hcompletes | pauseEndedByLast _ hpause hcompletes =>
    have hopen : r.status ≠ .repairingState ∧ r.status ≠ .closed := by
      simpa [untimely, hcompletes] using htimely
    have hstatus : r.status = .playing ∨ r.status = .paused := by
      rcases hinv.pausing (by rw [sessionCore, hpause]; rfl) with h | h | h | h
      · exact .inl h
      · exact .inr h
      · exact absurd h hopen.1
      · exact absurd h hopen.2
    refine hplays rfl rfl (hbusy hstatus) ?_
    first
      | exact .inr rfl
      | exact .inl rfl
  | pauseEnded _ _ hstatus => exact hplays rfl rfl (hbusy (.inr hstatus)) (.inl rfl)
  | restartedByLast | restarted =>
    refine ⟨hinv.asked, fun _ hnone => ?_, fun hopen => ?_, fun _ => ?_, fun hbefore => ?_⟩
    · exact absurd hnone (by simp [sessionCore, restartSession, beginV5PauseResume,
        scheduleV5Resume])
    · exact absurd hopen (by simp [sessionCore, restartSession, beginV5PauseResume,
        scheduleV5Resume])
    · exact ⟨_, rfl, rfl, rfl, rfl, rfl⟩
    · exact absurd hbefore (by simp [sessionCore, restartSession, beginV5PauseResume,
        scheduleV5Resume, beforeSession])
  | frameReleased hstatus => exact hplays rfl rfl (hbusy (.inl hstatus)) (.inl hstatus)
  | openedByHost _ _ _ hstart | openedByTimer _ _ hstart =>
    exact hplays rfl rfl (fun _ hnone => absurd (hstart.symm.trans hnone) (by simp)) (.inl rfl)
  | legacyInput h =>
    rw [h.core]
    exact hinv.carry rfl id rfl rfl subset_rfl rfl rfl rfl rfl rfl
  | legacyTick _ h =>
    rw [h.core]
    refine hplays rfl rfl (fun hrequest hnone => ?_) (.inl rfl)
    rcases h.status with hstatus | hstatus
    · obtain ⟨start, hstart, _⟩ := hinv.scheduled hstatus
      exact absurd (hstart.symm.trans hnone) (by simp)
    · exact hbusy (.inl hstatus) hrequest hnone
  | recoveryPrepared hr₁ =>
    exact ⟨(hinv.of_same hr₁).asked, fun _ _ => .inr (.inl rfl), fun _ => .inr (.inr (.inl rfl)),
      fun h => absurd h (by simp [sessionCore]),
      fun h => absurd h (by simp [sessionCore, beforeSession])⟩
  | recoveryLimited hr₁ =>
    exact ⟨(hinv.of_same hr₁).asked, fun _ _ => .inr (.inr rfl), fun _ => .inr (.inr (.inr rfl)),
      fun h => absurd h (by simp [sessionCore]),
      fun h => absurd h (by simp [sessionCore, beforeSession])⟩

/-! ## Where the samples come from -/

/-- What a call does to the collected samples. -/
inductive SampleChange (relay : Relay) (r : NetplayRoom) (op : RoomOp) (r' : NetplayRoom) : Prop
  | kept (hrequest : r'.clockSyncRequest = r.clockSyncRequest)
      (h : r'.clockSampleIndicesByPlayer = r.clockSampleIndicesByPlayer)
  | forgotten (h : r'.clockSampleIndicesByPlayer = ∅)
  | asked (hnone : r.clockSyncRequest = none)
      (h : r'.clockSampleIndicesByPlayer = r.clockSampleIndicesByPlayer)
  | stored {order : HashOrder} {c : ConnectionId} {sample : ClockSyncSample} {now : Instant}
      {p : PlayerIndex} {request : ClockSyncSampleRequest}
      (hop : op = .recordClockSyncSample order c sample now)
      (hp : r.playerIndexForConnection c = some p) (hrequest : r.clockSyncRequest = some request)
      (hanswers : sampleAnswers request sample (relay.serverTimeMsAt now))
      (hsame : r'.clockSyncRequest = some request)
      (h : r'.clockSampleIndicesByPlayer
        = (withClockSample r p sample (relay.serverTimeMsAt now)).clockSampleIndicesByPlayer)

theorem SampleChange.of_core {core : SessionCore} (h : sessionCore r' = core)
    (hrequest : core.clockSyncRequest = r.clockSyncRequest)
    (hsamples : core.clockSampleIndicesByPlayer = r.clockSampleIndicesByPlayer) :
    SampleChange relay r op r' :=
  .kept ((congrArg (·.clockSyncRequest) h).trans hrequest)
    ((congrArg (·.clockSampleIndicesByPlayer) h).trans hsamples)

theorem controlLoss_samples {now : Instant} {grace : Duration} (h : ControlLoss r c now grace r') :
    (r'.clockSyncRequest = r.clockSyncRequest
        ∧ r'.clockSampleIndicesByPlayer = r.clockSampleIndicesByPlayer)
      ∨ r'.clockSampleIndicesByPlayer = ∅ := by
  cases h with
  | unknown _ hr₁ | alsoLost hr₁ =>
    exact .inl ⟨hr₁.clockSyncRequest, congrArg (·.clockSampleIndicesByPlayer) hr₁.core⟩
  | handoffKept | recovery | hostGone | guestGone => exact .inr rfl

theorem fixesStart_answers {sample : ClockSyncSample} {t : Nat} {p : PlayerIndex}
    {request : ClockSyncSampleRequest} (h : fixesStart r c sample t)
    (hp : r.playerIndexForConnection c = some p) (hrequest : r.clockSyncRequest = some request) :
    sampleAnswers request sample t
      ∧ (withClockSample r p sample t).connectedPlayersReadyForScheduling := by
  simp only [fixesStart, hp, hrequest, Bool.and_eq_true] at h
  exact ⟨h.1.2, h.2⟩

theorem effect_samples (h : Effect relay r op r') : SampleChange relay r op r' := by
  cases h with
  | bookkeeping h | legacyInput h | legacyTick _ h => exact .of_core h.core rfl rfl
  | joined | reconnected | exited | resynced | pinned => exact .forgotten rfl
  | controlLost h | inputAndControlLost _ _ _ h =>
    rcases controlLoss_samples h with ⟨hrequest, hsamples⟩ | hsamples
    · exact .kept hrequest hsamples
    · exact .forgotten hsamples
  | handoffsLapsed hcleared =>
    exact .forgotten (congrArg (·.clockSampleIndicesByPlayer) hcleared.core)
  | heartbeatsStopped _ hdropped =>
    exact .forgotten (congrArg (·.clockSampleIndicesByPlayer) hdropped.core)
  | becameReady _ h =>
    obtain ⟨_, hcore⟩ := h.core
    have hsamples := congrArg (·.clockSampleIndicesByPlayer) hcore
    rcases h.asked with hsame | ⟨_, _, hasks⟩
    · exact .kept hsame hsamples
    · exact .asked hasks.none hsamples
  | startedNow _ hr₁ | startFixedByVote hr₁ =>
    obtain ⟨_, hcore⟩ := hr₁.core
    exact .kept (congrArg (·.clockSyncRequest) hcore)
      (congrArg (·.clockSampleIndicesByPlayer) hcore)
  | sampleStored hp hrequest hanswers => exact .stored rfl hp hrequest hanswers hrequest rfl
  | startFixedBySample hr₁ hrequest _ hfixes hp =>
    obtain ⟨_, hcore⟩ := hr₁.core
    refine .stored rfl hp hrequest (fixesStart_answers hfixes hp hrequest).1 ?_ ?_
    · exact (congrArg (·.clockSyncRequest) hcore).trans hrequest
    · exact congrArg (·.clockSampleIndicesByPlayer) hcore
  | recoveryPrepared hr₁ | recoveryLimited hr₁ =>
    exact .kept hr₁.clockSyncRequest (congrArg (·.clockSampleIndicesByPlayer) hr₁.core)
  | _ => exact .kept rfl rfl

/-- Every collected sample was sent for the open request, by the player it is stored for. -/
structure Sampled (relay : Relay) (past : List (StoredRoom × RoomOp)) (r : NetplayRoom) : Prop where
  unasked : r.clockSyncRequest = none → r.clockSampleIndicesByPlayer = ∅
  sent : ∀ request, r.clockSyncRequest = some request → ∀ p indices,
    r.clockSampleIndicesByPlayer.lookup p = some indices →
      ∀ i ∈ indices, i ∈ answers relay request p past

theorem answers_append (request : ClockSyncSampleRequest) (p : PlayerIndex)
    (past later : List (StoredRoom × RoomOp)) :
    answers relay request p (past ++ later)
      = answers relay request p past ++ answers relay request p later :=
  List.filterMap_append

theorem sampled_step {s : StoredRoom} (h : Sampled relay past s.room)
    (hchange : SampleChange relay s.room op r') : Sampled relay (past ++ [(s, op)]) r' := by
  -- what was sent before counts
  have hbefore : ∀ {request p i}, i ∈ answers relay request p past →
      i ∈ answers relay request p (past ++ [(s, op)]) := by
    intro request p i hi
    rw [answers_append]
    exact List.mem_append_left _ hi
  cases hchange with
  | kept hrequest hsamples =>
    refine ⟨fun hnone => ?_, fun request hr p indices hp i hi => ?_⟩
    · exact hsamples.trans (h.unasked (hrequest.symm.trans hnone))
    · exact hbefore (h.sent request (hrequest.symm.trans hr) p indices (hsamples ▸ hp) i hi)
  | forgotten hsamples =>
    refine ⟨fun _ => hsamples, fun request _ p indices hp => ?_⟩
    exact absurd hp (by simp [hsamples])
  | asked hnone hsamples =>
    have hempty := hsamples.trans (h.unasked hnone)
    refine ⟨fun _ => hempty, fun request _ p indices hp => ?_⟩
    exact absurd hp (by simp [hempty])
  | @stored _ c sample now q request hop hq hrequest hanswers hsame hsamples =>
    refine ⟨fun hnone => absurd (hsame.symm.trans hnone) (by simp), ?_⟩
    intro request' hr p indices hp i hi
    obtain rfl := Option.some.inj (hsame.symm.trans hr)
    rw [hsamples, withClockSample, recordClockSample_clockSampleIndicesByPlayer] at hp
    by_cases hpq : p = q
    · subst hpq
      rw [AList.lookup_insert] at hp
      obtain rfl := Option.some.inj hp
      rcases Finset.mem_insert.mp hi with rfl | hold
      · -- the sample that this call stores
        rw [answers_append]
        refine List.mem_append_right _
          (List.mem_filterMap.mpr ⟨(s, op), List.mem_singleton_self _, ?_⟩)
        simp [answerOf, hop, hq, hrequest, hanswers]
      · cases hlookup : s.room.clockSampleIndicesByPlayer.lookup p with
        | none => exact absurd hold (by simp [hlookup])
        | some before =>
          rw [hlookup] at hold
          exact hbefore (h.sent request hrequest p before hlookup i hold)
    · rw [AList.lookup_insert_ne hpq] at hp
      exact hbefore (h.sent request hrequest p indices hp i hi)

/-! ## Fixing a start -/

/-- What the code checks before it fixes a start, read over both players. -/
theorem readyForScheduling_grounds {r₀ : NetplayRoom} (hseats : Seats r₀)
    (hready : r₀.connectedPlayersReadyForScheduling)
    (hasked : ∀ request, r₀.clockSyncRequest = some request →
      request.requestedSampleCount = clockSyncRequestedSampleCount)
    (hsampled : Sampled relay past r₀) :
    (.one ∈ r₀.deterministicReadyPlayers ∧ .two ∈ r₀.deterministicReadyPlayers)
      ∧ ∃ request, r₀.clockSyncRequest = some request ∧ ∀ p, p = .one ∨ p = .two →
        ∃ i ∈ answers relay request p past, ∃ j ∈ answers relay request p past, i ≠ j := by
  obtain ⟨hvotes, hsamples⟩ := Bool.and_eq_true_iff.mp hready
  obtain ⟨hlength, hvotes⟩ := Bool.and_eq_true_iff.mp hvotes
  have hplayers :=
    (full_of_connected hseats (of_decide_eq_true hlength)).connectedPlayerIndices hseats
  rw [hplayers] at hvotes
  refine ⟨by simpa using hvotes, ?_⟩
  cases hrequest : r₀.clockSyncRequest with
  | none => exact absurd hsamples (by simp [connectedPlayersHaveClockSamples, hrequest])
  | some request =>
    simp only [connectedPlayersHaveClockSamples, hrequest, hplayers,
      hasked request hrequest, List.all_eq_true] at hsamples
    refine ⟨request, rfl, fun p hp => ?_⟩
    obtain ⟨indices, hlookup, hcard⟩ := (Option.any_eq_true _ _).mp
      (hsamples p (by rcases hp with rfl | rfl <;> simp))
    have hcard : 1 < indices.card := of_decide_eq_true hcard
    obtain ⟨i, hi, j, hj, hne⟩ := Finset.one_lt_card.mp hcard
    exact ⟨i, hsampled.sent request hrequest p indices hlookup i hi, j,
      hsampled.sent request hrequest p indices hlookup j hj, hne⟩

/-- **A sample or a vote that fixes a start rests on everything it should.** -/
theorem effect_grounded {s : StoredRoom} (hseats : Seats s.room)
    (hinv : StartInv (sessionCore s.room)) (hsampled : Sampled relay past s.room)
    (htimely : untimely relay s.room op = false) (hreport : isStartReport op)
    (hbefore : s.room.status ≠ .startScheduled) (hafter : r'.status = .startScheduled)
    (h : Effect relay s.room op r') : Grounded relay (past ++ [(s, op)]) s.room r' := by
  have hsampled' := sampled_step hsampled (effect_samples h)
  -- what is left to see once the room is known to be ready
  have hgrounded : ∀ {r₀ r₁ : NetplayRoom} {t : Nat}, Negotiated r₀ r₁ → r' = scheduleStart r₁ t →
      r₀.players = s.room.players → r₀.maxPlayers = s.room.maxPlayers →
      r₀.clockSyncRequest = s.room.clockSyncRequest → r₀.connectedPlayersReadyForScheduling →
      s.room.scheduledStart = none → s.room.status ≠ .repairingState → s.room.status ≠ .closed →
      Grounded relay (past ++ [(s, op)]) s.room r' := by
    intro r₀ r₁ t hr₁ hr' hplayers hcapacity hrequest hready hnone hrepair hclosed
    obtain ⟨_, hcore⟩ := hr₁.core
    have hsampled₀ : Sampled relay (past ++ [(s, op)]) r₀ := by
      have hrequest₁ : r'.clockSyncRequest = r₀.clockSyncRequest := by
        rw [hr']
        exact congrArg (·.clockSyncRequest) hcore
      have hsamples₁ : r'.clockSampleIndicesByPlayer = r₀.clockSampleIndicesByPlayer := by
        rw [hr']
        exact congrArg (·.clockSampleIndicesByPlayer) hcore
      exact ⟨hrequest₁ ▸ hsamples₁ ▸ hsampled'.unasked, hrequest₁ ▸ hsamples₁ ▸ hsampled'.sent⟩
    have hseats₀ : Seats r₀ := hseats.keep (hplayers ▸ keeps_refl _) hcapacity
    obtain ⟨hvotes, request, hopen, hsamples⟩ := readyForScheduling_grounds hseats₀ hready
      (fun request hr => (hinv.asked request (hrequest.symm.trans hr)).1) hsampled₀
    have hopen' := hrequest.symm.trans hopen
    rcases hinv.sampling (Option.isSome_of_eq_some hopen') hnone with ⟨hstatus, hone, htwo⟩ | h | h
    · refine ⟨hstatus, ⟨hone, htwo⟩, ?_, (hinv.asked request hopen').2, request, hopen', hsamples⟩
      have hvotes₁ : r'.deterministicReadyPlayers = r₀.deterministicReadyPlayers := by
        rw [hr']
        exact congrArg (·.deterministicReadyPlayers) hcore
      rw [hvotes₁]
      exact hvotes
    · exact absurd h hrepair
    · exact absurd h hclosed
  cases h with
  | bookkeeping h => exact absurd (h.status.symm.trans hafter) hbefore
  | startFixedBySample hr₁ hrequest hnone hfixes hp =>
    have hopen : s.room.status ≠ .repairingState ∧ s.room.status ≠ .closed := by
      simpa [untimely, hfixes] using htimely
    exact hgrounded hr₁ rfl rfl rfl rfl (fixesStart_answers hfixes hp hrequest).2 hnone hopen.1
      hopen.2
  | startFixedByVote hr₁ hstatus hnone hready =>
    refine hgrounded hr₁ rfl rfl rfl rfl hready hnone ?_ ?_ <;>
      rcases hstatus with h | h <;> simp [h]
  | sampleStored | voteCounted | pauseNoted | snapshotCompleted => exact absurd hafter hbefore
  | legacyInput h => exact absurd ((congrArg (·.status) h.core).symm.trans hafter) hbefore
  | _ => exact absurd hreport (by simp [isStartReport])

/-! ## Whole runs -/

/-- **In every run of a controller room without a call out of turn, each start that a sample or a
vote fixes rests on everything it should, and each room that waits for its start has a schedule that
fits.** -/
theorem starts_grounded {roomId key c} {session : NetplaySessionDescriptor}
    {version resume input now voice ops}
    (hmode : session.mode = .controllerNetplay)
    (hguarded : Guarded (StoredRoom.step relay)
      (fun s op => Admissible s.room op ∧ untimely relay s.room op = false)
      (createRoom roomId key c session version resume input now voice) ops) :
    let created := createRoom roomId key c session version resume input now voice
    (∀ done op s t, done ++ [op] <+: ops → run (StoredRoom.step relay) created done = some s →
        s.step relay op = some t → isStartReport op → s.room.status ≠ .startScheduled →
        t.room.status = .startScheduled →
        Grounded relay (visits (StoredRoom.step relay) created (done ++ [op])) s.room t.room)
      ∧ ∀ done s, done <+: ops → run (StoredRoom.step relay) created done = some s →
        s.room.status = .startScheduled → ScheduleFits (sessionCore s.room) := by
  intro created
  let Inv : List (StoredRoom × RoomOp) → StoredRoom → Prop := fun past s => Reachable relay s
    ∧ s.room.session.mode = .controllerNetplay ∧ StartInv (sessionCore s.room)
    ∧ Sampled relay past s.room
  have hkeep : ∀ past s op t, Inv past s →
      Admissible s.room op ∧ untimely relay s.room op = false → s.step relay op = some t →
      Inv (past ++ [(s, op)]) t := by
    rintro past s op t ⟨hs, hmode, hinv, hsampled⟩ ⟨hcall, htimely⟩ hstep
    have heffect := applyOp_effect relay s.room op
    refine ⟨reachable_step hs hcall hstep, ?_⟩
    rw [step_room hstep]
    refine ⟨(effect_terms heffect).mode.trans hmode, ?_,
      sampled_step hsampled (effect_samples heffect)⟩
    refine effect_start (seats_reachable hs) (waited_reachable hs) hmode hinv htimely
      (fun now hop => ?_) heffect
    exact step_sweep_pin (hop ▸ hstep)
  have hnew : Inv [] created := by
    refine ⟨reachable_createRoom, ?_⟩
    cases voice <;> exact ⟨hmode, .of_reset rfl rfl (by simp [created, sessionCore, createRoom,
      newWithProtocolAndResume, setVoiceState]) rfl, fun _ => rfl,
      fun _ h => absurd h (by simp [created, createRoom, newWithProtocolAndResume,
        setVoiceState])⟩
  have hreached : ∀ done rest s, done ++ rest = ops →
      run (StoredRoom.step relay) created done = some s →
      Inv (visits (StoredRoom.step relay) created done) s := by
    intro done rest s hops hrun
    rw [← hops, guarded_append hrun] at hguarded
    exact history_run hkeep hguarded.1.history hrun hnew
  constructor
  · rintro done op s t ⟨rest, hops⟩ hrun hstep hreport hbefore hafter
    rw [List.append_assoc] at hops
    obtain ⟨hs, _, hinv, hsampled⟩ := hreached done _ s hops hrun
    rw [← hops, guarded_append hrun] at hguarded
    rw [visits_append hrun]
    rw [step_room hstep] at hafter ⊢
    have hlast : visits (StoredRoom.step relay) s [op] = [(s, op)] := by
      simp [visits, hstep]
    rw [hlast]
    exact effect_grounded (seats_reachable hs) hinv hsampled hguarded.2.1.2 hreport hbefore hafter
      (applyOp_effect relay s.room op)
  · rintro done s ⟨rest, hops⟩ hrun hstatus
    exact (hreached done rest s hops hrun).2.2.1.scheduled hstatus

/-- Two players and everything their first start waits for, up to the guest's last clock sample. -/
def beforeLastSample : List RoomOp := seating true ++ handshake 5 0 ++ almostScheduled

def lastSample : RoomOp := .recordClockSyncSample .stored guestSocket (clockSample 1) 0

theorem starts_grounded_firstSession :
    let s := after sampleRelay (sampleRoom 5) beforeLastSample
    let t := after sampleRelay (sampleRoom 5) (beforeLastSample ++ [lastSample])
    t.room.status = .startScheduled ∧ ScheduleFits (sessionCore t.room)
      ∧ Grounded sampleRelay (visits (StoredRoom.step sampleRelay) (sampleRoom 5)
        (beforeLastSample ++ [lastSample])) s.room t.room := by
  intro s t
  have hfacts : Possible sampleRelay (sampleRoom 5) beforeLastSample
      ∧ Possible sampleRelay (sampleRoom 5) (beforeLastSample ++ [lastSample])
      ∧ Guarded (StoredRoom.step sampleRelay)
        (fun s op => Admissible s.room op ∧ untimely sampleRelay s.room op = false) (sampleRoom 5)
        (beforeLastSample ++ [lastSample])
      ∧ s.room.status ≠ .startScheduled ∧ t.room.status = .startScheduled := by
    decide +kernel
  obtain ⟨hbefore, hpossible, hguarded, hunscheduled, hscheduled⟩ := hfacts
  have hstep : s.step sampleRelay lastSample = some t := by
    have hrun := hpossible.run_eq
    rw [run_append hbefore.run_eq] at hrun
    obtain ⟨u, hu, hend⟩ := run_cons.mp hrun
    exact hu.trans hend
  obtain ⟨hgrounded, hfits⟩ := starts_grounded rfl hguarded
  exact ⟨hscheduled, hfits _ t (List.prefix_refl _) hpossible.run_eq hscheduled,
    hgrounded _ _ s t (List.prefix_refl _) hbefore.run_eq hstep rfl hunscheduled hscheduled⟩

/-- The last sample fixes a start while the host, back through its invite, is not ready; while the
room is back at the compatibility check; and the guest's sockets close under an armed handoff while
the room waits for its start, which then has no schedule. -/
theorem starts_ungrounded :
    let attachedAgain := beforeLastSample ++ [.connectHost "host".toList ⟨5⟩ "hr2".toList
      "hi2".toList 0 ⟨true, true, true, true, true⟩]
    let rejected :=
      beforeLastSample ++ [.setCompatibility .stored guestSocket (strangeFingerprint 5)]
    let unready := after sampleRelay (sampleRoom 5) attachedAgain
    let unreadyStart := after sampleRelay (sampleRoom 5) (attachedAgain ++ [lastSample])
    let checking := after sampleRelay (sampleRoom 5) rejected
    let checkingStart := after sampleRelay (sampleRoom 5) (rejected ++ [lastSample])
    let handedOff := after sampleRelay (sampleRoom 5) (seating true
      ++ [.armRunnerHandoff guestSocket 0] ++ handshake 5 0 ++ almostScheduled
      ++ [lastSample, .disconnect guestSocket 1])
    (Reachable sampleRelay unready ∧ Reachable sampleRelay unreadyStart
        ∧ unready.room.session.mode = .controllerNetplay ∧ unready.room.status = .ready
        ∧ .one ∉ unready.room.readyPlayers ∧ unreadyStart.room.status = .startScheduled)
      ∧ (Reachable sampleRelay checking ∧ Reachable sampleRelay checkingStart
        ∧ checking.room.status = .checkingCompatibility
        ∧ checkingStart.room.status = .startScheduled)
      ∧ Reachable sampleRelay handedOff ∧ handedOff.room.status = .startScheduled
        ∧ handedOff.room.scheduledStart = none := by
  refine ⟨⟨reachable_after ?_, reachable_after ?_, ?_⟩,
    ⟨reachable_after ?_, reachable_after ?_, ?_⟩,
    reachable_after ?_, ?_⟩ <;> decide +kernel

end NetplayRelay.Proof
