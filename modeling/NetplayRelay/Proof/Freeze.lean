import NetplayRelay.Proof.SessionEpochs

/-!
# Frozen for a repair

A version 5 room that has found two different states opens a recovery and waits for its host to pin
the state everybody restarts from. Until then nothing the connected players send should move it: it
keeps its status and its epochs, takes no input, releases no frame, and the host's pin commits.

Three messages do not respect this, because they are handled without a look at the status. A
fingerprint that is judged takes the room back to the compatibility check or to synchronisation; the
last acknowledgement of a pause that was open before takes it to the pause; and a repeated clock
sample fixes a new start, since the old one was dropped. After any of them the pin is refused. A run
of messages leaves the room frozen exactly when none of the three (`thaws`) is among them.
-/

namespace NetplayRelay.Proof

open Lib Protocol Rooms Registry NetplayRoom

/-- What the two connected players send, and the timers of the room. Not among it are sockets that
come or go, an exit, the sweep that enforces the timeouts, and the pin the room waits for. -/
def isMessage (r : NetplayRoom) : RoomOp → Bool
  | .joinGuest .. | .connectHost .. | .reconnectPlayer _ | .connectInputSocket .. => false
  | .disconnect .. | .disconnectInputSocket .. | .playerExited .. | .sweep _ => false
  | .pinStateRecovery c roomEpoch sessionEpoch pin => !pinMatches r c roomEpoch sessionEpoch pin
  | _ => true

/-- The messages that end the freeze. -/
def thaws (relay : Relay) (r : NetplayRoom) : RoomOp → Bool
  | .setCompatibility _ c fp => fingerprintDecides r c fp
  | .markSessionPauseReached c sequence frame _ => completesPause r c sequence frame
  | .recordClockSyncSample _ c sample now => fixesStart r c sample (relay.serverTimeMsAt now)
  | _ => false

/-- The room waits for the pin of `transaction`; since `r` nothing was accepted or released. -/
structure Frozen (transaction : StateRecoveryTransaction) (r r' : NetplayRoom) : Prop where
  strict : r'.usesStrictControllerInput
  status : r'.status = .repairingState
  recovery : r'.stateRecovery = some transaction
  preparing : transaction.isPreparing
  roomEpoch : r'.roomEpoch = r.roomEpoch
  sessionEpoch : r'.sessionEpoch = r.sessionEpoch
  input : r'.nextInputFrames = r.nextInputFrames
  released : r'.releasedFrame = r.releasedFrame
  release : r'.nextReleaseFrame = r.nextReleaseFrame

variable {relay : Relay} {transaction : StateRecoveryTransaction} {r r' r'' : NetplayRoom}

theorem Frozen.of_same (h : Frozen transaction r r') (hsame : SameSession r' r'') :
    Frozen transaction r r'' where
  strict := hsame.usesStrictControllerInput ▸ h.strict
  status := hsame.status.trans h.status
  recovery := hsame.stateRecovery.trans h.recovery
  preparing := h.preparing
  roomEpoch := hsame.roomEpoch.trans h.roomEpoch
  sessionEpoch := hsame.sessionEpoch.trans h.sessionEpoch
  input := hsame.nextInputFrames.trans h.input
  released := hsame.releasedFrame.trans h.released
  release := hsame.nextReleaseFrame.trans h.release

/-! ## One message -/

/-- **A message that does not thaw leaves the room frozen.** -/
theorem effect_frozen {op : RoomOp} (hfrozen : Frozen transaction r r') (hmessage : isMessage r' op)
    (hkept : thaws relay r' op = false) (h : Effect relay r' op r'') :
    Frozen transaction r r'' := by
  have hstatus := hfrozen.status
  have hidle : ¬(r'.status = .playing ∨ r'.status = .paused) := by simp [hstatus]
  -- the branches that look at the status do not take a room that is being repaired
  have hother : ∀ {status : RoomStatus}, r'.status = status → status = .repairingState :=
    fun h => h.symm.trans hstatus
  have hjudged : ∀ {order c fp}, op = .setCompatibility order c fp →
      fingerprintDecides r' c fp = false := by
    rintro order c fp rfl
    exact hkept
  have hlink : r'.session.mode ≠ .linkCable := by
    have hstrict := hfrozen.strict
    rw [usesStrictControllerInput, Bool.and_eq_true, decide_eq_true_eq,
      decide_eq_true_eq] at hstrict
    rw [hstrict.2]
    simp
  cases h with
  | bookkeeping h => exact hfrozen.of_same h
  | joined | hostAttached | handoffReconnected | reconnected | inputAttached | exited | controlLost
  | inputLost | inputAndControlLost | pinTimedOut | handoffsLapsed | heartbeatsStopped =>
    exact absurd hmessage (by simp [isMessage])
  | fingerprintRejected hmode hclosed hp hfp =>
    exact absurd ((hjudged rfl).symm.trans (fingerprintDecides_of hmode hclosed hp (.inl hfp)))
      (by simp)
  | fingerprintStored | sampleStored | pauseNoted =>
    exact ⟨hfrozen.strict, hfrozen.status, hfrozen.recovery, hfrozen.preparing,
      hfrozen.roomEpoch, hfrozen.sessionEpoch, hfrozen.input, hfrozen.released, hfrozen.release⟩
  | snapshotCompleted _ _ h | becameReady h | startedNow h | voteCounted h
  | startFixedByVote _ h => rcases h with h | h <;> exact absurd (hother h) (by simp)
  | fingerprintsDiffer hmode hclosed hp _ hall | fingerprintsAgree hmode hclosed hp _ hall =>
    exact absurd ((hjudged rfl).symm.trans (fingerprintDecides_of hmode hclosed hp (.inr hall)))
      (by simp)
  | linkRejected hmode | linkStored hmode | linksDiffer hmode | linksAgree hmode =>
    exact absurd hmode hlink
  | startFixedBySample _ _ _ hfixes => exact absurd (hkept.symm.trans hfixes) (by simp)
  | pauseOpened h | resynced _ h | recoveryPrepared _ h | recoveryLimited _ h =>
    exact absurd h hidle
  | paused _ _ hcompletes | pauseEndedByLast _ _ hcompletes | restartedByLast _ _ hcompletes =>
    exact absurd (hkept.symm.trans hcompletes) (by simp)
  | pauseEnded _ _ h | restarted _ _ h
  | openHeld h | frameReleased h | openedByHost h | openedByTimer h =>
    exact absurd (hother h) (by simp)
  | inputAccepted _ h => exact absurd h (by simp [hstatus, RoomStatus.acceptsStrictInput])
  | legacyInput h => exact absurd h.status hidle
  | legacyTick hlegacy => exact absurd (hlegacy.symm.trans hfrozen.strict) (by simp)
  | pinned _ _ hpin => exact absurd hmessage (by simp [isMessage, hpin])

/-- Each of the three messages takes the room out of the repair. -/
theorem thaws_status {op : RoomOp} (h : thaws relay r op) :
    (applyOp relay r op).status ≠ .repairingState := by
  intro hstatus
  cases op with
  | setCompatibility order c fp =>
    have hbefore := (setCompatibility_status (r := r) order c fp).2.1 h
    rw [applyOp] at hstatus
    rw [hstatus] at hbefore
    exact absurd hbefore (by decide)
  | markSessionPauseReached c sequence frame now =>
    rw [applyOp] at hstatus
    rcases markSessionPauseReached_completes (t := relay.serverTimeMsAt now) h with h | h | h <;>
      exact absurd (h.symm.trans hstatus) (by simp)
  | recordClockSyncSample order c sample now =>
    rw [applyOp, recordClockSyncSample_fixes h] at hstatus
    exact absurd hstatus (by simp)
  | _ => exact absurd h (by simp [thaws])

theorem frozen_step_iff {op : RoomOp} (hfrozen : Frozen transaction r r')
    (hmessage : isMessage r' op) :
    Frozen transaction r (applyOp relay r' op) ↔ thaws relay r' op = false := by
  constructor
  · intro h
    by_contra hthaws
    exact thaws_status (by simpa using hthaws) h.status
  · intro hkept
    exact effect_frozen hfrozen hmessage hkept (applyOp_effect relay r' op)

/-! ## What a frozen room does -/

theorem Frozen.publishes_nothing (h : Frozen transaction r r') (op : RoomOp) :
    publishedBy relay r' op = [] := by
  by_cases hlane : isLane op
  · have hstatus := h.status
    have heffect := lane_effect relay r' hlane
    generalize publishedBy relay r' op = events, applyOp relay r' op = r'' at heffect
    cases heffect with
    | quiet | pauseHeld | pauseOpened | held => rfl
    | accepted hbatch =>
      exact absurd hbatch.status (by simp [hstatus, RoomStatus.acceptsStrictInput])
    | opened h | released h | woken h => exact absurd (h.symm.trans hstatus) (by simp)
  · cases op <;> first | rfl | exact absurd rfl hlane

/-- The pin the room waits for commits. -/
theorem Frozen.pin_commits {c : ConnectionId} {roomEpoch sessionEpoch : Nat}
    {pin : StateRecoveryPin}
    (h : Frozen transaction r r') (hpin : pinMatches r' c roomEpoch sessionEpoch pin) :
    r'.acceptV5StateRecoveryPinForEpoch c roomEpoch sessionEpoch pin .default
      = (.ok (transaction.commit pin.manifest).view,
        r'.commitStateRecovery transaction pin.manifest) := by
  simp only [pinMatches, h.recovery, Option.any_some, Bool.and_eq_true, decide_eq_true_eq] at hpin
  obtain ⟨⟨hrole, hmanifest⟩, ⟨hepochs, hid⟩, hframe⟩ := hpin
  simp [acceptV5StateRecoveryPinForEpoch, h.strict, hrole, hmanifest, h.recovery,
    hepochs, hid, hframe, h.preparing, h.status]

/-- A recovery that is opened freezes the room. -/
theorem beginV5StateRecovery_frozen {mismatch : StateHashMismatchView} {now : Instant}
    {view : StateRecoveryView}
    (h : r.beginV5StateRecovery mismatch now = (.ok (.preparing view), r')) :
    Frozen (.preparing r.nextStateRecoveryId mismatch r.roomEpoch r.sessionEpoch now) r r' := by
  unfold beginV5StateRecovery at h
  split at h
  · exact absurd h (by simp)
  rename_i hopen
  simp only [Bool.or_eq_true, not_or, Bool.not_eq_true', Bool.not_eq_false] at hopen
  dsimp only at h
  split at h
  · exact absurd h (by simp)
  · obtain rfl := (Prod.mk.inj h).2
    exact ⟨hopen.1, rfl, rfl, rfl, rfl, rfl, rfl, rfl, rfl⟩

/-! ## Runs of messages -/

/-- **Over a run of messages the room stays frozen, publishes nothing and commits the pin it waits
for, exactly when none of the messages thaws it.** -/
theorem freeze_holds_iff (relay : Relay) {ops : List RoomOp} (hfrozen : Frozen transaction r r')
    (hmessages : Guarded (fun r op => some (applyOp relay r op)) (fun r op => isMessage r op)
      r' ops) :
    (∀ done, done <+: ops →
        Frozen transaction r (done.foldl (applyOp relay) r')
          ∧ (∀ op, publishedBy relay (done.foldl (applyOp relay) r') op = [])
          ∧ ∀ c roomEpoch sessionEpoch pin,
            pinMatches (done.foldl (applyOp relay) r') c roomEpoch sessionEpoch pin →
            (done.foldl (applyOp relay) r').acceptV5StateRecoveryPinForEpoch c roomEpoch
              sessionEpoch
                pin .default
              = (.ok (transaction.commit pin.manifest).view,
                (done.foldl (applyOp relay) r').commitStateRecovery transaction pin.manifest))
      ↔ Guarded (fun r op => some (applyOp relay r op)) (fun r op => thaws relay r op = false)
        r' ops := by
  rw [← forall_prefix_iff_guarded (P := fun r' => Frozen transaction r r')
    (fun _ _ h hmessage => frozen_step_iff h hmessage) hfrozen hmessages]
  -- what a frozen room does follows from its being frozen
  constructor
  · intro h done hdone
    exact (h done hdone).1
  · intro h done hdone
    have hdone := h done hdone
    exact ⟨hdone, hdone.publishes_nothing, fun _ _ _ _ => hdone.pin_commits⟩

/-- Input, an open, readiness, a resume request and a state hash, sent to a room under repair. -/
def lateMessages : List RoomOp :=
  [.relayStrictInputBatch hostInput (sampleBatch .one 0),
    .relayHostFrameOpen hostInput ⟨2, 2, 0⟩ 5, .markReady guestSocket none 0,
    .requestSessionResume guestSocket "r".toList 1 0,
    .recordStateHash .stored hostSocket ⟨1200, sampleHash⟩ 0]

/-- None of them moves the room. -/
theorem freeze_holds_onLateMessages :
    ∃ transaction, Frozen transaction repairingRoom.room
      (lateMessages.foldl (applyOp sampleRelay) repairingRoom.room) := by
  have hfacts : repairingRoom.room.usesStrictControllerInput
      ∧ repairingRoom.room.status = .repairingState
      ∧ repairingRoom.room.stateRecovery.any (·.isPreparing)
      ∧ Guarded (fun r op => some (applyOp sampleRelay r op)) (fun r op => isMessage r op)
        repairingRoom.room lateMessages
      ∧ Guarded (fun r op => some (applyOp sampleRelay r op))
        (fun r op => thaws sampleRelay r op = false) repairingRoom.room lateMessages := by
    decide +kernel
  obtain ⟨hstrict, hstatus, hrecovery, hmessages, hkept⟩ := hfacts
  obtain ⟨transaction, htransaction, hpreparing⟩ := (Option.any_eq_true _ _).mp hrecovery
  have hfrozen : Frozen transaction repairingRoom.room repairingRoom.room :=
    ⟨hstrict, hstatus, htransaction, hpreparing, rfl, rfl, rfl, rfl, rfl⟩
  exact ⟨transaction, ((freeze_holds_iff sampleRelay hfrozen hmessages).mpr hkept lateMessages
    (List.prefix_refl _)).1⟩

/-! ## Messages that thaw -/

/-- A pause was open, and answered by the host, when the states turned out to differ. -/
def repairWithPause : List RoomOp :=
  let input (player : PlayerIndex) : StrictInputBatch :=
    ⟨2, 2, player, 0, List.replicate 10 (.replicate 10 0)⟩
  seating false ++ handshake 5 0
    ++ [.relayStrictInputBatch hostInput (input .one),
      .relayStrictInputBatch guestInput (input .two),
      .requestSessionPause hostSocket "p".toList .menu 0]
    ++ (List.range 9).map (fun frame => .relayHostFrameOpen hostInput ⟨2, 2, frame⟩ 0)
    ++ [.markSessionPauseReached hostSocket 1 8 0] ++ mismatchAt 600

/-- The session had started at an agreed time when the states turned out to differ. -/
def repairAfterScheduledStart : List RoomOp :=
  seating true ++ handshake 5 0 ++ almostScheduled
    ++ [.recordClockSyncSample .stored guestSocket (clockSample 1) 0,
      .relayStrictInputBatch hostInput (sampleBatch .one 0),
      .relayHostFrameOpen hostInput ⟨2, 2, 0⟩ (secs 10)] ++ mismatchAt 600

/-- The host's pin for the first recovery is refused. -/
def refusesPin (r : NetplayRoom) : Bool :=
  !(r.acceptV5StateRecoveryPinForEpoch hostSocket 2 2 ⟨1, sampleManifest 600⟩ .default).1.isOk

/-- A repeated fingerprint, the last acknowledgement of an old pause and a repeated clock sample
each take a room out of its repair, and the host's pin is refused. -/
theorem repair_thawedByMessage :
    let paused := after sampleRelay (sampleRoom 5) repairWithPause
    let scheduled := after sampleRelay (sampleRoom 5) repairAfterScheduledStart
    (Reachable sampleRelay repairingRoom ∧ repairingRoom.room.status = .repairingState
        ∧ (repairingRoom.step sampleRelay
            (.setCompatibility .stored guestSocket (sampleFingerprint 5))).map
          (fun s => (s.room.status, refusesPin s.room)) = some (.syncingState, true))
      ∧ (Reachable sampleRelay paused ∧ paused.room.status = .repairingState
        ∧ (paused.step sampleRelay (.markSessionPauseReached guestSocket 1 8 0)).map
          (fun s => (s.room.status, refusesPin s.room)) = some (.paused, true))
      ∧ Reachable sampleRelay scheduled ∧ scheduled.room.status = .repairingState
        ∧ (scheduled.step sampleRelay
            (.recordClockSyncSample .stored guestSocket (clockSample 1) 0)).map
          (fun s => (s.room.status, refusesPin s.room)) = some (.startScheduled, true) := by
  refine ⟨⟨repairingRoom_reachable, ?_⟩, ⟨reachable_after ?_, ?_⟩, reachable_after ?_, ?_⟩ <;>
    decide +kernel

end NetplayRelay.Proof
