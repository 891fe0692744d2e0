import NetplayRelay.Proof.Frames
import NetplayRelay.Proof.LegacyInput

/-!
# The future limit of legacy input

Legacy input is refused when it is too far ahead of the room's frame, and the limit is an unchecked
addition to that frame. The room's frame is moved by releases and by the restart of a session. Two
restarts take their frame from a message: the repair of a legacy session starts at the frame of the
state hash that completed the mismatch, whatever frame that is, and the resume of a pause one frame
behind the last acknowledgement. So the addition overflows after two players of a legacy room have
reported different hashes for the last frames of the counter, and it does not in a run in which no
restart and no release goes beyond the limit.
-/

namespace NetplayRelay.Proof

open Lib Protocol Rooms Registry

/-! ## The addition -/

/-- The last frame to which the future distance can be added. -/
def lastFrameInRange : Nat := u64Max - maxFutureFrameDistance

/-- The frame gets as far as the comparison with the future limit. -/
def reachesFutureCheck (r : NetplayRoom) (owned : PlayerIndex) (input : InputCursor) : Bool :=
  decide (owned = input.playerIndex) && match r.inputFrameAcceptance input.frame with
    | .ok .relay => true
    | _ => false

/-- No addition of a batch overflows. -/
def additionsFit (r : NetplayRoom) (owned : PlayerIndex) :
    InputFrameCursorStage → List InputCursor → Bool
  | _, [] => true
  | staged, input :: inputs =>
    (!reachesFutureCheck r owned input || decide (r.roomFrame + maxFutureFrameDistance ≤ u64Max))
      && match r.stageInputFrameCursor owned staged input with
        | .error _ => true
        | .ok (_, staged) => additionsFit r owned staged inputs

def cursorsFit (r : NetplayRoom) (c : ConnectionId) (inputs : List InputCursor) : Bool :=
  r.session.mode ≠ .controllerNetplay || match r.playerIndexForInputConnection c with
    | none => true
    | some owned => additionsFit r owned ⟨r.lastInputFrames, r.nextInputFrames⟩ inputs

/-- No addition that a legacy input message leads to overflows. -/
def inputFits (r : NetplayRoom) : RoomOp → Bool
  | .relayInputFrame c input => cursorsFit r c [input]
  | .relayInputFrameBatch c roomEpoch sessionEpoch inputs =>
    r.roomEpoch ≠ roomEpoch || r.sessionEpoch ≠ sessionEpoch || cursorsFit r c inputs
  | .relayFastInputBatch c inputs =>
    !r.connectedPlayersSupportFastInputRelay
      || inputs.any (fun (roomEpoch, sessionEpoch, _) =>
        decide (roomEpoch ≠ r.roomEpoch) || decide (sessionEpoch ≠ r.sessionEpoch))
      || cursorsFit r c (inputs.map (·.2.2))
  | _ => true

variable {relay : Relay} {r r' r₁ : NetplayRoom}

theorem additionsFit_of_le {owned : PlayerIndex} (h : r.roomFrame ≤ lastFrameInRange)
    (inputs : List InputCursor) (staged : InputFrameCursorStage) :
    additionsFit r owned staged inputs := by
  have hfits : r.roomFrame + maxFutureFrameDistance ≤ u64Max := by
    have hdistance : maxFutureFrameDistance ≤ u64Max := by decide
    unfold lastFrameInRange at h
    omega
  induction inputs generalizing staged with
  | nil => rfl
  | cons input inputs ih =>
    rw [additionsFit, decide_eq_true hfits, Bool.or_true, Bool.true_and]
    cases r.stageInputFrameCursor owned staged input with
    | error error => rfl
    | ok result => exact ih result.2

theorem cursorsFit_of_le (h : r.roomFrame ≤ lastFrameInRange) (c : ConnectionId)
    (inputs : List InputCursor) : cursorsFit r c inputs := by
  unfold cursorsFit
  cases r.playerIndexForInputConnection c with
  | none => simp
  | some owned => simp [additionsFit_of_le h]

theorem inputFits_of_le (h : r.roomFrame ≤ lastFrameInRange) (op : RoomOp) : inputFits r op := by
  unfold inputFits
  split <;> simp [cursorsFit_of_le h]

/-! ## What moves the room's frame -/

/-- The calls that would move the room's frame beyond the limit, now or with the repair that a state
hash starts. -/
def passesLimit (r : NetplayRoom) : RoomOp → Bool
  | .recordStateHash _ _ report _ => lastFrameInRange < report.frame
  | .releaseNextControllerFrame _ => lastFrameInRange < r.nextReleaseFrame
  | .relayHostFrameOpen _ frameOpen _ => lastFrameInRange < frameOpen.frame
  | .releaseScheduledV5HostFrame _ _ frame _ => lastFrameInRange < frame
  | .markSessionPauseReached _ _ frame _ => r.usesStrictControllerInput
    && r.pauseState.any fun pause =>
      lastFrameInRange < max pause.resumeAtFrame (satAdd u64Max frame 1)
  | .requestSessionResume _ _ _ _ => r.usesStrictControllerInput
    && r.pauseState.any fun pause => lastFrameInRange < pause.resumeAtFrame
  | _ => false

/-- The room's frame, and the frame an open repair will restart from, are within the limit. -/
structure InRange (core : SessionCore) : Prop where
  room : core.roomFrame ≤ lastFrameInRange
  repair : ∀ transaction, core.stateRecovery = some transaction →
    transaction.repairFrame ≤ lastFrameInRange

namespace InRange

/-- The session starts over at a frame within the limit, without a repair. -/
theorem of_restart {core : SessionCore} {frame : Nat} (hframe : frame ≤ lastFrameInRange)
    (hroom : core.roomFrame = frame) (hrecovery : core.stateRecovery = none) : InRange core :=
  ⟨hroom ▸ hframe, fun _ h => absurd (hrecovery.symm.trans h) (by simp)⟩

theorem of_same (h : InRange (sessionCore r)) (hsame : SameSession r r') :
    InRange (sessionCore r') := by
  rw [hsame.core]
  exact h

theorem of_zero {core : SessionCore} (hroom : core.roomFrame = 0)
    (hrecovery : core.stateRecovery = none) : InRange core :=
  of_restart (Nat.zero_le _) hroom hrecovery

end InRange

theorem controlLoss_inRange {c : ConnectionId} {now : Instant} {grace : Duration}
    (hinv : InRange (sessionCore r)) (h : ControlLoss r c now grace r') :
    InRange (sessionCore r') := by
  cases h with
  | unknown _ h => exact hinv.of_same h
  | alsoLost hr₁ => exact ⟨(hinv.of_same hr₁).room, (hinv.of_same hr₁).repair⟩
  | handoffKept | recovery | hostGone | guestGone => exact .of_zero rfl rfl

theorem Negotiated.inRange (hr : Negotiated r r') (h : InRange (sessionCore r)) :
    InRange (sessionCore r') := by
  obtain ⟨_, hcore⟩ := hr.core
  rw [hcore]
  exact ⟨h.room, h.repair⟩

/-- A resumed session starts no later than the acknowledgement and the pause allow. -/
theorem acknowledge_resumeAtFrame_le (pause : SessionPauseStateTracker) (p : PlayerIndex)
    (frame : Nat) : (pause.acknowledge p frame).resumeAtFrame
      ≤ max pause.resumeAtFrame (satAdd u64Max frame 1) := by
  unfold SessionPauseStateTracker.resumeAtFrame SessionPauseStateTracker.acknowledge satAdd
  cases pause.pausedAtFrame with
  | none | some current =>
    dsimp only [Option.getD_some]
    omega

theorem release_resumeAtFrame (pause : SessionPauseStateTracker) (p : PlayerIndex) (id : Text) :
    (pause.release p id).resumeAtFrame = pause.resumeAtFrame := by
  unfold SessionPauseStateTracker.release
  split
  · rfl
  · split <;> rfl

/-- Play begins where the session stands, and a repair is over then. -/
theorem InRange.enterPlaying (hinv : InRange (sessionCore r)) :
    InRange (sessionCore r.enterPlaying) :=
  .of_restart hinv.room rfl rfl

theorem InRange.release {frame : Nat} (hinv : InRange (sessionCore r))
    (hframe : frame ≤ lastFrameInRange) : InRange (sessionCore (r.releaseFrame frame)) :=
  ⟨Nat.max_le.mpr ⟨hinv.room, hframe⟩, hinv.repair⟩

/-- **Every other call keeps the room within the limit.** -/
theorem effect_inRange {op : RoomOp} (hlimit : passesLimit r op = false)
    (hinv : InRange (sessionCore r)) (h : Effect relay r op r') : InRange (sessionCore r') := by
  cases h with
  | bookkeeping h => exact hinv.of_same h
  | joined | reconnected | exited => exact .of_zero rfl rfl
  | controlLost h => exact controlLoss_inRange hinv h
  | inputAndControlLost _ _ _ h =>
    refine controlLoss_inRange ?_ h
    exact ⟨hinv.room, hinv.repair⟩
  | handoffsLapsed hcleared =>
    rw [hcleared.core]
    exact .of_zero rfl rfl
  | heartbeatsStopped _ hdropped =>
    rw [hdropped.core]
    exact .of_zero rfl rfl
  | becameReady _ h =>
    obtain ⟨_, hcore⟩ := h.core
    rw [hcore]
    exact ⟨hinv.room, hinv.repair⟩
  | startedNow _ hr₁ => exact (hr₁.inRange ⟨hinv.room, hinv.repair⟩).enterPlaying
  | startFixedBySample hr₁ | startFixedByVote hr₁ =>
    have hinv₁ := hr₁.inRange ⟨hinv.room, hinv.repair⟩
    exact ⟨hinv₁.room, hinv₁.repair⟩
  | @restartedByLast c sequence frame now p pause _ hpause _ hstrict =>
    simp only [passesLimit, hstrict, hpause, Bool.true_and, Option.any_some,
      decide_eq_false_iff_not, Nat.not_lt] at hlimit
    exact ⟨(acknowledge_resumeAtFrame_le pause p frame).trans hlimit, hinv.repair⟩
  | @restarted c id sequence now p pause _ hpause _ hstrict =>
    simp only [passesLimit, hstrict, hpause, Bool.true_and, Option.any_some,
      decide_eq_false_iff_not, Nat.not_lt] at hlimit
    exact ⟨(release_resumeAtFrame pause p id).trans_le hlimit, hinv.repair⟩
  | frameReleased =>
    simp only [passesLimit, decide_eq_false_iff_not, Nat.not_lt] at hlimit
    exact hinv.release hlimit
  | openedByHost =>
    simp only [passesLimit, decide_eq_false_iff_not, Nat.not_lt] at hlimit
    exact hinv.enterPlaying.release hlimit
  | openedByTimer =>
    simp only [passesLimit, decide_eq_false_iff_not, Nat.not_lt] at hlimit
    have hinv₁ : InRange (sessionCore { r with pendingHostFrameOpen := none }) :=
      ⟨hinv.room, hinv.repair⟩
    exact hinv₁.enterPlaying.release hlimit
  | legacyInput h =>
    rw [h.core]
    exact ⟨hinv.room, hinv.repair⟩
  | legacyTick _ h =>
    simp only [passesLimit, decide_eq_false_iff_not, Nat.not_lt] at hlimit
    have hroom : r.roomFrame ≤ lastFrameInRange := hinv.room
    have hframe : r'.roomFrame ≤ lastFrameInRange := by
      rcases h.canonical with hsame | hreleased
      · omega
      · omega
    rw [h.core]
    exact ⟨hframe, hinv.repair⟩
  | resynced =>
    simp only [passesLimit, decide_eq_false_iff_not, Nat.not_lt] at hlimit
    exact .of_restart hlimit rfl rfl
  | recoveryPrepared hr₁ _ _ _ hframe | recoveryLimited hr₁ _ _ _ hframe =>
    simp only [passesLimit, decide_eq_false_iff_not, Nat.not_lt] at hlimit
    refine ⟨(hinv.of_same hr₁).room, fun transaction htransaction => ?_⟩
    obtain rfl := Option.some.inj htransaction
    exact hframe.trans_le hlimit
  | @pinned _ _ _ pin transaction _ _ _ htransaction =>
    have hrepair : transaction.repairFrame ≤ lastFrameInRange := hinv.repair _ htransaction
    refine ⟨hrepair, fun committed hcommitted => ?_⟩
    obtain rfl := Option.some.inj hcommitted
    exact hrepair
  | _ => exact ⟨hinv.room, hinv.repair⟩

/-! ## Whole runs -/

/-- **In every run in which no call takes the room's frame beyond the limit, no legacy input message
leads to an addition that overflows.** -/
theorem legacy_additions_fit {roomId key c session version resume input now voice ops s}
    (hguarded : Guarded (StoredRoom.step relay)
      (fun s op => Admissible s.room op ∧ passesLimit s.room op = false)
      (createRoom roomId key c session version resume input now voice) ops)
    (hrun : run (StoredRoom.step relay)
      (createRoom roomId key c session version resume input now voice) ops = some s)
    (op : RoomOp) : inputFits s.room op := by
  have hkeep : ∀ (s : StoredRoom) (op : RoomOp) (t : StoredRoom), InRange (sessionCore s.room) →
      Admissible s.room op ∧ passesLimit s.room op = false → s.step relay op = some t →
      InRange (sessionCore t.room) := by
    intro s op t hs hcall hstep
    rw [step_room hstep]
    exact effect_inRange hcall.2 hs (applyOp_effect relay s.room op)
  have hnew : InRange (sessionCore
      (createRoom roomId key c session version resume input now voice).room) := by
    cases voice <;> exact .of_zero rfl rfl
  exact inputFits_of_le (invariant_run hkeep hguarded hrun hnew).room op

/-- Nothing in an ordinary session comes near the limit. -/
theorem legacy_additions_fit_playing : ∃ s, run (StoredRoom.step sampleRelay) (sampleRoom 4)
      (seating false ++ handshake 4 0) = some s
    ∧ inputFits s.room (.relayInputFrame hostInput ⟨.one, 0⟩) := by
  have hfacts : Guarded (StoredRoom.step sampleRelay)
        (fun s op => Admissible s.room op ∧ passesLimit s.room op = false) (sampleRoom 4)
        (seating false ++ handshake 4 0)
      ∧ (run (StoredRoom.step sampleRelay) (sampleRoom 4)
        (seating false ++ handshake 4 0)).isSome := by
    decide +kernel
  obtain ⟨hguarded, hsome⟩ := hfacts
  obtain ⟨s, hs⟩ := Option.isSome_iff_exists.mp hsome
  exact ⟨s, hs, legacy_additions_fit hguarded hs _⟩

/-- The two players of a legacy session report different states for the last frame there is and
negotiate again from there. -/
def resyncedAtLastFrame : StoredRoom :=
  after sampleRelay (sampleRoom 4) (seating false ++ handshake 4 0 ++ mismatchAt u64Max
    ++ handshake 4 u64Max)

/-- The host's next frame of input makes the addition overflow. -/
theorem future_limit_overflows : Reachable sampleRelay resyncedAtLastFrame
    ∧ resyncedAtLastFrame.room.roomFrame = u64Max
    ∧ inputFits resyncedAtLastFrame.room (.relayInputFrame hostInput ⟨.one, u64Max⟩) = false :=
  ⟨reachable_after (by decide +kernel), by decide +kernel⟩

end NetplayRelay.Proof
