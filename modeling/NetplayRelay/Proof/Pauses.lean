import NetplayRelay.Proof.Releases

/-!
# Pauses are frame exact

A version 5 session is paused at a frame `P` that is fixed when the pause is asked for, a few frames
ahead. No frame beyond `P` is released while the pause is open; the room is paused once `P` has been
released and everybody's input reaches beyond it; and when nobody holds the pause any more the
session goes on at `P + 1`, in its next epoch. So the frames that are released before and after a
pause are one sequence.

The pause only waits for players who are connected. In a running session that should be both; a seat
that a runner handoff keeps is the exception, and the reason why the result asks for both players.
-/

namespace NetplayRelay.Proof

open Lib Protocol Rooms Registry NetplayRoom

variable {relay : Relay} {r r' : NetplayRoom} {core core' : SessionCore} {frame sequence : Nat}
  {pause pause' : SessionPauseStateTracker} {op : RoomOp} {c : ConnectionId} {now : Instant}
  {s : StoredRoom}

/-! ## Frames and an open pause -/

/-- How the frames of a version 5 room stand to each other and to an open pause. -/
structure PauseInv (core : SessionCore) : Prop where
  released : ∀ frame, core.releasedFrame = some frame →
    core.nextReleaseFrame = frame + 1
  /-- The room's own frame follows the releases. -/
  near : core.nextReleaseFrame ≤ core.roomFrame + 1
  bounded : ∀ pause, core.pauseState = some pause → core.nextReleaseFrame ≤ pause.pauseAtFrame + 1
  held : ∀ pause frame, core.pauseState = some pause → core.pendingHostFrameOpen = some frame →
    frame ≤ pause.pauseAtFrame
  /-- Whoever has reached the pause says so for its frame. -/
  reached : ∀ pause frame, core.pauseState = some pause → pause.pausedAtFrame = some frame →
    frame = pause.pauseAtFrame

namespace PauseInv

theorem of_restart (hreleased : core.releasedFrame = none)
    (hroom : core.nextReleaseFrame = core.roomFrame) (hpause : core.pauseState = none) :
    PauseInv core where
  released := fun _ h => absurd (hreleased.symm.trans h) (by simp)
  near := by omega
  bounded := fun _ h => absurd (hpause.symm.trans h) (by simp)
  held := fun _ _ h => absurd (hpause.symm.trans h) (by simp)
  reached := fun _ _ h => absurd (hpause.symm.trans h) (by simp)

/-- Nothing of it has changed, but a held open may have been dropped. -/
theorem carry (h : PauseInv core) (hreleased : core'.releasedFrame = core.releasedFrame)
    (hnext : core'.nextReleaseFrame = core.nextReleaseFrame)
    (hroom : core'.roomFrame = core.roomFrame) (hpause : core'.pauseState = core.pauseState)
    (hpending : core'.pendingHostFrameOpen = core.pendingHostFrameOpen
      ∨ core'.pendingHostFrameOpen = none) : PauseInv core' where
  released := by
    rw [hreleased, hnext]
    exact h.released
  near := by
    rw [hnext, hroom]
    exact h.near
  bounded := by
    rw [hpause, hnext]
    exact h.bounded
  held := by
    rw [hpause]
    intro pause frame hopen hframe
    rcases hpending with hsame | hnone
    · exact h.held pause frame hopen (hsame ▸ hframe)
    · exact absurd (hnone.symm.trans hframe) (by simp)
  reached := by
    rw [hpause]
    exact h.reached

theorem of_same (h : PauseInv (sessionCore r)) (hsame : SameSession r r') :
    PauseInv (sessionCore r') := by
  rw [hsame.core]
  exact h

/-- Frame `frame` is released: it was next, and is not beyond an open pause. -/
theorem release (h : PauseInv core) (hframe : frame = core.nextReleaseFrame)
    (hpause : ∀ pause, core.pauseState = some pause → frame ≤ pause.pauseAtFrame)
    (hreleased : core'.releasedFrame = some frame) (hnext : core'.nextReleaseFrame = frame + 1)
    (hroom : core'.roomFrame = max core.roomFrame frame)
    (hsame : core'.pauseState = core.pauseState) (hpending : core'.pendingHostFrameOpen = none) :
    PauseInv core' where
  released := by
    rw [hreleased, hnext]
    intro frame' hframe'
    rw [Option.some.inj hframe']
  near := by
    rw [hnext, hroom]
    omega
  bounded := by
    rw [hsame, hnext]
    intro pause hopen
    have := hpause pause hopen
    omega
  held := fun _ _ _ h => absurd (hpending.symm.trans h) (by simp)
  reached := by
    rw [hsame]
    exact h.reached

/-- The tracker of an open pause is replaced by one for the same frame. -/
theorem noted (h : PauseInv core) (hopen : core.pauseState = some pause)
    (hframe : pause'.pauseAtFrame = pause.pauseAtFrame)
    (hreached : pause'.pausedAtFrame = pause.pausedAtFrame
      ∨ pause'.pausedAtFrame = some pause.pauseAtFrame)
    (hreleased : core'.releasedFrame = core.releasedFrame)
    (hnext : core'.nextReleaseFrame = core.nextReleaseFrame)
    (hroom : core'.roomFrame = core.roomFrame) (hpause : core'.pauseState = some pause')
    (hpending : core'.pendingHostFrameOpen = core.pendingHostFrameOpen) : PauseInv core' where
  released := by
    rw [hreleased, hnext]
    exact h.released
  near := by
    rw [hnext, hroom]
    exact h.near
  bounded := by
    rw [hpause, hnext]
    intro other hother
    obtain rfl := Option.some.inj hother
    exact hframe ▸ h.bounded pause hopen
  held := by
    rw [hpause, hpending]
    intro other frame hother hheld
    obtain rfl := Option.some.inj hother
    exact hframe ▸ h.held pause frame hopen hheld
  reached := by
    rw [hpause]
    intro other frame hother hpaused
    obtain rfl := Option.some.inj hother
    rw [hframe]
    rcases hreached with hsame | hnow
    · exact h.reached pause frame hopen (hsame ▸ hpaused)
    · exact Option.some.inj (hpaused.symm.trans hnow)

end PauseInv

/-- An acknowledgement of a version 5 pause names the pause frame, which has been released, and
comes when everybody's input reaches beyond it. -/
structure PauseReached (r : NetplayRoom) (pause : SessionPauseStateTracker) (sequence frame : Nat) :
    Prop where
  sequence : pause.hasSequence sequence
  frame : frame = pause.pauseAtFrame
  released : ∃ released, r.releasedFrame = some released ∧ pause.pauseAtFrame ≤ released
  input : ∀ p ∈ r.connectedPlayerIndices, pause.pauseAtFrame < r.expectedFrame p

theorem pauseReportIsValid_reached (hstrict : r.usesStrictControllerInput)
    (h : r.pauseReportIsValid pause sequence frame) : PauseReached r pause sequence frame := by
  unfold pauseReportIsValid at h
  simp only [hstrict, if_true, Bool.true_and] at h
  split at h
  · exact absurd h (by simp)
  rename_i hreport
  split at h
  · exact absurd h (by simp)
  rename_i hreached
  simp only [Bool.or_eq_true, Bool.not_eq_true', decide_eq_true_eq, not_or, not_not,
    Bool.not_eq_false] at hreport
  simp only [Bool.or_eq_true, not_or, Bool.not_eq_true, List.any_eq_false, decide_eq_true_eq,
    not_le] at hreached
  refine ⟨hreport.1, hreport.2, ?_, hreached.2⟩
  cases hframe : r.releasedFrame with
  | none => exact absurd hreached.1 (by simp [hframe])
  | some released => exact ⟨released, rfl, by simpa [hframe] using hreached.1⟩

/-- What players do to an open pause does not move it. -/
theorem pauseNoted_frame (h : PauseNoted r op pause pause') :
    pause'.pauseAtFrame = pause.pauseAtFrame := by
  cases h with
  | held =>
    unfold SessionPauseStateTracker.hold
    split
    · rfl
    · split <;> rfl
  | acknowledged => rfl
  | released =>
    unfold SessionPauseStateTracker.release
    split
    · rfl
    · split <;> rfl

/-- A pause that is acknowledged was reached at its own frame. -/
theorem acknowledge_pausedAtFrame {p : PlayerIndex}
    (h : ∀ frame, pause.pausedAtFrame = some frame → frame = pause.pauseAtFrame) :
    (pause.acknowledge p pause.pauseAtFrame).pausedAtFrame = some pause.pauseAtFrame := by
  unfold SessionPauseStateTracker.acknowledge
  cases hbefore : pause.pausedAtFrame with
  | none => rfl
  | some frame =>
    rw [h frame hbefore]
    simp

theorem pauseNoted_reached (hstrict : r.usesStrictControllerInput)
    (hbefore : ∀ frame, pause.pausedAtFrame = some frame → frame = pause.pauseAtFrame)
    (h : PauseNoted r op pause pause') :
    pause'.pausedAtFrame = pause.pausedAtFrame
      ∨ pause'.pausedAtFrame = some pause.pauseAtFrame := by
  cases h with
  | held =>
    left
    unfold SessionPauseStateTracker.hold
    split
    · rfl
    · split <;> rfl
  | acknowledged _ hvalid =>
    right
    rw [(pauseReportIsValid_reached hstrict hvalid).frame]
    exact acknowledge_pausedAtFrame hbefore
  | released =>
    left
    unfold SessionPauseStateTracker.release
    split
    · rfl
    · split <;> rfl

theorem completesPause_valid {p : PlayerIndex} (hp : r.playerIndexForConnection c = some p)
    (hpause : r.pauseState = some pause) (h : completesPause r c sequence frame) :
    r.pauseReportIsValid pause sequence frame := by
  simp only [completesPause, hp, hpause, Bool.and_eq_true] at h
  exact h.1

theorem controlLoss_pauses {grace : Duration} (hinv : PauseInv (sessionCore r))
    (h : ControlLoss r c now grace r') : PauseInv (sessionCore r') := by
  cases h with
  | unknown _ h => exact hinv.of_same h
  | alsoLost hr₁ => exact (hinv.of_same hr₁).carry rfl rfl rfl rfl (.inl rfl)
  | handoffKept | recovery | hostGone | guestGone => exact .of_restart rfl rfl rfl

theorem Negotiated.pauses (hr : Negotiated r r') (h : PauseInv (sessionCore r)) :
    PauseInv (sessionCore r') := by
  obtain ⟨_, hcore⟩ := hr.core
  rw [hcore]
  exact h.carry rfl rfl rfl rfl (.inl rfl)

theorem effect_pauses (hstrict : r.usesStrictControllerInput) (hframes : FrameInv (sessionCore r))
    (hcovered : HeldCovered (sessionCore r)) (hinv : PauseInv (sessionCore r))
    (h : Effect relay r op r') : PauseInv (sessionCore r') := by
  cases h with
  | bookkeeping h => exact hinv.of_same h
  | joined | reconnected | exited | restartedByLast | restarted | pinned =>
    exact .of_restart rfl rfl rfl
  | hostAttached | handoffReconnected | inputAttached | inputLost | fingerprintRejected
  | fingerprintStored | fingerprintsDiffer | fingerprintsAgree | linkRejected | linkStored
  | linksDiffer | linksAgree | snapshotCompleted | sampleStored | voteCounted | inputAccepted =>
    exact hinv.carry rfl rfl rfl rfl (.inl rfl)
  | controlLost h => exact controlLoss_pauses hinv h
  | @inputAndControlLost c _ now slot _ _ _ _ h =>
    have hdetached : PauseInv (sessionCore (r.detachInputSocket c slot.playerIndex now)) :=
      hinv.carry rfl rfl rfl rfl (.inl rfl)
    exact controlLoss_pauses hdetached h
  | pinTimedOut => exact hinv.carry rfl rfl rfl rfl (.inr rfl)
  | handoffsLapsed hcleared =>
    rw [hcleared.core]
    exact .of_restart rfl rfl rfl
  | heartbeatsStopped _ hdropped =>
    rw [hdropped.core]
    exact .of_restart rfl rfl rfl
  | becameReady _ h =>
    obtain ⟨_, hcore⟩ := h.core
    rw [hcore]
    exact hinv.carry rfl rfl rfl rfl (.inl rfl)
  | startedNow _ hr₁ | startFixedBySample hr₁ | startFixedByVote hr₁ =>
    have hbefore := hr₁.pauses (hinv.carry rfl rfl rfl rfl (.inl rfl))
    exact hbefore.carry rfl rfl rfl rfl (.inl rfl)
  | @pauseOpened _ _ _ frame _ _ hnone =>
    -- the pause is ahead of the room, and so of everything released or about to be
    have hahead : r.nextReleaseFrame ≤ satAdd u64Max (max r.roomFrame frame)
        sessionPauseLeadFrames := by
      have hnear : r.nextReleaseFrame ≤ r.roomFrame + 1 := hinv.near
      have hbound : r.nextReleaseFrame ≤ u64Max := hframes.release
      simp only [satAdd, sessionPauseLeadFrames]
      omega
    refine ⟨hinv.released, hinv.near, ?_, ?_, ?_⟩
    · intro pause hpause
      obtain rfl := Option.some.inj hpause
      exact Nat.le_succ_of_le hahead
    · intro pause pending hpause hpending
      obtain rfl := Option.some.inj hpause
      obtain ⟨rfl, _⟩ := hframes.pending hstrict pending hpending
      exact hahead
    · intro pause reached hpause hreached
      obtain rfl := Option.some.inj hpause
      exact absurd hreached (by simp [SessionPauseStateTracker.new])
  | pauseNoted hpause hnoted =>
    exact hinv.noted hpause (pauseNoted_frame hnoted)
      (pauseNoted_reached hstrict (fun _ => hinv.reached _ _ hpause) hnoted) rfl rfl rfl rfl rfl
  | @paused c sequence frame now p pause hp hpause hcompletes =>
    have hnoted : PauseNoted r (.markSessionPauseReached c sequence frame now) pause
        (pause.acknowledge p frame) :=
      .acknowledged hp (completesPause_valid hp hpause hcompletes)
    exact hinv.noted hpause (pauseNoted_frame hnoted)
      (pauseNoted_reached hstrict (fun _ => hinv.reached _ _ hpause) hnoted) rfl rfl rfl rfl rfl
  | pauseEndedByLast _ _ _ hlegacy | pauseEnded _ _ _ hlegacy
  | legacyTick hlegacy | resynced _ _ hlegacy => exact absurd (hlegacy.symm.trans hstrict) (by simp)
  | openHeld _ _ _ _ _ hallowed =>
    refine ⟨hinv.released, hinv.near, hinv.bounded, fun pause frame hpause hframe => ?_,
      hinv.reached⟩
    obtain rfl := Option.some.inj hframe
    exact hallowed.pause pause hpause
  | frameReleased _ hnext hcovers hallowed | openedByHost _ hnext hcovers _ _ _ hallowed =>
    have hcursor := satAdd_of_covered hframes (of_decide_eq_true hcovers)
    exact hinv.release hnext hallowed.pause rfl hcursor rfl rfl rfl
  | openedByTimer hstatus hpending =>
    have hcursor := satAdd_of_covered hframes (hcovered hstrict hstatus _ hpending)
    exact hinv.release (hframes.pending hstrict _ hpending).1
      (fun pause hpause => hinv.held pause _ hpause hpending) rfl hcursor rfl rfl rfl
  | legacyInput h =>
    rw [h.core]
    exact hinv.carry rfl rfl rfl rfl (.inl rfl)
  | recoveryPrepared hr₁ | recoveryLimited hr₁ =>
    exact (hinv.of_same hr₁).carry rfl rfl rfl rfl (.inr rfl)

/-- **Nothing is released beyond an open pause, in every reachable version 5 room.** -/
theorem pauses_reachable (h : StrictReachable relay s) : PauseInv (sessionCore s.room) := by
  refine reachable_inv
    (fun r => r.usesStrictControllerInput → PauseInv (sessionCore r)) ?_ ?_ h.1 h.2
  · intro roomId key c session version resume input now voice _
    cases voice <;> exact .of_restart rfl rfl rfl
  intro s op hs hinv _ hstrict
  have heffect := applyOp_effect relay s.room op
  rw [(effect_terms heffect).usesStrictControllerInput] at hstrict
  exact effect_pauses hstrict (frames_reachable hs) (held_reachable hs) (hinv hstrict) heffect

/-! ## Reaching and ending a pause -/

/-- The call is what an open pause waits for to end: nobody holds it any more and the room is
paused, or is being paused by this acknowledgement. -/
def endsPause (r : NetplayRoom) : RoomOp → Bool
  | .markSessionPauseReached c sequence frame _ => completesPause r c sequence frame
    && r.pauseState.all fun pause => !pause.hasHolders
  | .requestSessionResume c id sequence _ =>
    match r.playerIndexForConnection c, r.pauseState with
    | some p, some pause => pause.hasSequence sequence && !(pause.release p id).hasHolders
      && r.status = .paused
    | _, _ => false
  | _ => false

/-- What acknowledgements and resume requests do in a version 5 room. -/
inductive PauseStep (relay : Relay) (r : NetplayRoom) (op : RoomOp) : NetplayRoom → Prop
  | refused (hopen : endsPause r op = false) : PauseStep relay r op r
  | noted {pause pause' : SessionPauseStateTracker} (hopen : endsPause r op = false)
      (hpause : r.pauseState = some pause) (hnoted : PauseNoted r op pause pause') :
      PauseStep relay r op { r with pauseState := some pause' }
  | reached {p : PlayerIndex} {pause : SessionPauseStateTracker} {sequence frame : Nat}
      (hopen : endsPause r op = false) (hpause : r.pauseState = some pause)
      (hvalid : r.pauseReportIsValid pause sequence frame) :
      PauseStep relay r op { r with pauseState := some (pause.acknowledge p frame) }.enterPaused
  | restarted {pause pause' : SessionPauseStateTracker} {serverTimeMs : Nat}
      (hends : endsPause r op)
      (hpause : r.pauseState = some pause) (hnoted : PauseNoted r op pause pause')
      (hreached : r.status = .paused
        ∨ ∃ sequence frame, r.pauseReportIsValid pause sequence frame) :
      PauseStep relay r op (restartSession r pause'.resumeAtFrame serverTimeMs)

theorem acknowledge_hasHolders (pause : SessionPauseStateTracker) (p : PlayerIndex) (frame : Nat) :
    (pause.acknowledge p frame).hasHolders = pause.hasHolders := rfl

theorem markSessionPauseReached_step (hstrict : r.usesStrictControllerInput) :
    PauseStep relay r (.markSessionPauseReached c sequence frame now)
      (applyOp relay r (.markSessionPauseReached c sequence frame now)) := by
  rw [applyOp]
  unfold markSessionPauseReachedWithOutcomeAt
  cases hp : r.playerIndexForConnection c with
  | none => exact .refused (by simp [endsPause, completesPause, hp])
  | some p =>
    cases hpause : r.pauseState with
    | none => exact .refused (by simp [endsPause, completesPause, hpause])
    | some pause =>
      by_cases hvalid : r.pauseReportIsValid pause sequence frame
      · simp only [hvalid, Bool.not_true, Bool.false_eq_true, if_false, hstrict, if_true]
        split
        · rename_i hall
          split
          · rename_i hfree
            have hfree : pause.hasHolders = false := by simpa [acknowledge_hasHolders] using hfree
            refine .restarted ?_ hpause (.acknowledged hp hvalid) (.inr ⟨_, _, hvalid⟩)
            simp [endsPause, completesPause, hp, hpause, hvalid, hall, hfree]
          · rename_i hheld
            have hheld : pause.hasHolders = true := by simpa [acknowledge_hasHolders] using hheld
            exact .reached (by simp [endsPause, hpause, hheld]) hpause hvalid
        · rename_i hsome
          refine .noted ?_ hpause (.acknowledged hp hvalid)
          simp [endsPause, completesPause, hp, hpause, hsome]
      · simp only [hvalid, Bool.not_false, if_true]
        exact .refused (by simp [endsPause, completesPause, hp, hpause, hvalid])

theorem requestSessionResume_step {id : Text} (hstrict : r.usesStrictControllerInput) :
    PauseStep relay r (.requestSessionResume c id sequence now)
      (applyOp relay r (.requestSessionResume c id sequence now)) := by
  rw [applyOp]
  unfold requestSessionResumeWithIdAt
  cases hp : r.playerIndexForConnection c with
  | none => exact .refused (by simp [endsPause, hp])
  | some p =>
    cases hpause : r.pauseState with
    | none => exact .refused (by simp [endsPause, hp, hpause])
    | some pause =>
      by_cases hsequence : pause.hasSequence sequence
      · simp only [hsequence, Bool.not_true, Bool.false_eq_true, if_false, hstrict, if_true]
        have hnoted : PauseNoted r (.requestSessionResume c id sequence now) pause
            (pause.release p id) := .released hp hsequence
        split
        · rename_i hopen
          refine .noted ?_ hpause hnoted
          simp only [Bool.or_eq_true, decide_eq_true_eq] at hopen
          rcases hopen with hheld | hstatus
          · simp [endsPause, hp, hpause, hsequence, hheld]
          · simp [endsPause, hp, hpause, hsequence, hstatus]
        · rename_i hends
          have hends : (pause.release p id).hasHolders = false ∧ r.status = .paused := by
            simpa using hends
          exact .restarted (by simp [endsPause, hp, hpause, hsequence, hends]) hpause hnoted
            (.inl hends.2)
      · simp only [hsequence, Bool.not_false, if_true]
        exact .refused (by simp [endsPause, hp, hpause, hsequence])

/-! ## One call around a pause -/

/-- The calls of the input lane, acknowledgements of a pause and resume requests. -/
def isPlay : RoomOp → Bool
  | .markSessionPauseReached .. | .requestSessionResume .. => true
  | op => isLane op

/-- A room that is paused stands at the frame of its pause. -/
def Settled (r : NetplayRoom) : Prop :=
  r.status = .paused → ∃ pause, r.pauseState = some pause
    ∧ r.releasedFrame = some pause.pauseAtFrame

/-- The session goes on right behind the pause frame, in its next epoch. -/
structure ResumesAfter (r : NetplayRoom) (pauseAtFrame : Nat) (r' : NetplayRoom) : Prop where
  released : r.releasedFrame = some pauseAtFrame
  ended : r'.pauseState = none
  status : r'.status = .startScheduled
  sessionEpoch : r'.sessionEpoch = satAdd u64Max r.sessionEpoch 1
  start : ∃ start, r'.scheduledStart = some start ∧ start.startFrame = pauseAtFrame + 1
    ∧ start.roomEpoch = r'.roomEpoch ∧ start.sessionEpoch = r'.sessionEpoch
  next : r'.nextReleaseFrame = pauseAtFrame + 1

/-- What frame exactness asks of one call. -/
structure PauseExact (relay : Relay) (r : NetplayRoom) (op : RoomOp) : Prop where
  bounded : ∀ pause, r.pauseState = some pause →
    ∀ release ∈ releasesBy relay r op, release.releasedFrame ≤ pause.pauseAtFrame
  stays : ∀ pause, r.pauseState = some pause → endsPause r op = false →
    ∃ pause', (applyOp relay r op).pauseState = some pause'
      ∧ pause'.pauseAtFrame = pause.pauseAtFrame
  ends : ∀ pause, r.pauseState = some pause → endsPause r op →
    ResumesAfter r pause.pauseAtFrame (applyOp relay r op)
  reached : (applyOp relay r op).status = .paused → r.status ≠ .paused →
    ∃ pause, r.pauseState = some pause ∧ r.releasedFrame = some pause.pauseAtFrame
      ∧ ∀ slot ∈ r.players, pause.pauseAtFrame < r.expectedFrame slot.playerIndex

/-- The pause frame is the last one that was released. -/
theorem PauseReached.released_eq (h : PauseReached r pause sequence frame)
    (hinv : PauseInv (sessionCore r)) (hpause : r.pauseState = some pause) :
    r.releasedFrame = some pause.pauseAtFrame := by
  obtain ⟨released, hreleased, hle⟩ := h.released
  have hnext : r.nextReleaseFrame = released + 1 := hinv.released released hreleased
  have hbounded : r.nextReleaseFrame ≤ pause.pauseAtFrame + 1 := hinv.bounded pause hpause
  rw [hreleased]
  congr 1
  omega

/-- The lane neither moves an open pause nor pauses a room. -/
theorem lane_pause (relay : Relay) (hsettled : Settled r) (hlane : isLane op) :
    (∀ pause, r.pauseState = some pause → ∃ pause', (applyOp relay r op).pauseState = some pause'
        ∧ pause'.pauseAtFrame = pause.pauseAtFrame)
      ∧ ((applyOp relay r op).status = .paused → r.status = .paused
        ∧ (applyOp relay r op).releasedFrame = r.releasedFrame) := by
  have heffect := lane_effect relay r hlane
  generalize applyOp relay r op = r', publishedBy relay r op = events at heffect
  cases heffect with
  | quiet | accepted | held => exact ⟨fun pause h => ⟨pause, h, rfl⟩, fun h => ⟨h, rfl⟩⟩
  | @pauseHeld c id reason frame p pause hp hpause =>
    refine ⟨fun pause' h => ?_, fun h => ⟨h, rfl⟩⟩
    obtain rfl := Option.some.inj (hpause.symm.trans h)
    have hnoted : PauseNoted r (.requestSessionPause c id reason frame) pause
        (pause.hold p id reason) := .held hp
    exact ⟨_, rfl, pauseNoted_frame hnoted⟩
  | pauseOpened hstatus hnone =>
    refine ⟨fun pause h => absurd (hnone.symm.trans h) (by simp), fun h => ?_⟩
    -- a paused room has its pause already
    obtain ⟨pause, hpause, _⟩ := hsettled h
    exact absurd (hnone.symm.trans hpause) (by simp)
  | released hstatus =>
    refine ⟨fun pause h => ⟨pause, h, rfl⟩, fun h => ?_⟩
    exact absurd (hstatus.symm.trans h) (by simp)
  | opened | woken => exact ⟨fun pause h => ⟨pause, h, rfl⟩, fun h => RoomStatus.noConfusion h⟩

theorem lane_pauseExact (hs : StrictReachable relay s) (hadmissible : Admissible s.room op)
    (hsettled : Settled s.room) (hlane : isLane op) :
    PauseExact relay s.room op ∧ Settled (applyOp relay s.room op) := by
  obtain ⟨hopen, hpaused⟩ := lane_pause relay hsettled hlane
  have hends : endsPause s.room op = false := by
    cases op <;> first | rfl | exact absurd hlane (by simp [isLane])
  refine ⟨⟨?_, fun pause hpause _ => hopen pause hpause, ?_, ?_⟩, ?_⟩
  · intro pause hpause release hrelease
    obtain ⟨pause', hpause', hframe⟩ := hopen pause hpause
    have hinv' := pauses_reachable (strictReachable_step hs hadmissible (lane_notRemoved hlane))
    have hbounded : (applyOp relay s.room op).nextReleaseFrame ≤ pause'.pauseAtFrame + 1 :=
      hinv'.bounded pause' hpause'
    rcases (strictReachable_lane hs hlane).release with ⟨hnone, _⟩ | ⟨_, hone, hright, hnext⟩
    · rw [hnone] at hrelease
      exact absurd hrelease (by simp)
    rw [hone, List.mem_singleton] at hrelease
    obtain rfl := hrelease
    have := hright.frame
    omega
  · exact fun _ _ h => absurd (hends.symm.trans h) (by simp)
  · exact fun h hother => absurd (hpaused h).1 hother
  intro h
  obtain ⟨hstatus, hreleased⟩ := hpaused h
  obtain ⟨pause, hpause, hframe⟩ := hsettled hstatus
  obtain ⟨pause', hpause', hsame⟩ := hopen pause hpause
  exact ⟨pause', hpause', by rw [hreleased, hframe, hsame]⟩

/-- The frame at which a pause lets the session go on. -/
theorem resumeAtFrame_eq (hframe : pause.pauseAtFrame = frame)
    (hreached : pause.pausedAtFrame = none ∨ pause.pausedAtFrame = some frame) :
    pause.resumeAtFrame = satAdd u64Max frame 1 := by
  rw [SessionPauseStateTracker.resumeAtFrame]
  rcases hreached with hnone | hsome
  · rw [hnone, Option.getD_none, hframe]
  · rw [hsome, Option.getD_some]

theorem pauseStep_exact (hs : StrictReachable relay s) (hfull : Full s.room)
    (hsettled : Settled s.room) (hstep : PauseStep relay s.room op (applyOp relay s.room op))
    (hsilent : releasesBy relay s.room op = []) :
    PauseExact relay s.room op ∧ Settled (applyOp relay s.room op)
      ∧ (applyOp relay s.room op).nextReleaseFrame = s.room.nextReleaseFrame := by
  have hinv := pauses_reachable hs
  have hbounded : ∀ pause, s.room.pauseState = some pause →
      ∀ release ∈ releasesBy relay s.room op, release.releasedFrame ≤ pause.pauseAtFrame := by
    intro pause _ release hrelease
    rw [hsilent] at hrelease
    exact absurd hrelease (by simp)
  generalize hr' : applyOp relay s.room op = r' at hstep
  -- an open pause at the same frame, in a room that has the same frames
  have hgoesOn : endsPause s.room op = false → r'.releasedFrame = s.room.releasedFrame →
      (∀ pause, s.room.pauseState = some pause → ∃ pause', r'.pauseState = some pause'
        ∧ pause'.pauseAtFrame = pause.pauseAtFrame) →
      (r'.status = .paused → ∃ pause, s.room.pauseState = some pause
        ∧ s.room.releasedFrame = some pause.pauseAtFrame) →
      (r'.status = .paused → s.room.status ≠ .paused → ∃ pause, s.room.pauseState = some pause
        ∧ s.room.releasedFrame = some pause.pauseAtFrame
        ∧ ∀ slot ∈ s.room.players, pause.pauseAtFrame < s.room.expectedFrame slot.playerIndex) →
      PauseExact relay s.room op ∧ Settled r' := by
    intro hends hreleased hstays hpaused hreached
    subst hr'
    refine ⟨⟨hbounded, fun pause hpause _ => hstays pause hpause, ?_, hreached⟩, fun h => ?_⟩
    · exact fun _ _ h => absurd (hends.symm.trans h) (by simp)
    · obtain ⟨pause, hpause, hframe⟩ := hpaused h
      obtain ⟨pause', hpause', hsame⟩ := hstays pause hpause
      exact ⟨pause', hpause', by rw [hreleased, hframe, hsame]⟩
  cases hstep with
  | refused hends =>
    obtain ⟨hexact, hsettled'⟩ := hgoesOn hends rfl (fun pause h => ⟨pause, h, rfl⟩) hsettled
      fun h hother => absurd h hother
    exact ⟨hexact, hsettled', rfl⟩
  | @noted pause pause' hends hpause hnoted =>
    have hstays : ∀ other, s.room.pauseState = some other →
        ∃ next, some pause' = some next ∧ next.pauseAtFrame = other.pauseAtFrame := by
      intro other hother
      obtain rfl := Option.some.inj (hpause.symm.trans hother)
      exact ⟨pause', rfl, pauseNoted_frame hnoted⟩
    obtain ⟨hexact, hsettled'⟩ := hgoesOn hends rfl hstays hsettled
      fun h hother => absurd h hother
    exact ⟨hexact, hsettled', rfl⟩
  | @reached p pause sequence frame hends hpause hvalid =>
    have hreport := pauseReportIsValid_reached hs.2 hvalid
    have hreleased := hreport.released_eq hinv hpause
    have hstays : ∀ other, s.room.pauseState = some other → ∃ next,
        some (pause.acknowledge p frame) = some next ∧ next.pauseAtFrame = other.pauseAtFrame := by
      intro other hother
      obtain rfl := Option.some.inj (hpause.symm.trans hother)
      exact ⟨_, rfl, rfl⟩
    obtain ⟨hexact, hsettled'⟩ := hgoesOn hends rfl hstays
      (fun _ => ⟨pause, hpause, hreleased⟩) fun _ _ => by
        refine ⟨pause, hpause, hreleased, fun slot hslot => hreport.input _ ?_⟩
        exact List.mem_map_of_mem (List.mem_filter.mpr ⟨hslot, hfull slot hslot⟩)
    exact ⟨hexact, hsettled', rfl⟩
  | @restarted pause pause' serverTimeMs hends hpause hnoted hreached =>
    have hreleased : s.room.releasedFrame = some pause.pauseAtFrame := by
      rcases hreached with hstatus | ⟨sequence, frame, hvalid⟩
      · obtain ⟨other, hother, hframe⟩ := hsettled hstatus
        obtain rfl := Option.some.inj (hpause.symm.trans hother)
        exact hframe
      · exact (pauseReportIsValid_reached hs.2 hvalid).released_eq hinv hpause
    have hnext : s.room.nextReleaseFrame = pause.pauseAtFrame + 1 := hinv.released _ hreleased
    have hresume : pause'.resumeAtFrame = pause.pauseAtFrame + 1 := by
      have hlimit : s.room.nextReleaseFrame ≤ u64Max := (frames_reachable hs.1).release
      have hbefore : pause.pausedAtFrame = none
          ∨ pause.pausedAtFrame = some pause.pauseAtFrame := by
        cases hcase : pause.pausedAtFrame with
        | none => exact .inl rfl
        | some frame => exact .inr (by rw [hinv.reached pause frame hpause hcase])
      rw [resumeAtFrame_eq (pauseNoted_frame hnoted), satAdd_eq_add (by omega)]
      rcases pauseNoted_reached hs.2 (fun _ => hinv.reached _ _ hpause) hnoted with hsame | hnow
      · rwa [hsame]
      · exact .inr hnow
    have hresumes : ResumesAfter s.room pause.pauseAtFrame
        (restartSession s.room pause'.resumeAtFrame serverTimeMs) :=
      ⟨hreleased, rfl, rfl, rfl, ⟨_, rfl, hresume, rfl, rfl⟩, hresume⟩
    refine ⟨⟨hbounded, ?_, ?_, ?_⟩, fun h => RoomStatus.noConfusion h, hresume.trans hnext.symm⟩
    · exact fun _ _ h => absurd (h.symm.trans hends) (by simp)
    · intro other hother _
      obtain rfl := Option.some.inj (hpause.symm.trans hother)
      exact hr' ▸ hresumes
    · rw [hr']
      exact fun h => RoomStatus.noConfusion h

/-! ## Runs of play and pauses -/

abbrev playGuard (s : StoredRoom) (op : RoomOp) : Prop := isPlay op ∧ Admissible s.room op

theorem play_notRemoved (relay : Relay) (s : StoredRoom) (h : isPlay op) :
    ∃ t, s.step relay op = some t := by
  refine ⟨_, if_neg ?_⟩
  cases op <;> simp_all [isPlay, isLane, StoredRoom.removedBy]

/-- One call of play: it is exact, it keeps what later calls rely on, and it releases the next frame
or none. -/
theorem play_step {t : StoredRoom} (hs : StrictReachable relay s) (hfull : Full s.room)
    (hsettled : Settled s.room) (hguard : playGuard s op) (hstep : s.step relay op = some t) :
    PauseExact relay s.room op ∧ Full t.room ∧ Settled t.room
      ∧ Emits releaseCursor s t (releasedFrames relay s op) := by
  have hseats := effect_seats (seats_reachable hs.1) (applyOp_effect relay s.room op)
  have hstays : leaves op = false := by
    obtain ⟨hplay, _⟩ := hguard
    cases op <;> simp_all [isPlay, isLane, leaves]
  have hfull' := hseats.full hstays hfull
  have hpause : ∀ (_ : PauseStep relay s.room op (applyOp relay s.room op))
      (_ : releasesBy relay s.room op = []), PauseExact relay s.room op ∧ Full t.room
        ∧ Settled t.room ∧ Emits releaseCursor s t (releasedFrames relay s op) := by
    intro hcall hsilent
    obtain ⟨hexact, hsettled', hnext⟩ := pauseStep_exact hs hfull hsettled hcall hsilent
    rw [← step_room hstep] at hfull' hsettled' hnext
    exact ⟨hexact, hfull', hsettled', .inl ⟨by rw [releasedFrames, hsilent]; rfl, hnext⟩⟩
  by_cases hlane : isLane op
  · obtain ⟨hexact, hsettled'⟩ := lane_pauseExact hs hguard.2 hsettled hlane
    rw [← step_room hstep] at hfull' hsettled'
    exact ⟨hexact, hfull', hsettled', lane_emits hs hlane hstep⟩
  · cases op with
    | markSessionPauseReached => exact hpause (markSessionPauseReached_step hs.2) rfl
    | requestSessionResume => exact hpause (requestSessionResume_step hs.2) rfl
    | _ => exact absurd hguard.1 (by simp_all [isPlay, isLane])

/-- **A version 5 pause is frame exact.** Let both players be there, and let a room that is paused
stand at its pause frame. Over any run of input, opens, timers, pause requests, acknowledgements and
resume requests: while a pause is open at frame `P`, nothing beyond `P` is released and the pause
stays at `P`; the room becomes paused only when `P` is the last released frame and both players'
input reaches beyond it; the last release of the pause starts the session at `P + 1` in its next
epoch; and the frames released in all epochs of the run are one sequence without gap or
repetition. -/
theorem pause_frameExact {s : StoredRoom} {ops : List RoomOp} (h : Reachable relay s)
    (hstrict : s.room.usesStrictControllerInput) (hfull : Full s.room) (hsettled : Settled s.room)
    (hguarded : Guarded (StoredRoom.step relay) playGuard s ops) :
    ∃ t n, run (StoredRoom.step relay) s ops = some t
      ∧ ((visits (StoredRoom.step relay) s ops).flatMap fun visit =>
          releasedFrames relay visit.1 visit.2) = List.range' s.room.nextReleaseFrame n
      ∧ t.room.nextReleaseFrame = s.room.nextReleaseFrame + n
      ∧ ∀ visit ∈ visits (StoredRoom.step relay) s ops,
        PauseExact relay visit.1.room visit.2 := by
  let Inv := fun s : StoredRoom => StrictReachable relay s ∧ Full s.room ∧ Settled s.room
  have hkeep : ∀ u op v, Inv u → playGuard u op → u.step relay op = some v → Inv v := by
    intro u op v hu hop hv
    obtain ⟨_, hfull', hsettled', _⟩ := play_step hu.1 hu.2.1 hu.2.2 hop hv
    exact ⟨strictReachable_step hu.1 hop.2 hv, hfull', hsettled'⟩
  have hstart : Inv s := ⟨⟨h, hstrict⟩, hfull, hsettled⟩
  obtain ⟨t, ht⟩ := run_total
    (fun u op hop => Option.isSome_iff_exists.mpr (play_notRemoved relay u hop.1)) hguarded
  obtain ⟨n, hframes, hcursor⟩ := emits_range hkeep
    (fun u op v hu hop hv => (play_step hu.1 hu.2.1 hu.2.2 hop hv).2.2.2) hguarded ht hstart
  refine ⟨t, n, ht, hframes, hcursor, fun visit hvisit => ?_⟩
  obtain ⟨hinv, hop⟩ := forall_visits hkeep hguarded hstart visit hvisit
  obtain ⟨v, hv⟩ := play_notRemoved relay visit.1 hop.1
  exact (play_step hinv.1 hinv.2.1 hinv.2.2 hop hv).1

/-- The calls with which the players in `present` play up to a pause at frame 8 that the host asks
for and lets go again. -/
def pausedStretch (present : List (ConnectionId × ConnectionId × PlayerIndex)) : List RoomOp :=
  [.requestSessionPause hostSocket "p".toList .menu 0]
    ++ present.map (fun (_, input, player) => .relayStrictInputBatch input
      ⟨2, 2, player, 0, List.replicate 9 (.replicate 10 0)⟩)
    ++ (List.range 10).map (fun frame => .relayHostFrameOpen hostInput ⟨2, 2, frame⟩ 0)
    ++ present.map (fun (control, _, _) => .markSessionPauseReached control 1 8 0)

/-- Both players pause at frame 8; the host opens frame 9 in vain, and lets the pause go. -/
theorem pause_frameExact_playing :
    let ops := pausedStretch [(hostSocket, hostInput, .one), (guestSocket, guestInput, .two)]
      ++ [.requestSessionResume hostSocket "r".toList 1 0]
    (run (StoredRoom.step sampleRelay) playingRoom ops).map (fun t => (t.room.status,
        t.room.sessionEpoch, t.room.nextReleaseFrame)) = some (.startScheduled, 3, 9)
      ∧ ∃ n, ((visits (StoredRoom.step sampleRelay) playingRoom ops).flatMap fun visit =>
        releasedFrames sampleRelay visit.1 visit.2)
          = List.range' playingRoom.room.nextReleaseFrame n := by
  intro ops
  have hfacts : playingRoom.room.usesStrictControllerInput
      ∧ (∀ slot ∈ playingRoom.room.players, slot.isConnected)
      ∧ playingRoom.room.status = .playing
      ∧ Guarded (StoredRoom.step sampleRelay) playGuard playingRoom ops
      ∧ (run (StoredRoom.step sampleRelay) playingRoom ops).map (fun t => (t.room.status,
        t.room.sessionEpoch, t.room.nextReleaseFrame)) = some (.startScheduled, 3, 9) := by
    decide +kernel
  obtain ⟨hstrict, hfull, hstatus, hguarded, hend⟩ := hfacts
  have hsettled : Settled playingRoom.room := fun h => absurd (hstatus.symm.trans h) (by simp)
  obtain ⟨t, n, _, hframes, _⟩ := pause_frameExact playingRoom_reachable hstrict hfull hsettled
    hguarded
  exact ⟨hend, n, hframes⟩

/-- The guest armed a runner handoff before the session and has closed its sockets. -/
def deputisedRoom : StoredRoom :=
  after sampleRelay (sampleRoom 5) (seating false ++ [.armRunnerHandoff guestSocket 0]
    ++ handshake 5 0 ++ [.disconnect guestSocket 1])

/-- The host plays on alone and pauses at frame 8: the room is paused, and of the guest's input
there is none. -/
theorem pause_withoutGuestInput :
    let ops := pausedStretch [(hostSocket, hostInput, .one)]
    Reachable sampleRelay deputisedRoom ∧ deputisedRoom.room.usesStrictControllerInput
      ∧ deputisedRoom.room.status = .playing
      ∧ Guarded (StoredRoom.step sampleRelay) playGuard deputisedRoom ops
      ∧ (run (StoredRoom.step sampleRelay) deputisedRoom ops).map (fun t => (t.room.status,
          t.room.pauseState.map (·.pauseAtFrame), t.room.releasedFrame,
          t.room.players.map fun slot => t.room.expectedFrame slot.playerIndex))
        = some (.paused, some 8, some 8, [9, 0]) :=
  ⟨reachable_after (by decide +kernel), by decide +kernel⟩

end NetplayRelay.Proof
