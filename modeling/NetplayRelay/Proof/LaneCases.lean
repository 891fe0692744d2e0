import NetplayRelay.Registry.StoredRoom

/-!
# What the input lane can do

One inversion lemma each for a strict batch, a host frame open and the timer of a held open: the
answer, what is published, and the room that is left, with the conditions of each outcome.
-/

namespace NetplayRelay.Proof

open Lib Protocol Rooms Registry NetplayRoom

/-! ## Strict batches -/

/-- The part of a batch from frame `first` on. -/
def batchFrom (batch : StrictInputBatch) (first : Nat) : StrictInputBatch :=
  { batch with
    startFrame := first
    payloads := batch.payloads.drop (first - batch.startFrame) }

/-- Recording input moves the cursor of its player and no other. -/
theorem expectedFrame_recordInput {r : NetplayRoom} {p q : PlayerIndex} {last next : Nat} :
    (r.recordInput p last next).expectedFrame q = if q = p then next else r.expectedFrame q := by
  show ((r.nextInputFrames.insert p next).lookup q).getD r.syncStartFrame = _
  split
  · rename_i h
    rw [h, AList.lookup_insert, Option.getD_some]
  · rename_i h
    rw [AList.lookup_insert_ne h]
    rfl

/-- The batch reaches beyond the cursor without leaving a gap, and stays within the window. -/
structure BatchAdvances (r : NetplayRoom) (batch : StrictInputBatch) : Prop where
  strict : r.usesStrictControllerInput
  status : r.status.acceptsStrictInput
  gap : batch.startFrame ≤ r.expectedFrame batch.playerIndex
  new : r.expectedFrame batch.playerIndex ≤ batch.startFrame + (batch.payloads.length - 1)
  bound : batch.startFrame + (batch.payloads.length - 1) + 1 ≤ u64Max
  window : batch.startFrame + (batch.payloads.length - 1)
    ≤ r.nextReleaseFrame + v5MaxFutureFrameDistance

/-- What a room makes of a batch on input socket `c`. -/
inductive BatchOutcome (r : NetplayRoom) (c : ConnectionId) (batch : StrictInputBatch) :
    Outcome StrictInputBatchOutcome → Prop
  | refused (error : RoomError) : BatchOutcome r c batch (.error error, r)
  | nacked (received : Nat) (reason : InputCursorNackReason) :
      BatchOutcome r c batch
        (.ok (r.strictInputNack batch.playerIndex (r.expectedFrame batch.playerIndex) received
          reason), r)
  /-- The whole batch had been accepted before. -/
  | duplicate (howner : r.playerIndexForInputConnection c = some batch.playerIndex)
      (hold : batch.startFrame + (batch.payloads.length - 1)
        < r.expectedFrame batch.playerIndex) :
      BatchOutcome r c batch
        (.ok (r.strictInputAck batch.playerIndex (r.expectedFrame batch.playerIndex) none
          batch.payloads.length), r)
  | accepted (howner : r.playerIndexForInputConnection c = some batch.playerIndex)
      (hbatch : BatchAdvances r batch) :
      BatchOutcome r c batch
        (.ok (r.strictInputAck batch.playerIndex
          (batch.startFrame + (batch.payloads.length - 1) + 1)
          (some (batchFrom batch (r.expectedFrame batch.playerIndex)))
          (batch.payloads.length
            - (batchFrom batch (r.expectedFrame batch.playerIndex)).payloads.length)),
        r.recordInput batch.playerIndex (batch.startFrame + (batch.payloads.length - 1))
          (batch.startFrame + (batch.payloads.length - 1) + 1))

theorem validateStrictInputSender_ok {r : NetplayRoom} {c : ConnectionId} {batch : StrictInputBatch}
    (h : r.validateStrictInputSender c batch = .ok ()) :
    r.usesStrictControllerInput ∧ r.playerIndexForInputConnection c = some batch.playerIndex := by
  unfold validateStrictInputSender at h
  split at h
  · exact absurd h (by simp)
  rename_i hstrict
  split at h
  · exact absurd h (by simp)
  rename_i owned howned
  split at h
  · exact absurd h (by simp)
  · rename_i hsame
    rw [not_not] at hsame
    exact ⟨by simpa using hstrict, hsame ▸ howned⟩

theorem acceptStrictInputBatch_outcome (r : NetplayRoom) (c : ConnectionId)
    (batch : StrictInputBatch) : BatchOutcome r c batch (r.acceptStrictInputBatch c batch) := by
  unfold acceptStrictInputBatch
  split
  · exact .refused _
  rename_i hsender
  obtain ⟨hstrict, howner⟩ := validateStrictInputSender_ok hsender
  dsimp only
  split
  · exact .nacked _ _
  split
  · exact .refused _
  rename_i endFrame hend
  obtain ⟨_, rfl⟩ := checkedAdd_eq_some.mp hend
  split
  · exact .nacked _ _
  rename_i hstate
  split
  · exact .nacked _ _
  rename_i hgap
  split
  · exact .nacked _ _
  rename_i hwindow
  split
  · rename_i hnew
    split
    · exact .refused _
    rename_i next hnext
    obtain ⟨hbound, rfl⟩ := checkedAdd_eq_some.mp hnext
    rw [Nat.max_eq_left (Nat.le_of_not_lt hgap)] at hnew ⊢
    refine .accepted howner ⟨hstrict, ?_, Nat.le_of_not_lt hgap, hnew, hbound,
      Nat.le_trans (Nat.le_of_not_lt hwindow) (Nat.min_le_left _ _)⟩
    have haccepts := hstate
    simp only [strictInputStateAccepts, Bool.not_eq_true,
      Bool.not_eq_false', Bool.and_eq_true] at haccepts
    exact haccepts.1
  · rename_i hold
    rw [Nat.max_eq_left (Nat.le_of_not_lt hgap)] at hold
    exact .duplicate howner (Nat.lt_of_not_le hold)

/-! ## Host frame opens -/

/-- The open comes from the host's input socket, on the current epochs, and not beyond an open
pause. -/
structure OpenAllowed (r : NetplayRoom) (c : ConnectionId) (frameOpen : HostFrameOpen) : Prop where
  sender : r.validateHostFrameSender c = .ok ()
  epochs : frameOpen.roomEpoch = r.roomEpoch ∧ frameOpen.sessionEpoch = r.sessionEpoch
  pause : ∀ pause, r.pauseState = some pause → frameOpen.frame ≤ pause.pauseAtFrame

/-- What a room makes of an open on input socket `c` at server time `t`. -/
inductive OpenOutcome (r : NetplayRoom) (c : ConnectionId) (frameOpen : HostFrameOpen) (t : Nat) :
    Outcome HostFrameOpenOutcome → Prop
  | refused (error : RoomError) : OpenOutcome r c frameOpen t (.error error, r)
  | duplicate (release : ServerFrameReleaseV5) :
      OpenOutcome r c frameOpen t (.ok (.duplicate release), r)
  | ignored : OpenOutcome r c frameOpen t (.ok .ignoredTransitionBoundary, r)
  /-- The first frame is asked for before the start is due. -/
  | held {start : ScheduledSessionStart} (hstatus : r.status = .startScheduled)
      (hstart : r.scheduledStart = some start) (hframe : frameOpen.frame = start.startFrame)
      (hnext : frameOpen.frame = r.nextReleaseFrame)
      (hcovers : r.hostInputCovers frameOpen.frame) (hearly : t < start.serverTimeMs)
      (hallowed : OpenAllowed r c frameOpen) :
      OpenOutcome r c frameOpen t (.ok (.pending (start.serverTimeMs - t)),
        r.holdHostFrame frameOpen.frame)
  /-- The first frame is asked for when the start is due. -/
  | opened {start : ScheduledSessionStart} (hstatus : r.status = .startScheduled)
      (hstart : r.scheduledStart = some start) (hframe : frameOpen.frame = start.startFrame)
      (hnext : frameOpen.frame = r.nextReleaseFrame)
      (hcovers : r.hostInputCovers frameOpen.frame) (hdue : start.serverTimeMs ≤ t)
      (hallowed : OpenAllowed r c frameOpen) :
      OpenOutcome r c frameOpen t
        (.ok (.released (r.enterPlaying.releaseV5HostFrame frameOpen.frame).1),
          r.enterPlaying.releaseFrame frameOpen.frame)
  /-- The next frame of a running session. -/
  | released (hstatus : r.status = .playing) (hnext : frameOpen.frame = r.nextReleaseFrame)
      (hcovers : r.hostInputCovers frameOpen.frame) (hallowed : OpenAllowed r c frameOpen) :
      OpenOutcome r c frameOpen t
        (.ok (.released (r.releaseV5HostFrame frameOpen.frame).1), r.releaseFrame frameOpen.frame)

theorem duplicateOrIgnored_outcome (r : NetplayRoom) (c : ConnectionId) (frameOpen : HostFrameOpen)
    (t : Nat) : OpenOutcome r c frameOpen t (.ok r.duplicateOrIgnored, r) := by
  unfold duplicateOrIgnored
  split
  · exact .duplicate _
  · exact .ignored

theorem acceptHostFrameOpen_outcome (r : NetplayRoom) (c : ConnectionId) (frameOpen : HostFrameOpen)
    (t : Nat) : OpenOutcome r c frameOpen t (r.acceptHostFrameOpen c frameOpen t) := by
  unfold acceptHostFrameOpen
  cases hsender : r.validateHostFrameSender c with
  | error error => exact .refused error
  | ok _ =>
    dsimp only
    by_cases hepochs : frameOpen.roomEpoch ≠ r.roomEpoch ∨ frameOpen.sessionEpoch ≠ r.sessionEpoch
    · rw [if_pos hepochs]
      exact duplicateOrIgnored_outcome r c frameOpen t
    rw [if_neg hepochs]
    by_cases hrepairing : r.status = .repairingState
    · rw [if_pos hrepairing]
      exact .ignored
    rw [if_neg hrepairing]
    by_cases hbehind : frameOpen.frame < r.nextReleaseFrame
    · rw [if_pos hbehind]
      cases r.currentV5Release with
      | some release => exact .duplicate release
      | none => exact .refused _
    rw [if_neg hbehind]
    split
    · exact .ignored
    rename_i hbeyond
    have hallowed : OpenAllowed r c frameOpen := by
      refine ⟨hsender, by tauto, fun pause hpause => ?_⟩
      simpa [hpause] using hbeyond
    by_cases hearlyAhead : r.status = .startScheduled ∧ frameOpen.frame > r.nextReleaseFrame
    · rw [if_pos hearlyAhead]
      exact .ignored
    rw [if_neg hearlyAhead]
    by_cases hidle : r.status ≠ .startScheduled ∧ r.status ≠ .playing
    · rw [if_pos hidle]
      exact .ignored
    rw [if_neg hidle]
    by_cases hahead : frameOpen.frame > r.nextReleaseFrame ∨ !r.hostInputCovers frameOpen.frame
    · rw [if_pos hahead]
      exact .refused _
    rw [if_neg hahead]
    rw [not_or] at hahead
    have hnext : frameOpen.frame = r.nextReleaseFrame := by omega
    have hcovers : r.hostInputCovers frameOpen.frame := by simpa using hahead.2
    by_cases hscheduled : r.status = .startScheduled
    · rw [if_pos hscheduled]
      cases hstart : r.scheduledStart with
      | none => exact .refused _
      | some start =>
        dsimp only
        by_cases hframe : frameOpen.frame = start.startFrame
        · rw [if_neg (not_not.mpr hframe)]
          by_cases hearly : t < start.serverTimeMs
          · rw [if_pos hearly]
            exact .held hscheduled hstart hframe hnext hcovers hearly hallowed
          · rw [if_neg hearly]
            exact .opened hscheduled hstart hframe hnext hcovers (Nat.le_of_not_lt hearly)
              hallowed
        · rw [if_pos hframe]
          exact .refused _
    · rw [if_neg hscheduled]
      exact .released (by tauto) hnext hcovers hallowed

/-- A held open is released by its timer: the conditions, the release and the room. -/
theorem releaseDueV5HostFrame_cases (r : NetplayRoom) (t : Nat) :
    r.releaseDueV5HostFrame t = (none, r)
      ∨ ∃ frame start, r.status = .startScheduled ∧ r.pendingHostFrameOpen = some frame
        ∧ r.scheduledStart = some start ∧ start.serverTimeMs ≤ t
        ∧ r.releaseDueV5HostFrame t
          = (some ({ r with pendingHostFrameOpen := none }.enterPlaying.releaseV5HostFrame frame).1,
            { r with pendingHostFrameOpen := none }.enterPlaying.releaseFrame frame) := by
  unfold releaseDueV5HostFrame
  cases hpending : r.pendingHostFrameOpen with
  | none => exact .inl rfl
  | some frame =>
    cases hstart : r.scheduledStart with
    | none => exact .inl rfl
    | some start =>
      by_cases hwait : r.status ≠ .startScheduled ∨ t < start.serverTimeMs
      · simp only [hwait, if_true]
        exact .inl trivial
      · simp only [hwait, if_false]
        rw [not_or, not_not] at hwait
        exact .inr ⟨frame, start, hwait.1, rfl, rfl, Nat.le_of_not_lt hwait.2, rfl⟩

/-! ## The calls of the lane -/

/-- Input, host opens, the timers of held opens, and pause requests. -/
def isLane : RoomOp → Bool
  | .relayStrictInputBatch .. | .relayHostFrameOpen .. | .releaseScheduledV5HostFrame ..
  | .requestSessionPause .. => true
  | _ => false

/-- A pause is opened a few frames ahead of the room and of the player who asks for it. -/
@[simps]
def openPause (r : NetplayRoom) (id : Text) (reason : SessionPauseReason) (p : PlayerIndex)
    (frame : Nat) : NetplayRoom :=
  { r with
    nextPauseSequence := satAdd u64Max r.nextPauseSequence 1
    pauseState := some (.new r.nextPauseSequence id reason p
      (satAdd u64Max (max r.roomFrame frame) sessionPauseLeadFrames)) }

/-- What a call of the lane publishes, and the room it leaves. -/
inductive LaneEffect (relay : Relay) (r : NetplayRoom) :
    RoomOp → List RoomInputEvent → NetplayRoom → Prop
  /-- Refused, answered from what is there, or too early. -/
  | quiet {op} : LaneEffect relay r op [] r
  | pauseHeld {c id reason frame p pause} (hp : r.playerIndexForConnection c = some p)
      (hpause : r.pauseState = some pause) :
      LaneEffect relay r (.requestSessionPause c id reason frame) []
        { r with pauseState := some (pause.hold p id reason) }
  | pauseOpened {c id reason frame p} (hstatus : r.status = .playing ∨ r.status = .paused)
      (hnone : r.pauseState = none) :
      LaneEffect relay r (.requestSessionPause c id reason frame) [] (openPause r id reason p frame)
  | accepted {c batch} (hbatch : BatchAdvances r batch) :
      LaneEffect relay r (.relayStrictInputBatch c batch)
        [.strictInputBatch c (batchFrom batch (r.expectedFrame batch.playerIndex))]
        (r.recordInput batch.playerIndex (batch.startFrame + (batch.payloads.length - 1))
          (batch.startFrame + (batch.payloads.length - 1) + 1))
  | held {c frameOpen now start} (hstatus : r.status = .startScheduled)
      (hstart : r.scheduledStart = some start) (hframe : frameOpen.frame = start.startFrame)
      (hnext : frameOpen.frame = r.nextReleaseFrame) (hcovers : r.hostInputCovers frameOpen.frame)
      (hallowed : OpenAllowed r c frameOpen) :
      LaneEffect relay r (.relayHostFrameOpen c frameOpen now) []
        (r.holdHostFrame frameOpen.frame)
  | opened {c frameOpen now start} (hstatus : r.status = .startScheduled)
      (hstart : r.scheduledStart = some start) (hframe : frameOpen.frame = start.startFrame)
      (hnext : frameOpen.frame = r.nextReleaseFrame) (hcovers : r.hostInputCovers frameOpen.frame)
      (hdue : start.serverTimeMs ≤ relay.serverTimeMsAt now)
      (hallowed : OpenAllowed r c frameOpen) :
      LaneEffect relay r (.relayHostFrameOpen c frameOpen now)
        [.serverFrameV5 (r.enterPlaying.releaseV5HostFrame frameOpen.frame).1]
        (r.enterPlaying.releaseFrame frameOpen.frame)
  | released {c frameOpen now} (hstatus : r.status = .playing)
      (hnext : frameOpen.frame = r.nextReleaseFrame) (hcovers : r.hostInputCovers frameOpen.frame)
      (hallowed : OpenAllowed r c frameOpen) :
      LaneEffect relay r (.relayHostFrameOpen c frameOpen now)
        [.serverFrameV5 (r.releaseV5HostFrame frameOpen.frame).1] (r.releaseFrame frameOpen.frame)
  | woken {roomEpoch sessionEpoch frame now start} (hstatus : r.status = .startScheduled)
      (hpending : r.pendingHostFrameOpen = some frame) (hstart : r.scheduledStart = some start)
      (hdue : start.serverTimeMs ≤ relay.serverTimeMsAt now)
      (hepochs : r.roomEpoch = roomEpoch ∧ r.sessionEpoch = sessionEpoch) :
      LaneEffect relay r (.releaseScheduledV5HostFrame roomEpoch sessionEpoch frame now)
        [.serverFrameV5 ({ r with pendingHostFrameOpen := none }.enterPlaying.releaseV5HostFrame
          frame).1]
        ({ r with pendingHostFrameOpen := none }.enterPlaying.releaseFrame frame)

section

variable {relay : Relay} {r : NetplayRoom}

/-- What the lane answers to a batch, publishes, and leaves behind. -/
inductive BatchRelayed (r : NetplayRoom) (c : ConnectionId) (batch : StrictInputBatch) :
    LaneOutcome StrictInputRelayOutcome → Prop
  /-- An error or a negative answer, sent or not. -/
  | refused {result : Except RoomError StrictInputRelayOutcome}
      (h : ∀ outcome ack, result = .ok outcome → outcome.response ≠ .ack ack) :
      BatchRelayed r c batch ⟨result, [], r⟩
  /-- The whole batch had been accepted before. -/
  | duplicate (hold : batch.startFrame + (batch.payloads.length - 1)
        < r.expectedFrame batch.playerIndex) :
      BatchRelayed r c batch ⟨.ok ⟨.ack ⟨r.roomEpoch, r.sessionEpoch, batch.playerIndex,
        r.expectedFrame batch.playerIndex⟩, true, 0, batch.payloads.length⟩, [], r⟩
  | accepted {acceptedCount duplicateCount : Nat} (hbatch : BatchAdvances r batch) :
      BatchRelayed r c batch ⟨.ok ⟨.ack ⟨r.roomEpoch, r.sessionEpoch, batch.playerIndex,
          batch.startFrame + (batch.payloads.length - 1) + 1⟩, true, acceptedCount, duplicateCount⟩,
        [.strictInputBatch c (batchFrom batch (r.expectedFrame batch.playerIndex))],
        r.recordInput batch.playerIndex (batch.startFrame + (batch.payloads.length - 1))
          (batch.startFrame + (batch.payloads.length - 1) + 1)⟩

theorem relayStrictInputBatch_relayed (r : NetplayRoom) (c : ConnectionId)
    (batch : StrictInputBatch) : BatchRelayed r c batch (relayStrictInputBatch r c batch) := by
  unfold relayStrictInputBatch
  have houtcome := acceptStrictInputBatch_outcome r c batch
  rcases hresult : r.acceptStrictInputBatch c batch with ⟨_ | outcome, r'⟩
  · rw [hresult] at houtcome
    cases houtcome
    dsimp only
    split
    · refine .refused fun outcome ack h => ?_
      obtain rfl := Except.ok.inj h
      simp
    · exact .refused fun _ _ h => absurd h (by simp)
  · rw [hresult] at houtcome
    cases houtcome with
    | nacked =>
      dsimp only
      split <;>
      · refine .refused fun outcome ack h => ?_
        obtain rfl := Except.ok.inj h
        simp [strictInputNack]
    | duplicate _ hold => exact .duplicate hold
    | accepted _ hbatch => exact .accepted hbatch

theorem relayStrictInputBatch_lane (c : ConnectionId) (batch : StrictInputBatch) :
    LaneEffect relay r (.relayStrictInputBatch c batch) (relayStrictInputBatch r c batch).events
      (relayStrictInputBatch r c batch).room := by
  have hrelayed := relayStrictInputBatch_relayed r c batch
  generalize relayStrictInputBatch r c batch = out at hrelayed ⊢
  cases hrelayed with
  | refused | duplicate => exact .quiet
  | accepted hbatch => exact .accepted hbatch

theorem relayHostFrameOpen_lane (c : ConnectionId) (frameOpen : HostFrameOpen) (now : Instant) :
    LaneEffect relay r (.relayHostFrameOpen c frameOpen now)
      (relayHostFrameOpen r c frameOpen (relay.serverTimeMsAt now)).events
      (relayHostFrameOpen r c frameOpen (relay.serverTimeMsAt now)).room := by
  unfold relayHostFrameOpen
  have houtcome := acceptHostFrameOpen_outcome r c frameOpen (relay.serverTimeMsAt now)
  rcases hresult : r.acceptHostFrameOpen c frameOpen (relay.serverTimeMsAt now) with
    ⟨_ | outcome, r'⟩
  · rw [hresult] at houtcome
    cases houtcome
    dsimp only
    split <;> exact .quiet
  · rw [hresult] at houtcome
    cases houtcome with
    | duplicate | ignored => exact .quiet
    | held hstatus hstart hframe hnext hcovers _ hallowed =>
      exact .held hstatus hstart hframe hnext hcovers hallowed
    | opened hstatus hstart hframe hnext hcovers hdue hallowed =>
      exact .opened hstatus hstart hframe hnext hcovers hdue hallowed
    | released hstatus hnext hcovers hallowed => exact .released hstatus hnext hcovers hallowed

theorem releaseScheduledV5HostFrame_lane (roomEpoch sessionEpoch frame : Nat) (now : Instant) :
    LaneEffect relay r (.releaseScheduledV5HostFrame roomEpoch sessionEpoch frame now)
      (releaseScheduledV5HostFrame r roomEpoch sessionEpoch frame
        (relay.serverTimeMsAt now)).events
      (releaseScheduledV5HostFrame r roomEpoch sessionEpoch frame
        (relay.serverTimeMsAt now)).room := by
  unfold releaseScheduledV5HostFrame
  split
  · exact .quiet
  rename_i hcurrent
  have hpending : r.pendingHostFrameOpen = some frame := by tauto
  have hepochs : r.roomEpoch = roomEpoch ∧ r.sessionEpoch = sessionEpoch := by tauto
  split
  · exact .quiet
  split
  · exact .quiet
  rcases releaseDueV5HostFrame_cases r (relay.serverTimeMsAt now) with
    h | ⟨frame', start, hstatus, hframe, hstart, hdue, h⟩
  · rw [h]
    exact .quiet
  · obtain rfl := Option.some.inj (hpending.symm.trans hframe)
    rw [h]
    exact .woken hstatus hpending hstart hdue hepochs

theorem requestSessionPause_lane (c : ConnectionId) (id : Text) (reason : SessionPauseReason)
    (frame : Nat) :
    LaneEffect relay r (.requestSessionPause c id reason frame) []
      (r.requestSessionPauseWithId c id reason frame).2 := by
  unfold requestSessionPauseWithId
  split
  · exact .quiet
  rename_i hstatus
  split
  · exact .quiet
  rename_i p hp
  split
  · rename_i hpause
    exact .pauseHeld hp hpause
  · rename_i hnone
    exact .pauseOpened (by tauto) hnone

/-- **What the lane can do.** -/
theorem lane_effect (relay : Relay) (r : NetplayRoom) {op : RoomOp} (h : isLane op) :
    LaneEffect relay r op (publishedBy relay r op) (applyOp relay r op) := by
  cases op with
  | relayStrictInputBatch c batch => exact relayStrictInputBatch_lane c batch
  | relayHostFrameOpen c frameOpen now => exact relayHostFrameOpen_lane c frameOpen now
  | releaseScheduledV5HostFrame roomEpoch sessionEpoch frame now =>
    exact releaseScheduledV5HostFrame_lane roomEpoch sessionEpoch frame now
  | requestSessionPause c id reason frame => exact requestSessionPause_lane c id reason frame
  | _ => exact absurd h (by simp [isLane])

/-- No call of the lane makes the registry drop the room. -/
theorem lane_notRemoved {s : StoredRoom} {op : RoomOp} (h : isLane op) :
    s.step relay op = some { s with
      room := applyOp relay s.room op
      inputEvents := s.inputEvents ++ publishedBy relay s.room op } := by
  rw [StoredRoom.step, if_neg]
  cases op <;> simp_all [isLane, StoredRoom.removedBy]

end

end NetplayRelay.Proof
