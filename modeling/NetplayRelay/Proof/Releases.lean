import NetplayRelay.Lib.Delivery
import NetplayRelay.Proof.Frames

/-!
# Frames are released in order

Within one session epoch a version 5 room releases the frames from its start on, one after the
other, each at most once. A frame goes out in one of three ways: the host opens it in a running
session, the host opens the first one when its start is due, or the timer of an open that was held
fires. The timer looks neither at the cursor nor at the host's input, so the first half of the
module shows that the held open is still covered by it.
-/

namespace NetplayRelay.Proof

open Lib Protocol Rooms Registry NetplayRoom

/-! ## The held open is covered by the host's input -/

/-- An open that waits for the start was sent after the host's input for its frame. -/
def HeldCovered (core : SessionCore) : Prop :=
  core.usesStrict → core.status = .startScheduled →
    ∀ frame, core.pendingHostFrameOpen = some frame →
      frame < (core.nextInputFrames.lookup .one).getD core.syncStartFrame

variable {relay : Relay} {r r' : NetplayRoom} {core core' : SessionCore} {op : RoomOp}
  {s : StoredRoom}

namespace HeldCovered

theorem of_none (h : core.pendingHostFrameOpen = none) : HeldCovered core :=
  fun _ _ _ hframe => absurd (h.symm.trans hframe) (by simp)

theorem of_status (h : core.status ≠ .startScheduled) : HeldCovered core :=
  fun _ hstatus => absurd hstatus h

theorem of_same (h : HeldCovered (sessionCore r)) (hsame : SameSession r r') :
    HeldCovered (sessionCore r') := by
  rw [hsame.core]
  exact h

/-- A start is only fixed while none is, and then no open is held. -/
theorem scheduled {t : Nat} (hframes : FrameInv (sessionCore r))
    (hnone : r.scheduledStart = none) : HeldCovered (sessionCore (scheduleStart r t)) := by
  intro hstrict _ frame hframe
  obtain ⟨_, start, hstart, _⟩ := hframes.pending hstrict frame hframe
  exact absurd (hnone.symm.trans hstart) (by simp)

end HeldCovered

theorem controlLoss_held {c : ConnectionId} {now : Instant} {grace : Duration}
    (hinv : HeldCovered (sessionCore r)) (h : ControlLoss r c now grace r') :
    HeldCovered (sessionCore r') := by
  cases h with
  | unknown _ h => exact hinv.of_same h
  | alsoLost hr₁ _ _ _ hstatus =>
    refine .of_status fun h => ?_
    have hkept : r.status = .startScheduled := hr₁.status ▸ h
    exact absurd (hstatus.symm.trans hkept) (by simp)
  | handoffKept | recovery | hostGone | guestGone => exact .of_none rfl

theorem effect_held (hseats : Seats r) (hframes : FrameInv (sessionCore r))
    (hinv : HeldCovered (sessionCore r)) (h : Effect relay r op r') :
    HeldCovered (sessionCore r') := by
  cases h with
  | bookkeeping h => exact hinv.of_same h
  | joined | reconnected | exited | pinTimedOut | restartedByLast | restarted | frameReleased
  | openedByHost | openedByTimer | resynced | recoveryPrepared | recoveryLimited | pinned =>
    exact .of_none rfl
  | hostAttached | handoffReconnected | inputAttached | fingerprintStored | linkStored
  | snapshotCompleted | sampleStored | voteCounted | pauseOpened | pauseNoted => exact hinv
  | controlLost h => exact controlLoss_held hinv h
  | inputLost hslot hcontrol =>
    refine .of_status fun hstatus => ?_
    have hstatus : r.status = .startScheduled := hstatus
    -- an input socket goes with a control socket, so this loss starts recovery
    have hsome := hseats.controlOfInput hslot
    rw [hcontrol (by rw [hstatus]; rfl)] at hsome
    exact absurd hsome (by simp)
  | inputAndControlLost _ _ _ h =>
    cases h with
    | unknown hnone => exact absurd hnone (by simp_all [slotForConnection_detachInputSocket])
    | alsoLost hr₁ _ _ _ hstatus =>
      refine .of_status fun h => ?_
      have hkept : r.status = .startScheduled := hr₁.status ▸ h
      exact absurd (hstatus.symm.trans hkept) (by simp)
    | handoffKept | recovery | hostGone | guestGone => exact .of_none rfl
  | handoffsLapsed hcleared =>
    rw [hcleared.core]
    exact .of_none rfl
  | heartbeatsStopped _ hdropped =>
    rw [hdropped.core]
    exact .of_none rfl
  | fingerprintRejected | fingerprintsDiffer | fingerprintsAgree | linkRejected | linksDiffer
  | linksAgree | paused | pauseEndedByLast | pauseEnded | startedNow =>
    exact .of_status (by simp [sessionCore])
  | becameReady _ h =>
    obtain ⟨_, hcore⟩ := h.core
    rw [hcore]
    exact .of_status (by simp)
  | startFixedBySample hr₁ _ hnone | startFixedByVote hr₁ _ hnone =>
    exact .scheduled
      (hr₁.frames (hframes.of_forgotten rfl rfl rfl rfl rfl (fun _ _ => id) fun _ => id))
      ((hr₁.read SessionCore.scheduledStart fun _ _ => rfl).trans hnone)
  | @inputAccepted _ batch last next _ _ hforward =>
    intro hstrict hstatus frame hframe
    have hcovered : frame < r.expectedFrame .one := hinv hstrict hstatus frame hframe
    show frame < ((r.nextInputFrames.insert batch.playerIndex next).lookup .one).getD _
    by_cases hp : batch.playerIndex = .one
    · rw [hp, AList.lookup_insert, Option.getD_some]
      rw [hp] at hforward
      omega
    · rw [AList.lookup_insert_ne (Ne.symm hp)]
      exact hcovered
  | openHeld _ _ _ _ hcovers =>
    intro _ _ frame hframe
    obtain rfl := Option.some.inj hframe
    rw [hostInputCovers, decide_eq_true_eq] at hcovers
    exact hcovers
  | legacyInput h =>
    refine .of_status fun hstatus => ?_
    have hkept : r.status = .startScheduled := by
      rw [h.core] at hstatus
      exact hstatus
    rcases h.status with hs | hs <;> exact absurd (hs.symm.trans hkept) (by simp)
  | legacyTick _ h =>
    rw [h.core]
    exact .of_status (by simp)

/-- **The host's input covers the open that is held for a start, in every reachable room.** -/
theorem held_reachable (h : Reachable relay s) : HeldCovered (sessionCore s.room) := by
  refine reachable_inv (fun r => HeldCovered (sessionCore r)) ?_ ?_ h
  · intro roomId key c session version resume input now voice
    cases voice <;> exact .of_none rfl
  · intro s op hs hinv _
    exact effect_held (seats_reachable hs) (frames_reachable hs) hinv
      (applyOp_effect relay s.room op)

/-! ## One call of the lane -/

def releaseOf : RoomInputEvent → Option ServerFrameReleaseV5
  | .serverFrameV5 release => some release
  | .strictInputBatch .. => none

/-- The releases that a call broadcasts. -/
def releasesBy (relay : Relay) (r : NetplayRoom) (op : RoomOp) : List ServerFrameReleaseV5 :=
  (publishedBy relay r op).filterMap releaseOf

/-- Server time at which a call of the lane is judged. -/
def serverTimeOf (relay : Relay) : RoomOp → Nat
  | .relayHostFrameOpen _ _ now => relay.serverTimeMsAt now
  | .releaseScheduledV5HostFrame _ _ _ now => relay.serverTimeMsAt now
  | _ => 0

/-- What makes a release right in the room it is made in. -/
structure Release (relay : Relay) (r : NetplayRoom) (op : RoomOp) (release : ServerFrameReleaseV5) :
    Prop where
  frame : release.releasedFrame = r.nextReleaseFrame
  next : release.nextHostFrame = release.releasedFrame + 1
  covered : release.releasedFrame < r.expectedFrame .one
  due : r.status = .startScheduled → ∃ start, r.scheduledStart = some start
    ∧ start.startFrame = release.releasedFrame ∧ start.serverTimeMs ≤ serverTimeOf relay op

/-- A call of the lane broadcasts nothing and leaves the clock of the session alone, or broadcasts
one release and moves the cursor past it. -/
structure LaneStep (relay : Relay) (r : NetplayRoom) (op : RoomOp) (r' : NetplayRoom) : Prop where
  roomEpoch : r'.roomEpoch = r.roomEpoch
  sessionEpoch : r'.sessionEpoch = r.sessionEpoch
  release : (releasesBy relay r op = [] ∧ r'.nextReleaseFrame = r.nextReleaseFrame
      ∧ r'.status = r.status ∧ r'.scheduledStart = r.scheduledStart)
    ∨ ∃ release, releasesBy relay r op = [release] ∧ Release relay r op release
      ∧ r'.nextReleaseFrame = r.nextReleaseFrame + 1

/-- The release cursor moves on by one: a frame below the host's cursor is below the limit. -/
theorem satAdd_of_covered (hframes : FrameInv (sessionCore r)) {frame : Nat}
    (hcovered : frame < r.expectedFrame .one) : satAdd u64Max frame 1 = frame + 1 := by
  have hbound := hframes.expectedFrame_le .one
  exact satAdd_eq_add (by omega)

theorem lane_step (hstrict : r.usesStrictControllerInput) (hframes : FrameInv (sessionCore r))
    (hheld : HeldCovered (sessionCore r)) (h : isLane op) :
    LaneStep relay r op (applyOp relay r op) := by
  have heffect := lane_effect relay r h
  have hpublished : ∀ {events}, publishedBy relay r op = events →
      releasesBy relay r op = events.filterMap releaseOf := by
    intro events hevents
    rw [releasesBy, hevents]
  generalize hr' : applyOp relay r op = r' at heffect ⊢
  generalize hevents : publishedBy relay r op = events at heffect
  have hreleases := hpublished hevents
  cases heffect with
  | quiet | pauseHeld | pauseOpened | accepted | held =>
    exact ⟨rfl, rfl, .inl ⟨hreleases, rfl, rfl, rfl⟩⟩
  | @opened _ frameOpen _ start hstatus hstart hframe hnext hcovers hdue =>
    have hcovered : frameOpen.frame < r.expectedFrame .one := by
      simpa [hostInputCovers] using hcovers
    have hcursor := satAdd_of_covered hframes hcovered
    refine ⟨rfl, rfl, .inr ⟨_, hreleases, ⟨hnext, hcursor, hcovered, fun _ => ?_⟩, ?_⟩⟩
    · exact ⟨start, hstart, hframe.symm, hdue⟩
    · exact hcursor.trans (by rw [hnext])
  | @released _ frameOpen _ hstatus hnext hcovers =>
    have hcovered : frameOpen.frame < r.expectedFrame .one := by
      simpa [hostInputCovers] using hcovers
    have hcursor := satAdd_of_covered hframes hcovered
    refine ⟨rfl, rfl, .inr ⟨_, hreleases, ⟨hnext, hcursor, hcovered, fun hs => ?_⟩, ?_⟩⟩
    · exact absurd (hstatus.symm.trans hs) (by simp)
    · exact hcursor.trans (by rw [hnext])
  | @woken _ _ frame _ start hstatus hpending hstart hdue =>
    -- the timer checks nothing of this: the open has been checked when it was held
    have hcovered : frame < r.expectedFrame .one := hheld hstrict hstatus frame hpending
    obtain ⟨hnext, start', hstart', hframe⟩ := hframes.pending hstrict frame hpending
    obtain rfl := Option.some.inj (hstart.symm.trans hstart')
    have hcursor := satAdd_of_covered hframes hcovered
    refine ⟨rfl, rfl, .inr ⟨_, hreleases, ⟨hnext, hcursor, hcovered, fun _ => ?_⟩, ?_⟩⟩
    · exact ⟨start, hstart, hframe, hdue⟩
    · exact hcursor.trans (congrArg (· + 1) hnext)

/-- An open that is not granted does not move the release cursor. -/
theorem relayHostFrameOpen_notGranted {c : ConnectionId} {frameOpen : HostFrameOpen} {t : Nat}
    (h : (relayHostFrameOpen r c frameOpen t).result ≠ .ok .broadcast) :
    (relayHostFrameOpen r c frameOpen t).room.nextReleaseFrame = r.nextReleaseFrame
      ∧ (relayHostFrameOpen r c frameOpen t).room.releasedFrame = r.releasedFrame := by
  unfold relayHostFrameOpen at h ⊢
  have houtcome := acceptHostFrameOpen_outcome r c frameOpen t
  rcases hresult : r.acceptHostFrameOpen c frameOpen t with ⟨_ | outcome, r'⟩
  · rw [hresult] at houtcome
    cases houtcome
    dsimp only
    split <;> exact ⟨rfl, rfl⟩
  · rw [hresult] at houtcome h
    cases houtcome with
    | duplicate | ignored | held => exact ⟨rfl, rfl⟩
    | opened | released => exact absurd rfl h

/-! ## Runs of the lane -/

/-- The calls of the lane, as the transport offers them. -/
abbrev laneGuard (s : StoredRoom) (op : RoomOp) : Prop := isLane op ∧ Admissible s.room op

theorem strictReachable_lane (h : StrictReachable relay s) (hlane : isLane op) :
    LaneStep relay s.room op (applyOp relay s.room op) :=
  lane_step h.2 (frames_reachable h.1) (held_reachable h.1) hlane

def releaseCursor (s : StoredRoom) : Nat := s.room.nextReleaseFrame

def releasedFrames (relay : Relay) (s : StoredRoom) (op : RoomOp) : List Nat :=
  (releasesBy relay s.room op).map (·.releasedFrame)

theorem lane_emits {t : StoredRoom} (h : StrictReachable relay s) (hlane : isLane op)
    (hstep : s.step relay op = some t) : Emits releaseCursor s t (releasedFrames relay s op) := by
  unfold Emits releaseCursor releasedFrames
  rw [step_room hstep]
  rcases (strictReachable_lane h hlane).release with
    ⟨hnone, hsame, _⟩ | ⟨release, hone, hright, hnext⟩
  · exact .inl ⟨by rw [hnone]; rfl, hsame⟩
  · exact .inr ⟨by rw [hone, List.map_singleton, hright.frame], hnext⟩

/-- Since the room `s₀` nothing has been released and the start is the same, or the release cursor
has moved on. -/
def SinceStart (s₀ s : StoredRoom) : Prop :=
  s₀.room.nextReleaseFrame < s.room.nextReleaseFrame
    ∨ s.room.nextReleaseFrame = s₀.room.nextReleaseFrame ∧ s.room.status = s₀.room.status
      ∧ s.room.scheduledStart = s₀.room.scheduledStart

theorem sinceStart_step {s₀ t : StoredRoom} (hs : StrictReachable relay s) (h : SinceStart s₀ s)
    (hlane : isLane op) (hstep : s.step relay op = some t) : SinceStart s₀ t := by
  unfold SinceStart
  rw [step_room hstep]
  rcases (strictReachable_lane hs hlane).release with ⟨_, hsame, hstatus, hstart⟩ | ⟨_, _, _, hnext⟩
  · rw [hsame, hstatus, hstart]
    exact h
  · left
    rw [hnext]
    rcases h with h | h <;> omega

/-- **Frames are released in order.** Over any run of input, opens, timers and pause requests in a
version 5 room, the releases are consecutive from the release cursor on. Each announces its
successor and has the host's input. The first one is the frame of the start that was scheduled, if
one was, and not before its time. An open that is not granted moves nothing. -/
theorem releases_inOrder {s : StoredRoom} {ops : List RoomOp} (h : Reachable relay s)
    (hstrict : s.room.usesStrictControllerInput)
    (hguarded : Guarded (StoredRoom.step relay) laneGuard s ops) :
    ∃ t n, run (StoredRoom.step relay) s ops = some t
      ∧ t.room.roomEpoch = s.room.roomEpoch ∧ t.room.sessionEpoch = s.room.sessionEpoch
      ∧ ((visits (StoredRoom.step relay) s ops).flatMap fun visit =>
          releasedFrames relay visit.1 visit.2) = List.range' s.room.nextReleaseFrame n
      ∧ t.room.nextReleaseFrame = s.room.nextReleaseFrame + n
      ∧ ∀ visit ∈ visits (StoredRoom.step relay) s ops,
        (∀ release ∈ releasesBy relay visit.1.room visit.2,
          release.nextHostFrame = release.releasedFrame + 1
            ∧ (∀ slot ∈ visit.1.room.players, slot.role = .host →
              release.releasedFrame < visit.1.room.expectedFrame slot.playerIndex)
            ∧ (s.room.status = .startScheduled →
              release.releasedFrame = s.room.nextReleaseFrame →
              ∃ start, s.room.scheduledStart = some start
                ∧ start.startFrame = release.releasedFrame
                ∧ start.serverTimeMs ≤ serverTimeOf relay visit.2))
        ∧ ∀ c frameOpen now, visit.2 = .relayHostFrameOpen c frameOpen now →
          (relayHostFrameOpen visit.1.room c frameOpen (relay.serverTimeMsAt now)).result
            ≠ .ok .broadcast →
          (applyOp relay visit.1.room visit.2).nextReleaseFrame
            = visit.1.room.nextReleaseFrame := by
  have hkeep : ∀ u op v, StrictReachable relay u ∧ SinceStart s u → laneGuard u op →
      u.step relay op = some v → StrictReachable relay v ∧ SinceStart s v :=
    fun u op v hu hop hv =>
      ⟨strictReachable_step hu.1 hop.2 hv, sinceStart_step hu.1 hu.2 hop.1 hv⟩
  have hstart : StrictReachable relay s ∧ SinceStart s s := ⟨⟨h, hstrict⟩, .inr ⟨rfl, rfl, rfl⟩⟩
  obtain ⟨t, ht⟩ := run_total (fun _ _ hop => by rw [lane_notRemoved hop.1]; rfl) hguarded
  obtain ⟨n, hframes, hcursor⟩ := emits_range hkeep
    (fun _ _ _ hu hop hv => lane_emits hu.1 hop.1 hv) hguarded ht hstart
  have hepochs : t.room.roomEpoch = s.room.roomEpoch ∧ t.room.sessionEpoch = s.room.sessionEpoch :=
    relation_run (R := fun u v : StoredRoom =>
        v.room.roomEpoch = u.room.roomEpoch ∧ v.room.sessionEpoch = u.room.sessionEpoch)
      (fun _ => ⟨rfl, rfl⟩) (fun h h' => ⟨h'.1.trans h.1, h'.2.trans h.2⟩) hkeep
      (fun u op v hu hop hv => by
        have hlane := strictReachable_lane hu.1 hop.1
        exact step_room hv ▸ ⟨hlane.roomEpoch, hlane.sessionEpoch⟩) hguarded ht hstart
  refine ⟨t, n, ht, hepochs.1, hepochs.2, hframes, hcursor, fun visit hvisit => ?_⟩
  obtain ⟨⟨hreached, hsince⟩, hop, _⟩ := forall_visits hkeep hguarded hstart visit hvisit
  refine ⟨fun release hrelease => ?_, fun c frameOpen now hcall hresult => ?_⟩
  · rcases (strictReachable_lane hreached hop).release with ⟨hnone, _⟩ | ⟨_, hone, hright, _⟩
    · rw [hnone] at hrelease
      exact absurd hrelease (by simp)
    · rw [hone, List.mem_singleton] at hrelease
      obtain rfl := hrelease
      refine ⟨hright.next, fun slot hslot hrole => ?_, fun hstatus hfirst => ?_⟩
      · rw [((seats_reachable hreached.1).seated slot hslot).host hrole]
        exact hright.covered
      · -- nothing was released before, so this is still the start of the beginning
        rcases hsince with hlater | ⟨_, hsame, hscheduled⟩
        · have := hright.frame
          omega
        · rw [← hscheduled]
          exact hright.due (hsame.trans hstatus)
  · rw [hcall] at hop ⊢
    exact (relayHostFrameOpen_notGranted hresult).1

/-- A held open is released by its timer, and the next frame by the host. -/
theorem releases_inOrder_heldOpen :
    let s := after sampleRelay (sampleRoom 5) (seating true ++ handshake 5 0 ++ almostScheduled
      ++ [.recordClockSyncSample .stored guestSocket (clockSample 1) 0])
    let ops : List RoomOp := [.relayStrictInputBatch hostInput (sampleBatch .one 0),
      .relayHostFrameOpen hostInput ⟨2, 2, 0⟩ 5, .releaseScheduledV5HostFrame 2 2 0 (secs 4),
      .releaseScheduledV5HostFrame 2 2 0 (secs 4), .relayHostFrameOpen hostInput ⟨2, 2, 1⟩ (secs 4)]
    s.room.status = .startScheduled ∧ ∃ n, ((visits (StoredRoom.step sampleRelay) s ops).flatMap
      fun visit => releasedFrames sampleRelay visit.1 visit.2)
        = List.range' s.room.nextReleaseFrame n := by
  intro s ops
  have hpossible : Possible sampleRelay (sampleRoom 5) (seating true ++ handshake 5 0
      ++ almostScheduled ++ [.recordClockSyncSample .stored guestSocket (clockSample 1) 0])
      ∧ s.room.status = .startScheduled ∧ s.room.usesStrictControllerInput
      ∧ Guarded (StoredRoom.step sampleRelay) laneGuard s ops := by decide +kernel
  obtain ⟨hreachable, hstatus, hstrict, hguarded⟩ := hpossible
  obtain ⟨t, n, _, _, _, hframes, _⟩ :=
    releases_inOrder (reachable_after hreachable) hstrict hguarded
  exact ⟨hstatus, n, hframes⟩

end NetplayRelay.Proof
