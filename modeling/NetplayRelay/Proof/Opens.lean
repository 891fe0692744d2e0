import NetplayRelay.Proof.Codecs
import NetplayRelay.Transport.InputV5

/-!
# Host opens before a scheduled start

While a start is scheduled, an open from the host's input socket can be early, late, for a frame
that was released in an earlier stretch of play, or sent before the control socket told the host
about new epochs. The room has an answer for most of these. It has none for an open that names the
current epochs and a frame below the release cursor when the last release has been forgotten (a
resume and a repair forget it), nor for an open of the next frame that the host's own input does not
cover yet: both are `outOfOrderFrame`, which is not on the handler's list of droppable errors, and
the socket is closed.
-/

namespace NetplayRelay.Proof

open Lib Protocol Rooms Registry Transport NetplayRoom

variable {relay : Relay} {r : NetplayRoom} {c : ConnectionId} {frameOpen : HostFrameOpen} {t : Nat}

/-- The ways in which an open is dealt with while the socket stays open. -/
inductive OpenHandled (r : NetplayRoom) : InputHandling → Prop
  | held {wait} {r' : NetplayRoom} (hheld : r'.pendingHostFrameOpen = some wait.frame) :
      OpenHandled r ⟨none, some wait, true, [], r'⟩
  | released {release} {r' : NetplayRoom}
      (hreleased : r'.releasedFrame = some release.releasedFrame) :
      OpenHandled r ⟨none, none, true, [.serverFrameV5 release], r'⟩
  | duplicate {release encoded} (hcurrent : r.currentV5Release = some release)
      (hencoded : encodeServerFrameReleaseV5 release = .ok encoded) :
      OpenHandled r ⟨some encoded, none, true, [], r⟩
  /-- Nothing is sent and nothing changes. -/
  | dropped : OpenHandled r ⟨none, none, true, [], r⟩

/-- The room has an answer to the open: it is for other epochs, for a frame ahead of the release
cursor or beyond an open pause, for a frame behind the cursor while the last release is known, or
for the frame the start is scheduled at, with the host's input for it. -/
def openIsExpected (r : NetplayRoom) (frameOpen : HostFrameOpen) : Bool :=
  frameOpen.roomEpoch ≠ r.roomEpoch || frameOpen.sessionEpoch ≠ r.sessionEpoch
    || frameOpen.frame > r.nextReleaseFrame
    || (frameOpen.frame < r.nextReleaseFrame && r.releasedFrame.isSome)
    || (frameOpen.frame = r.nextReleaseFrame
      && ((r.pauseState.any fun pause => frameOpen.frame > pause.pauseAtFrame)
        || (r.hostInputCovers frameOpen.frame
          && r.scheduledStart.any fun start => frameOpen.frame = start.startFrame)))

/-- **An open is refused exactly if it is not expected**, and then with an error that closes the
socket. -/
theorem scheduled_open_cases (frameOpen : HostFrameOpen) (t : Nat)
    (hstatus : r.status = .startScheduled) (hsender : r.validateHostFrameSender c = .ok ()) :
    (openIsExpected r frameOpen = true
        ∧ ∃ outcome, (r.acceptHostFrameOpen c frameOpen t).1 = .ok outcome)
      ∨ (openIsExpected r frameOpen = false
        ∧ ∃ error, r.acceptHostFrameOpen c frameOpen t = (.error error, r)
          ∧ (error = .outOfOrderFrame ∨ error = .roomNotReady)) := by
  unfold acceptHostFrameOpen
  simp only [hsender, hstatus]
  by_cases hepochs : frameOpen.roomEpoch ≠ r.roomEpoch ∨ frameOpen.sessionEpoch ≠ r.sessionEpoch
  · rw [if_pos hepochs]
    refine .inl ⟨?_, _, rfl⟩
    rcases hepochs with hroom | hsession
    · simp [openIsExpected, hroom]
    · simp [openIsExpected, hsession]
  rw [if_neg hepochs, if_neg (by simp)]
  rw [not_or, not_not, not_not] at hepochs
  by_cases hbehind : frameOpen.frame < r.nextReleaseFrame
  · rw [if_pos hbehind]
    have hexpected : openIsExpected r frameOpen = r.releasedFrame.isSome := by
      simp [openIsExpected, hepochs, hbehind, hbehind.ne, hbehind.le]
    rw [hexpected, currentV5Release]
    cases r.releasedFrame with
    | some frame => exact .inl ⟨rfl, _, rfl⟩
    | none => exact .inr ⟨rfl, _, rfl, .inl rfl⟩
  rw [if_neg hbehind]
  by_cases hahead : frameOpen.frame > r.nextReleaseFrame
  · have hexpected : openIsExpected r frameOpen := by simp [openIsExpected, hahead]
    refine .inl ⟨hexpected, .ignoredTransitionBoundary, ?_⟩
    simp [hahead]
  have hnext : frameOpen.frame = r.nextReleaseFrame := by omega
  have hexpected : openIsExpected r frameOpen
      = ((r.pauseState.any fun pause => frameOpen.frame > pause.pauseAtFrame)
        || (r.hostInputCovers frameOpen.frame
          && r.scheduledStart.any fun start => frameOpen.frame = start.startFrame)) := by
    simp [openIsExpected, hepochs, hnext]
  rw [hexpected]
  by_cases hpause : r.pauseState.any fun pause => frameOpen.frame > pause.pauseAtFrame
  · rw [if_pos hpause, hpause]
    exact .inl ⟨rfl, _, rfl⟩
  rw [if_neg hpause, Bool.eq_false_iff.mpr hpause, Bool.false_or, if_neg (fun h => hahead h.2),
    if_neg (fun h => h.1 rfl)]
  cases hcovers : r.hostInputCovers frameOpen.frame with
  | false =>
    rw [if_pos (.inr rfl)]
    exact .inr ⟨rfl, _, rfl, .inl rfl⟩
  | true =>
    rw [if_neg (by simpa using hahead), if_true, Bool.true_and]
    cases r.scheduledStart with
    | none => exact .inr ⟨rfl, _, rfl, .inr rfl⟩
    | some start =>
      by_cases hframe : frameOpen.frame = start.startFrame
      · refine .inl ⟨by simpa using hframe, ?_⟩
        dsimp only
        rw [if_neg (not_not.mpr hframe)]
        by_cases hearly : t < start.serverTimeMs
        · rw [if_pos hearly]
          exact ⟨_, rfl⟩
        · rw [if_neg hearly]
          exact ⟨_, rfl⟩
      · refine .inr ⟨by simpa using hframe, .outOfOrderFrame, ?_, .inl rfl⟩
        dsimp only
        rw [if_pos hframe]

/-- An open that the room does not refuse is handled. -/
theorem handled_of_ok {relay : Relay} {s : StoredRoom} (hs : Reachable relay s) {payload : Bytes}
    (hdecoded : decodeHostFrameOpen payload = .ok frameOpen) {outcome : HostFrameOpenOutcome}
    (h : (s.room.acceptHostFrameOpen c frameOpen t).1 = .ok outcome) :
    OpenHandled s.room (handleHostOpen s.room c payload t) := by
  have houtcome := acceptHostFrameOpen_outcome s.room c frameOpen t
  rcases hresult : s.room.acceptHostFrameOpen c frameOpen t with ⟨result, r'⟩
  rw [hresult] at houtcome h
  obtain rfl : result = .ok outcome := h
  unfold handleHostOpen relayHostFrameOpen
  simp only [hdecoded, hresult]
  cases houtcome with
  | duplicate release =>
    have hcurrent := duplicate_repeats (congrArg Prod.fst hresult)
    obtain ⟨encoded, hencoded⟩ := currentV5Release_encodes (seats_reachable hs).indices hcurrent
    simp only [hencoded]
    exact .duplicate hcurrent hencoded
  | ignored => exact .dropped
  | held => exact .held rfl
  | opened => exact .released rfl
  | released => exact .released rfl

/-- A message with the magic of an open is handled as one. -/
theorem handleV5BinaryMessage_open {payload : Bytes}
    (hdecoded : decodeHostFrameOpen payload = .ok frameOpen) :
    handleV5BinaryMessage r c payload t = handleHostOpen r c payload t := by
  obtain ⟨_, rfl⟩ := decodeHostFrameOpen_eq_ok.mp hdecoded
  have hbatch : inputBatchMagic.isPrefixOf (encodeHostFrameOpen frameOpen) = false := rfl
  have hopen : hostOpenMagic.isPrefixOf (encodeHostFrameOpen frameOpen) = true := rfl
  rw [handleV5BinaryMessage, hbatch, hopen, if_neg Bool.false_ne_true, if_pos rfl]

/-- The host's input socket may open frames. -/
theorem validateHostFrameSender_host {slot : PlayerSlot} (h : Seats r)
    (hstrict : r.usesStrictControllerInput) (hslot : slot ∈ r.players) (hhost : slot.role = .host)
    (hinput : slot.inputConnectionId = some c) : r.validateHostFrameSender c = .ok () := by
  have hany :
      (r.players.any fun other => other.playerIndex = slot.playerIndex && other.role = .host) := by
    rw [List.any_eq_true]
    exact ⟨slot, hslot, by simp [hhost]⟩
  simp only [validateHostFrameSender, hstrict, Bool.not_true, Bool.false_eq_true,
    if_false, playerIndexForInputConnection, h.slotForInputConnection hslot hinput,
    Option.map_some, hany, if_true]

/-- **Host opens before a scheduled start.** An open from the host's input socket is held,
released, answered with the last release or dropped if and only if it is expected. -/
theorem scheduled_open_handled_iff {s : StoredRoom} {slot : PlayerSlot} (hs : Reachable relay s)
    (hstrict : s.room.usesStrictControllerInput) (hstatus : s.room.status = .startScheduled)
    (hslot : slot ∈ s.room.players) (hhost : slot.role = .host)
    (hinput : slot.inputConnectionId = some c) {payload : Bytes}
    (hdecoded : decodeHostFrameOpen payload = .ok frameOpen) (t : Nat) :
    OpenHandled s.room (handleV5BinaryMessage s.room c payload t)
      ↔ openIsExpected s.room frameOpen = true := by
  have hsender := validateHostFrameSender_host (seats_reachable hs) hstrict hslot hhost hinput
  rw [handleV5BinaryMessage_open hdecoded]
  rcases scheduled_open_cases frameOpen t hstatus hsender with
    ⟨hexpected, outcome, hok⟩ | ⟨hexpected, error, herror, hclosing⟩
  · exact iff_of_true (handled_of_ok hs hdecoded hok) hexpected
  · refine iff_of_false ?_ (by simp [hexpected])
    have hclosed : (handleHostOpen s.room c payload t).staysOpen = false := by
      unfold handleHostOpen relayHostFrameOpen
      simp only [hdecoded, herror]
      rcases hclosing with rfl | rfl
      · rfl
      · rfl
    intro hhandled
    generalize handleHostOpen s.room c payload t = out at hhandled hclosed
    cases hhandled <;> exact absurd hclosed (by simp)

/-- The start of the sample session is scheduled and the host has not sent any input. -/
def scheduledRoom : StoredRoom :=
  after sampleRelay (sampleRoom 5) (seating true ++ handshake 5 0 ++ almostScheduled
    ++ [.recordClockSyncSample .stored guestSocket (clockSample 1) 0])

theorem scheduledRoom_reachable : Reachable sampleRelay scheduledRoom :=
  reachable_after (by decide +kernel)

/-- An open of a frame far ahead is dropped. -/
theorem scheduled_open_handled_ahead :
    scheduledRoom.room.status = .startScheduled
      ∧ OpenHandled scheduledRoom.room (handleV5BinaryMessage scheduledRoom.room hostInput
        (encodeHostFrameOpen ⟨2, 2, 7⟩) 0) := by
  have hsample : scheduledRoom.room.usesStrictControllerInput
      ∧ scheduledRoom.room.status = .startScheduled
      ∧ (∃ slot ∈ scheduledRoom.room.players,
        slot.role = .host ∧ slot.inputConnectionId = some hostInput)
      ∧ openIsExpected scheduledRoom.room ⟨2, 2, 7⟩ = true := by
    decide +kernel
  obtain ⟨hstrict, hstatus, ⟨slot, hslot, hhost, hinput⟩, hexpected⟩ := hsample
  have hdecoded : decodeHostFrameOpen (encodeHostFrameOpen ⟨2, 2, 7⟩) = .ok ⟨2, 2, 7⟩ :=
    decodeHostFrameOpen_eq_ok.mpr ⟨⟨by decide, by decide, by decide⟩, rfl⟩
  exact ⟨hstatus, (scheduled_open_handled_iff scheduledRoom_reachable hstrict hstatus hslot hhost
    hinput hdecoded 0).mpr hexpected⟩

/-- The host opens the first frame before its input for it: the socket is closed. -/
theorem open_before_input_closes :
    Reachable sampleRelay scheduledRoom
      ∧ scheduledRoom.room.usesStrictControllerInput
      ∧ scheduledRoom.room.status = .startScheduled
      ∧ (∃ slot ∈ scheduledRoom.room.players,
        slot.role = .host ∧ slot.inputConnectionId = some hostInput)
      ∧ (handleV5BinaryMessage scheduledRoom.room hostInput
        (encodeHostFrameOpen ⟨2, 2, 0⟩) 0).staysOpen = false :=
  ⟨scheduledRoom_reachable, by decide +kernel⟩

end NetplayRelay.Proof
