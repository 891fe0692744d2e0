import NetplayRelay.Proof.HashTables
import NetplayRelay.Proof.Sweeps

/-!
# Calls that start a session over

When a session starts over, the link-cable reports and the packet numbers of its players are
forgotten. Eight kinds of calls may do that, each under conditions of its own. `startsOver` names
them by the call and the room that it finds, and these are the ones: such a call forgets everything
about the link, and no other call does, apart from reports and packets themselves.
-/

namespace NetplayRelay.Proof

open Lib Protocol Rooms Registry NetplayRoom

variable {relay : Relay} {r r' : NetplayRoom} {op : RoomOp} {c : ConnectionId} {now : Instant}

/-- The loss of this control socket starts the session over: a handoff keeps the seat, or nobody is
being waited for yet. -/
def lossStartsOver (r : NetplayRoom) (now : Instant) (c : ConnectionId) : Bool :=
  (r.slotForConnection c).any fun slot => handoffArmed slot now || r.status ≠ .recovering

/-- The calls that start a session over. -/
def startsOver (relay : Relay) (r : NetplayRoom) : RoomOp → Bool
  | .joinGuest .. => r.status ≠ .closed && (r.players.find? (·.isEmpty)).isSome
  | .reconnectPlayer request => (r.reconnectPlayer request).1.isOk
    && (r.slotForPlayer request.playerIndex).any (·.runnerHandoffDeadline.isNone)
  | .playerExited c _ => (r.playerIndexForConnection c).isSome
  | .disconnect c now => lossStartsOver r now c
  | .disconnectInputSocket c now => r.status.inputLossIsRecoverable
    && (r.slotForInputConnection c).any (·.connectionId.any (lossStartsOver r now))
  | .sweep now => !r.stateRecoveryPinExpired now
    && (hostHandoffLapsed r now || guestHandoffLapsed r now || heartbeatLost relay r now)
  | .recordStateHash order c report _ => (reporter r order c report).any (resyncs r order · report)
  | .pinStateRecovery c roomEpoch sessionEpoch pin => r.usesStrictControllerInput
    && pinMatches r c roomEpoch sessionEpoch pin && r.stateRecovery.any (·.isPreparing)
    && r.status = .repairingState
  | _ => false

/-! ## Losses -/

theorem controlLoss_link {grace : Duration} (h : ControlLoss r c now grace r') :
    r'.linkCableState = if lossStartsOver r now c then .default else r.linkCableState := by
  unfold lossStartsOver
  cases h with
  | unknown hslot _ hside =>
    rw [hslot]
    exact congrArg (·.linkCable) hside
  | handoffKept hslot harmed =>
    rw [hslot, Option.any_some, harmed, Bool.true_or]
    rfl
  | alsoLost _ hslot hunarmed _ hstatus hside =>
    rw [hslot, Option.any_some, hunarmed, hstatus]
    exact congrArg (·.linkCable) hside
  | recovery _ hslot _ _ _ hfirst =>
    simp [hslot, hfirst]
  | hostGone _ hslot _ _ _ hstatus | guestGone _ hslot _ _ _ hstatus =>
    have hfirst : r.status ≠ .recovering := by
      rintro hrecovering
      simp [hrecovering, RoomStatus.isRecoverable] at hstatus
    simp [hslot, hfirst]

/-- Noting a lost input socket changes nothing for the control sockets. -/
theorem lossStartsOver_detachInputSocket (p : PlayerIndex) (control : ConnectionId) :
    lossStartsOver (r.detachInputSocket c p now) now control = lossStartsOver r now control := by
  have hseats : List.Forall₂ (fun slot slot' : PlayerSlot => slot'.connectionId = slot.connectionId
      ∧ slot'.runnerHandoffDeadline = slot.runnerHandoffDeadline) r.players
      (r.detachInputSocket c p now).players :=
    forall₂_updateFirst (fun _ => ⟨rfl, rfl⟩) fun _ _ => ⟨rfl, rfl⟩
  have harmed := find?_map_of_forall₂ (p := fun slot => slot.connectionId = some control)
    (k := (handoffArmed · now)) hseats (fun _ _ h => by rw [h.1])
    (fun _ _ h => by rw [handoffArmed, handoffArmed, h.2])
  have hany : ∀ found : Option PlayerSlot,
      (found.any fun slot => handoffArmed slot now || r.status ≠ .recovering)
        = (found.map (handoffArmed · now)).any (· || r.status ≠ .recovering) := by
    rintro (_ | _) <;> rfl
  exact (hany _).trans ((congrArg (Option.any _) harmed).trans (hany _).symm)

theorem disconnectInputSocket_link (grace : Duration) :
    (r.disconnectInputSocket c now grace).2.linkCableState
      = if startsOver relay r (.disconnectInputSocket c now) then .default
        else r.linkCableState := by
  rw [startsOver]
  cases hslot : r.slotForInputConnection c with
  | none => simp [disconnectInputSocket, hslot]
  | some slot =>
    by_cases hrunning : r.status.inputLossIsRecoverable
    · cases hcontrol : slot.connectionId with
      | none =>
        simp [disconnectInputSocket, hslot, hrunning, hcontrol]
      | some control =>
        rw [disconnectInputSocket_running hslot hcontrol hrunning,
          controlLoss_link (disconnectWithRecovery_loss _ _ _ _), lossStartsOver_detachInputSocket,
          hrunning, Option.any_some, hcontrol]
        rfl
    · simp [disconnectInputSocket, hslot, hrunning]

/-! ## State hashes and pins -/

theorem acceptStateHash_link (order : HashOrder) (report : StateHashReport) :
    (r.acceptStateHash order c report now).2.linkCableState
      = if (reporter r order c report).any (resyncs r order · report) then .default
        else r.linkCableState := by
  have hverdict := acceptStateHash_verdicts (r := r) order c report now
  generalize r.acceptStateHash order c report now = outcome at hverdict ⊢
  cases hverdict with
  | unheard hnone => simp [reporter_eq_none hnone]
  | stored htaken hmissing =>
    simp [reporter_eq_some.mpr htaken, resyncs, completesMismatch_eq, hmissing]
  | matched htaken _ hsame =>
    simp [reporter_eq_some.mpr htaken, resyncs, completesMismatch_eq, hsame, judgedRoom]
  | told htaken _ hmode => simp [reporter_eq_some.mpr htaken, resyncs, hmode, judgedRoom]
  | @judged p nearby htaken hdiffer hmode =>
    have hkept := (judgedRoom_same (r := r) p report).usesStrictControllerInput
    by_cases hstrict : r.usesStrictControllerInput
    · rw [(beginAuthoritativeRecovery_strict (hkept.trans hstrict) _ _).2]
      simp [reporter_eq_some.mpr htaken, resyncs, hstrict, judgedRoom]
    · rw [(beginAuthoritativeRecovery_legacy (hkept.trans (by simpa using hstrict)) _ _).2]
      simp [reporter_eq_some.mpr htaken, resyncs, hdiffer, hmode, hstrict]

theorem pinStateRecovery_link {roomEpoch sessionEpoch : Nat} {pin : StateRecoveryPin} :
    (r.acceptV5StateRecoveryPinForEpoch c roomEpoch sessionEpoch pin .default).2.linkCableState
      = if startsOver relay r (.pinStateRecovery c roomEpoch sessionEpoch pin) then .default
        else r.linkCableState := by
  rw [startsOver, pinMatches]
  fun_cases acceptV5StateRecoveryPinForEpoch r c roomEpoch sessionEpoch pin .default with
  | case7 _ _ _ _ _ _ hother =>
    -- the pin is for another recovery or another frame
    rcases hother with hother | hother <;> simp_all
  | _ => simp_all

/-! ## All calls -/

/-- The calls about the link itself. -/
def isLinkCall : RoomOp → Bool
  | .setLinkCableCompatibility .. | .relayLinkCablePacket .. => true
  | _ => false

theorem joinGuest_link {key : Text} {resume input : ResumeTokenHash}
    {capabilities : ClientTransportCapabilities} :
    (r.joinGuestWithResume key c resume input now capabilities).2.linkCableState
      = if startsOver relay r (.joinGuest key c resume input now capabilities) then .default
        else r.linkCableState := by
  rw [startsOver]
  fun_cases joinGuestWithResume r key c resume input now capabilities with
  | case1 hclosed => simp [hclosed]
  | case2 _ hfull => simp [hfull]
  | case3 hopen slot hempty =>
    rw [if_pos (by simp [hopen, hempty])]
    rfl

theorem reconnectPlayer_link (request : PlayerReconnectRequest) :
    (r.reconnectPlayer request).2.linkCableState
      = if startsOver relay r (.reconnectPlayer request) then .default else r.linkCableState := by
  rw [startsOver]
  rcases reconnectPlayer_cases r request with ⟨_, _, hrefused, _, hside⟩ | ⟨hopen, slot, hreturns⟩
  · rw [hrefused]
    exact congrArg (·.linkCable) hside
  · rw [reconnectPlayer_returns hopen hreturns, hreturns.found]
    cases hhandoff : slot.runnerHandoffDeadline <;> simp [hhandoff, Except.isOk, Except.toBool]

theorem playerExited_link :
    (applyOp relay r (.playerExited c now)).linkCableState
      = if startsOver relay r (.playerExited c now) then .default else r.linkCableState := by
  rw [startsOver, applyOp, Registry.playerExited, NetplayRoom.playerExited]
  cases r.playerIndexForConnection c <;> rfl

theorem sweepRoom_link :
    (sweepRoom relay r now).linkCableState
      = if startsOver relay r (.sweep now) then .default else r.linkCableState := by
  rw [startsOver]
  cases hpin : r.stateRecoveryPinExpired now with
  | true => simp [sweepRoom, closeExpiredStateRecovery, hpin]
  | false =>
    have hside := congrArg (·.linkCable) (sweepRoom_side relay hpin)
    rw [apply_ite SideData.linkCable] at hside
    rw [Bool.not_false, Bool.true_and]
    exact hside

/-- **A call that starts the session over forgets the link, and no other call does.** -/
theorem applyOp_link (relay : Relay) (r : NetplayRoom) (hop : isLinkCall op = false) :
    (applyOp relay r op).linkCableState
      = if startsOver relay r op then .default else r.linkCableState := by
  by_cases hkind : mayStartOver op
  · cases op with
    | joinGuest => exact joinGuest_link
    | reconnectPlayer request => exact reconnectPlayer_link request
    | playerExited => exact playerExited_link
    | disconnect => exact controlLoss_link (disconnectWithRecovery_loss _ _ _ _)
    | disconnectInputSocket => exact disconnectInputSocket_link _
    | sweep => exact sweepRoom_link
    | recordStateHash order c report now => exact acceptStateHash_link order report
    | pinStateRecovery => exact pinStateRecovery_link
    | _ => exact absurd hkind (by simp [mayStartOver])
  have hover : startsOver relay r op = false := by
    cases op <;> first | rfl | exact absurd rfl hkind
  have hside := effect_side (applyOp_effect relay r op)
  rw [hover]
  generalize applyOp relay r op = r' at hside ⊢
  cases hside with
  | aside haside =>
    cases haside with
    | kept h | romGranted _ _ _ h | romWentOn _ _ h | romEnded h | fileGranted _ h | hashNoted h =>
      exact congrArg (·.linkCable) h
    | packetTaken => exact absurd hop (by simp [isLinkCall])
  | fresh _ hmay => exact absurd hmay hkind
  | resumed h | rejected h => exact congrArg (·.linkCable) h
  | linked => exact absurd hop (by simp [isLinkCall])

end NetplayRelay.Proof
