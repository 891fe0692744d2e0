import NetplayRelay.Lib.Window
import NetplayRelay.Proof.Histories
import NetplayRelay.Proof.StateHashes

/-!
# How often state recovery is tried

Each mismatch of a version 5 session starts a state recovery, but not more than two within a minute:
the next one closes the room. The room remembers the times of the starts in a log that every new
mismatch prunes, and no reset of the session clears it. The bound is about the whole history of the
room, so the invariant ties the log to all the starts there ever were.
-/

namespace NetplayRelay.Proof

open Lib Protocol Rooms Registry NetplayRoom

/-! ## Starts -/

/-- The clock reading a call takes. -/
def clockOf : RoomOp → Option Instant
  | .joinGuest _ _ _ _ now _ | .connectHost _ _ _ _ now _ => some now
  | .reconnectPlayer request => some request.now
  | .armRunnerHandoff _ now | .disconnect _ now | .playerExited _ now => some now
  | .connectInputSocket _ _ _ _ _ now | .disconnectInputSocket _ now => some now
  | .markReady _ _ now | .recordClockSyncSample _ _ _ now | .markDeterministicReady _ _ _ now =>
    some now
  | .relayHostFrameOpen _ _ now | .releaseScheduledV5HostFrame _ _ _ now => some now
  | .recordStateHash _ _ _ now | .recordHeartbeat _ _ _ _ now => some now
  | .markSessionPauseReached _ _ _ now | .requestSessionResume _ _ _ now => some now
  | .releaseNextControllerFrame now | .sweep now => some now
  | _ => none

/-- The clock has not gone back since any of the calls before. -/
def clockForward (past : List (StoredRoom × RoomOp)) (op : RoomOp) : Bool :=
  (clockOf op).all fun now => past.all fun visit => (clockOf visit.2).all (· ≤ now)

/-- The recovery that a call starts, by its identifier and time. -/
def preparedBy (r : NetplayRoom) : RoomOp → Option (Nat × Instant)
  | .recordStateHash order c report now =>
    match (r.acceptStateHash order c report now).1 with
    | .ok (.recoveryPrepare view) => some (view.recoveryId, now)
    | _ => none
  | _ => none

/-- The recoveries that were started by the calls of a history. -/
def recoveries (past : List (StoredRoom × RoomOp)) : List (Nat × Instant) :=
  past.filterMap fun visit => preparedBy visit.1.room visit.2

/-- The room, had it never tried to recover. -/
def forgetAttempts (r : NetplayRoom) : NetplayRoom := { r with stateRecoveryStartedAt := [] }

/-- The call reports a mismatch that starts a recovery unless earlier attempts stand against it. -/
def wouldRecover (r : NetplayRoom) (op : RoomOp) : Bool := (preparedBy (forgetAttempts r) op).isSome

variable {relay : Relay} {r r' : NetplayRoom} {op : RoomOp}

/-! ## When a recovery is due -/

/-- A recovery can be started: the room is strict and none is going on. -/
def mayRecover (r : NetplayRoom) : Bool := r.usesStrictControllerInput && r.stateRecovery.isNone

/-- The report shows an authoritative mismatch, and a recovery can be started. -/
def callsForRecovery (r : NetplayRoom) (order : HashOrder) (c : ConnectionId)
    (report : StateHashReport) : Bool :=
  mayRecover r && r.stateDigestMode order = .authoritative
    && (r.status = .playing || r.status = .paused) && report.validate.isOk
    && (r.checkpointVerdict report.frame).isNone
    && (r.playerIndexForConnection c).any fun p => completesMismatch r p report

theorem beginAuthoritativeRecovery_verdict (mismatch : StateHashMismatchView) (now : Instant) :
    isRecoveryVerdict (r.beginAuthoritativeRecovery mismatch now).1 = mayRecover r := by
  unfold beginAuthoritativeRecovery mayRecover
  by_cases hstrict : r.usesStrictControllerInput
  · rw [if_pos hstrict, hstrict, Bool.true_and]
    cases hrecovery : r.stateRecovery with
    | some transaction =>
      rw [beginV5StateRecovery, if_pos (by simp [hrecovery])]
      rfl
    | none =>
      rw [beginV5StateRecovery, if_neg (by simp [hstrict, hrecovery])]
      dsimp only
      by_cases hlimit : (r.openStateRecovery mismatch now).stateRecoveryStartedAt.length
          ≥ stateRecoveryMaxAttempts
      · rw [if_pos hlimit]
        rfl
      · rw [if_neg hlimit]
        rfl
  · rw [if_neg hstrict]
    simp [isRecoveryVerdict, hstrict]

/-- A report that is not taken calls for nothing. -/
theorem callsForRecovery_untaken {order : HashOrder} {c : ConnectionId} {report : StateHashReport}
    (h : ∀ p, ¬Taken r order c report p) : callsForRecovery r order c report = false := by
  by_contra hcalls
  rw [Bool.not_eq_false] at hcalls
  simp only [callsForRecovery, mayRecover, Bool.and_eq_true, Bool.or_eq_true, decide_eq_true_eq,
    Option.isNone_iff_eq_none, Option.any_eq_true] at hcalls
  obtain ⟨⟨⟨⟨⟨_, hmode⟩, hstatus⟩, hvalid⟩, hdue⟩, p, hp, _⟩ := hcalls
  exact h p ⟨hstatus, by simp [hmode], hvalid, hp, fun _ _ => hdue⟩

/-- A report that is taken calls for a recovery if it completes a mismatch that counts. -/
theorem callsForRecovery_taken {order : HashOrder} {c : ConnectionId} {report : StateHashReport}
    {p : PlayerIndex} (h : Taken r order c report p) :
    callsForRecovery r order c report = (mayRecover r
      && decide (r.stateDigestMode order = .authoritative) && completesMismatch r p report) := by
  have hstatus : (decide (r.status = .playing) || decide (r.status = .paused)) = true := by
    simpa using h.status
  rw [callsForRecovery, hstatus, h.valid, h.player, Option.any_some]
  by_cases hmay : mayRecover r ∧ r.stateDigestMode order = .authoritative
  · have hstrict : r.usesStrictControllerInput := (Bool.and_eq_true_iff.mp hmay.1).1
    rw [h.due hstrict hmay.2]
    simp
  · rw [not_and_or, Bool.not_eq_true] at hmay
    rcases hmay with hmay | hmode
    · simp [hmay]
    · simp [hmode]

/-- **When a report is answered with a recovery**, granted or not. -/
theorem acceptStateHash_verdict (order : HashOrder) (c : ConnectionId) (report : StateHashReport)
    (now : Instant) :
    isRecoveryVerdict (r.acceptStateHash order c report now).1
      = callsForRecovery r order c report := by
  have hverdict := acceptStateHash_verdicts (r := r) order c report now
  generalize r.acceptStateHash order c report now = outcome at hverdict ⊢
  cases hverdict with
  | unheard h hresult =>
    rw [callsForRecovery_untaken h]
    rcases hresult with rfl | rfl | ⟨_, rfl⟩ <;> rfl
  | stored h hmissing =>
    rw [callsForRecovery_taken h, completesMismatch_eq, hmissing, Bool.false_and, Bool.and_false]
    rfl
  | matched h hall hsame =>
    rw [callsForRecovery_taken h, completesMismatch_eq, hsame, Bool.and_false, Bool.and_false]
    rfl
  | told h hdiffer hmode hresult =>
    rw [callsForRecovery_taken h, decide_eq_false hmode, Bool.and_false, Bool.false_and]
    rcases hresult with rfl | rfl <;> rfl
  | judged h hdiffer hmode =>
    rw [callsForRecovery_taken h, decide_eq_true hmode, hdiffer, Bool.and_true, Bool.and_true,
      beginAuthoritativeRecovery_verdict, mayRecover, mayRecover,
      (judgedRoom_same _ report).usesStrictControllerInput,
      (judgedRoom_same _ report).stateRecovery]

/-- Earlier attempts do not change what a report calls for. -/
theorem callsForRecovery_forgetAttempts (order : HashOrder) (c : ConnectionId)
    (report : StateHashReport) :
    callsForRecovery (forgetAttempts r) order c report = callsForRecovery r order c report := rfl

/-! ## One call -/

/-- What a call does to the log of attempts. -/
inductive AttemptStep (r : NetplayRoom) (op : RoomOp) (r' : NetplayRoom) : Prop
  | quiet (hprepared : preparedBy r op = none) (hwould : wouldRecover r op = false)
      (hlog : r'.stateRecoveryStartedAt = r.stateRecoveryStartedAt)
      (hid : r'.nextStateRecoveryId = r.nextStateRecoveryId)
      (hstatus : r'.status = .repairingState → r.status = .repairingState)
  | started {now : Instant} (hclock : clockOf op = some now)
      (hprepared : preparedBy r op = some (r.nextStateRecoveryId, now))
      (hnone : r.stateRecovery = none)
      (hfew : (recent stateRecoveryAttemptWindow now r.stateRecoveryStartedAt).length
        < stateRecoveryMaxAttempts)
      (hlog : r'.stateRecoveryStartedAt
        = recent stateRecoveryAttemptWindow now r.stateRecoveryStartedAt ++ [now])
      (hid : r'.nextStateRecoveryId = satAdd u64Max r.nextStateRecoveryId 1)
  | refused {now : Instant} (hclock : clockOf op = some now) (hprepared : preparedBy r op = none)
      (hmany : stateRecoveryMaxAttempts
        ≤ (recent stateRecoveryAttemptWindow now r.stateRecoveryStartedAt).length)
      (hlog : r'.stateRecoveryStartedAt
        = recent stateRecoveryAttemptWindow now r.stateRecoveryStartedAt)
      (hid : r'.nextStateRecoveryId = satAdd u64Max r.nextStateRecoveryId 1)
      (hclosed : r'.status = .closed)

/-- The log of attempts is untouched and no repair begins. -/
structure AttemptsKept (r r' : NetplayRoom) : Prop where
  log : r'.stateRecoveryStartedAt = r.stateRecoveryStartedAt
  id : r'.nextStateRecoveryId = r.nextStateRecoveryId
  status : r'.status = .repairingState → r.status = .repairingState

namespace AttemptsKept

variable {r'' : NetplayRoom}

theorem of_same (h : SameSession r r') : AttemptsKept r r' :=
  ⟨congrArg (·.stateRecoveryStartedAt) h.core,
    congrArg (·.nextStateRecoveryId) h.core, fun hstatus => h.status ▸ hstatus⟩

theorem trans (h : AttemptsKept r r') (h' : AttemptsKept r' r'') : AttemptsKept r r'' :=
  ⟨h'.log.trans h.log, h'.id.trans h.id, fun hstatus => h.status (h'.status hstatus)⟩

/-- Whatever else changed, the room has another status now. -/
theorem of_core {core : SessionCore} (h : sessionCore r' = core)
    (hlog : core.stateRecoveryStartedAt = r.stateRecoveryStartedAt)
    (hid : core.nextStateRecoveryId = r.nextStateRecoveryId)
    (hstatus : core.status ≠ .repairingState) : AttemptsKept r r' := by
  subst h
  exact ⟨hlog, hid, fun h => absurd h hstatus⟩

theorem of_loss {c : ConnectionId} {now : Instant} {grace : Duration}
    (h : ControlLoss r c now grace r') : AttemptsKept r r' := by
  cases h with
  | unknown _ h => exact of_same h
  | handoffKept => exact ⟨rfl, rfl, fun h => h⟩
  | alsoLost hr₁ => exact (of_same hr₁).trans ⟨rfl, rfl, fun h => h⟩
  | recovery hr₁ | hostGone hr₁ | guestGone hr₁ =>
    refine (of_same hr₁).trans ⟨?_, ?_, by simp⟩
    · simp [detachControl, markSlotReconnecting]
    · simp [detachControl, markSlotReconnecting]

end AttemptsKept

/-- Only reports of state hashes touch the log, or lead to the repair of a state. -/
theorem effect_attempts (h : Effect relay r op r')
    (hop : ∀ order c report now, op ≠ .recordStateHash order c report now) : AttemptsKept r r' := by
  cases h with
  | bookkeeping h => exact .of_same h
  -- the status stays
  | hostAttached | handoffReconnected | inputAttached | inputLost | fingerprintStored | linkStored
  | snapshotCompleted | sampleStored | voteCounted | pauseOpened | pauseNoted | inputAccepted
  | openHeld | frameReleased => exact ⟨rfl, rfl, fun h => h⟩
  -- the status is a new one
  | joined | reconnected | exited | pinned =>
    refine ⟨?_, ?_, fun h => RoomStatus.noConfusion h⟩
    · simp [resetSyncForCheckingCompatibility]
    · simp [resetSyncForCheckingCompatibility]
  | pinTimedOut | fingerprintRejected | fingerprintsDiffer
  | fingerprintsAgree | linkRejected | linksDiffer | linksAgree | paused | pauseEndedByLast
  | restartedByLast | pauseEnded | restarted | openedByHost | openedByTimer =>
    exact ⟨rfl, rfl, fun h => RoomStatus.noConfusion h⟩
  | controlLost h => exact .of_loss h
  | @inputAndControlLost c _ now slot _ _ _ _ h =>
    have hdetached : AttemptsKept r (r.detachInputSocket c slot.playerIndex now) :=
      ⟨rfl, rfl, fun h => h⟩
    exact hdetached.trans (.of_loss h)
  | @handoffsLapsed _ closed _ _ hcleared hstatus =>
    refine .of_core hcleared.core rfl rfl ?_
    cases closed <;> simp [hstatus]
  | heartbeatsStopped hr₁ hdropped =>
    exact (AttemptsKept.of_same hr₁).trans (.of_core hdropped.core rfl rfl RoomStatus.noConfusion)
  | becameReady _ h =>
    obtain ⟨_, hcore⟩ := h.core
    exact .of_core hcore rfl rfl RoomStatus.noConfusion
  | startedNow _ hr₁ | startFixedBySample hr₁ | startFixedByVote hr₁ =>
    obtain ⟨_, hcore⟩ := hr₁.core
    exact ⟨congrArg (·.stateRecoveryStartedAt) hcore,
      congrArg (·.nextStateRecoveryId) hcore, fun h => RoomStatus.noConfusion h⟩
  | legacyInput h =>
    exact ⟨congrArg (·.stateRecoveryStartedAt) h.core, congrArg (·.nextStateRecoveryId) h.core,
      fun hstatus => (congrArg (·.status) h.core).symm.trans hstatus⟩
  | legacyTick _ h => exact .of_core h.core rfl rfl RoomStatus.noConfusion
  | resynced | recoveryPrepared | recoveryLimited => exact absurd rfl (hop _ _ _ _)

theorem wouldRecover_eq (order : HashOrder) (c : ConnectionId) (report : StateHashReport)
    (now : Instant) (h : wouldRecover r (.recordStateHash order c report now)) :
    isRecoveryVerdict (r.acceptStateHash order c report now).1 := by
  rw [acceptStateHash_verdict, ← callsForRecovery_forgetAttempts,
    ← acceptStateHash_verdict _ _ _ now]
  unfold wouldRecover preparedBy at h
  dsimp only at h
  split at h
  · rename_i hprepared
    rw [hprepared]
    rfl
  · exact absurd h (by simp)

theorem recordStateHash_attempts (order : HashOrder) (c : ConnectionId) (report : StateHashReport)
    (now : Instant) :
    AttemptStep r (.recordStateHash order c report now)
      (r.acceptStateHash order c report now).2 := by
  have houtcome := acceptStateHash_outcome (r := r) order c report now
  have hwould := wouldRecover_eq (r := r) order c report now
  have hprepared : preparedBy r (.recordStateHash order c report now)
      = match (r.acceptStateHash order c report now).1 with
        | .ok (.recoveryPrepare view) => some (view.recoveryId, now)
        | _ => none := rfl
  generalize r.acceptStateHash order c report now = outcome at houtcome hwould hprepared
  cases houtcome with
  | @quiet result r' hverdict h =>
    refine .quiet ?_ ?_ (congrArg (·.stateRecoveryStartedAt) h.core)
      (congrArg (·.nextStateRecoveryId) h.core) fun hstatus => h.status ▸ hstatus
    · rw [hprepared]
      split
      · rename_i hresult
        rw [show result = _ from hresult] at hverdict
        exact absurd hverdict (by simp [isRecoveryVerdict])
      · rfl
    · exact Bool.eq_false_iff.mpr fun hw => absurd (hverdict.symm.trans (hwould hw)) (by simp)
  | resynced hr₁ =>
    refine .quiet hprepared ?_ (congrArg (·.stateRecoveryStartedAt) hr₁.core)
      (congrArg (·.nextStateRecoveryId) hr₁.core) (by simp)
    exact Bool.eq_false_iff.mpr fun hw => absurd (hwould hw) (by simp [isRecoveryVerdict])
  | prepared hr₁ _ _ hnone _ hattempts =>
    refine .started rfl hprepared hnone hattempts ?_ ?_
    · exact congrArg (fun core : SessionCore => recent stateRecoveryAttemptWindow now
        core.stateRecoveryStartedAt ++ [now]) hr₁.core
    · exact congrArg (fun core : SessionCore => satAdd u64Max core.nextStateRecoveryId 1) hr₁.core
  | limited hr₁ _ _ _ _ hattempts =>
    refine .refused rfl hprepared hattempts ?_ ?_ rfl
    · exact congrArg (fun core : SessionCore => recent stateRecoveryAttemptWindow now
        core.stateRecoveryStartedAt) hr₁.core
    · exact congrArg (fun core : SessionCore => satAdd u64Max core.nextStateRecoveryId 1) hr₁.core

theorem applyOp_attempts (relay : Relay) (r : NetplayRoom) (op : RoomOp) :
    AttemptStep r op (applyOp relay r op) := by
  by_cases hop : ∃ order c report now, op = .recordStateHash order c report now
  · obtain ⟨order, c, report, now, rfl⟩ := hop
    exact recordStateHash_attempts order c report now
  have hother : ∀ order c report now, op ≠ .recordStateHash order c report now :=
    fun order c report now h => hop ⟨order, c, report, now, h⟩
  have hkept := effect_attempts (applyOp_effect relay r op) hother
  have hprepared : ∀ r, preparedBy r op = none := by
    intro r
    cases op with
    | recordStateHash order c report now => exact absurd rfl (hother order c report now)
    | _ => rfl
  exact .quiet (hprepared r) (by rw [wouldRecover, hprepared]; rfl) hkept.log hkept.id hkept.status

/-! ## Whole runs -/

/-- The log and the starts of a history. -/
structure AttemptsInv (past : List (StoredRoom × RoomOp)) (r : NetplayRoom) : Prop where
  /-- The log has what is still recent, at any time the clock may show next. -/
  remembered : ∀ now, (∀ visit ∈ past, (clockOf visit.2).all (· ≤ now)) →
    Remembers stateRecoveryAttemptWindow now ((recoveries past).map (·.2)) r.stateRecoveryStartedAt
  limited : ∀ start, windowCount stateRecoveryAttemptWindow start ((recoveries past).map (·.2))
    ≤ stateRecoveryMaxAttempts
  ordered : ((recoveries past).map (·.1)).Pairwise fun earlier later =>
    earlier < u64Max → earlier < later
  /-- The next identifier is a new one. -/
  fresh : ∀ id ∈ (recoveries past).map (·.1), id < u64Max → id < r.nextStateRecoveryId
  next : r.nextStateRecoveryId ≤ u64Max

theorem recoveries_append (past : List (StoredRoom × RoomOp)) (s : StoredRoom) (op : RoomOp) :
    recoveries (past ++ [(s, op)]) = recoveries past ++ (preparedBy s.room op).toList := by
  rw [recoveries, List.filterMap_append]
  cases hprepared : preparedBy s.room op with
  | none | some start => simp [hprepared, recoveries]

theorem attempts_step {past : List (StoredRoom × RoomOp)} {s t : StoredRoom}
    (h : AttemptsInv past s.room) (hclock : clockForward past op)
    (hstep : s.step relay op = some t) :
    AttemptsInv (past ++ [(s, op)]) t.room := by
  rw [step_room hstep]
  have hnow : ∀ now, clockOf op = some now → ∀ visit ∈ past, (clockOf visit.2).all (· ≤ now) := by
    intro now hop visit hvisit
    rw [clockForward, hop, Option.all_some, List.all_eq_true] at hclock
    exact hclock visit hvisit
  -- a later time is later than the call and than everything before it
  have hlater : ∀ now', (∀ visit ∈ past ++ [(s, op)], (clockOf visit.2).all (· ≤ now')) →
      (∀ visit ∈ past, (clockOf visit.2).all (· ≤ now')) ∧ (clockOf op).all (· ≤ now') := by
    intro now' hall
    exact ⟨fun visit hvisit => hall visit (List.mem_append_left _ hvisit),
      hall (s, op) (List.mem_append_right _ (List.mem_singleton_self _))⟩
  cases applyOp_attempts relay s.room op with
  | quiet hprepared _ hlog hid =>
    have hsame : recoveries (past ++ [(s, op)]) = recoveries past := by
      rw [recoveries_append, hprepared, Option.toList_none, List.append_nil]
    constructor
    · intro now' hall
      rw [hsame, hlog]
      exact h.remembered now' (hlater now' hall).1
    · rw [hsame]
      exact h.limited
    · rw [hsame]
      exact h.ordered
    · rw [hsame, hid]
      exact h.fresh
    · rw [hid]
      exact h.next
  | @refused now hop hprepared _ hlog hid =>
    have hsame : recoveries (past ++ [(s, op)]) = recoveries past := by
      rw [recoveries_append, hprepared, Option.toList_none, List.append_nil]
    have hremembered := h.remembered now (hnow now hop)
    constructor
    · intro now' hall
      rw [hsame, hlog]
      have hle : now ≤ now' := by simpa [hop] using (hlater now' hall).2
      exact hremembered.pruned.later hle
    · rw [hsame]
      exact h.limited
    · rw [hsame]
      exact h.ordered
    · rw [hsame, hid]
      exact fun id hmem hlt => (h.fresh id hmem hlt).trans_le (le_satAdd h.next)
    · rw [hid]
      exact satAdd_le_limit
  | @started now hop hprepared _ hfew hlog hid =>
    have hmore : recoveries (past ++ [(s, op)])
        = recoveries past ++ [(s.room.nextStateRecoveryId, now)] := by
      rw [recoveries_append, hprepared, Option.toList_some]
    have hremembered := h.remembered now (hnow now hop)
    constructor
    · intro now' hall
      rw [hmore, hlog, List.map_append]
      have hle : now ≤ now' := by simpa [hop] using (hlater now' hall).2
      exact (hremembered.pruned.record now).later hle
    · rw [hmore, List.map_append]
      refine windowCount_append ?_ h.limited
      rwa [← hremembered]
    · rw [hmore, List.map_append]
      refine List.pairwise_append.mpr ⟨h.ordered, List.pairwise_singleton .., ?_⟩
      intro id hmem id' hid' hlt
      rw [List.mem_singleton.mp hid']
      exact h.fresh id hmem hlt
    · rw [hmore, List.map_append, hid]
      intro id hmem hlt
      rcases List.mem_append.mp hmem with hold | hnew
      · exact (h.fresh id hold hlt).trans_le (le_satAdd h.next)
      · rw [List.mem_singleton.mp hnew] at hlt ⊢
        exact lt_satAdd_one hlt
    · rw [hid]
      exact satAdd_le_limit

/-- **State recovery is limited.** Let the calls on a room come in any order while the clock does
not go back. Within any sixty seconds, at most two recoveries start; their identifiers grow as long
as they can. Whatever the next call is: it starts a recovery only if none is going on, nothing else
leads to the repair of a state, and a mismatch that would be the third within a minute closes the
room, while any other one is granted. -/
theorem recoveries_limited {roomId key c session version resume input now₀ voice ops t}
    (hguarded : HistoryGuarded (StoredRoom.step relay)
      (fun past s op => Admissible s.room op ∧ clockForward past op) []
      (createRoom roomId key c session version resume input now₀ voice) ops)
    (hrun : run (StoredRoom.step relay)
      (createRoom roomId key c session version resume input now₀ voice) ops = some t) :
    let steps := visits (StoredRoom.step relay)
      (createRoom roomId key c session version resume input now₀ voice) ops
    let times := (recoveries steps).map (·.2)
    (∀ start, windowCount (secs 60) start times ≤ 2)
      ∧ ((recoveries steps).map (·.1)).Pairwise (fun earlier later =>
        earlier < u64Max → earlier < later)
      ∧ ∀ op, clockForward steps op →
        ((preparedBy t.room op).isSome → t.room.stateRecovery = none)
          ∧ ((applyOp relay t.room op).status = .repairingState →
            t.room.status = .repairingState ∨ (preparedBy t.room op).isSome)
          ∧ ∀ now, clockOf op = some now → wouldRecover t.room op →
            ((recent (secs 60) now times).length < 2 → (preparedBy t.room op).isSome)
              ∧ (2 ≤ (recent (secs 60) now times).length →
                preparedBy t.room op = none ∧ (applyOp relay t.room op).status = .closed) := by
  intro steps times
  have hbegin : AttemptsInv []
      (createRoom roomId key c session version resume input now₀ voice).room := by
    cases voice <;>
      exact ⟨fun _ _ => rfl, fun _ => Nat.zero_le _, .nil, by simp [recoveries],
        show 1 ≤ u64Max by decide⟩
  have hstep : ∀ past u op v, AttemptsInv past u.room →
      (Admissible u.room op ∧ clockForward past op) → u.step relay op = some v →
      AttemptsInv (past ++ [(u, op)]) v.room :=
    fun _ _ _ _ h hguard hv => attempts_step h hguard.2 hv
  have hinv : AttemptsInv steps t.room := by
    simpa using history_run hstep hguarded hrun hbegin
  refine ⟨hinv.limited, hinv.ordered, fun op hclock => ?_⟩
  have hremembered : ∀ now, clockOf op = some now →
      recent (secs 60) now t.room.stateRecoveryStartedAt = recent (secs 60) now times := by
    intro now hop
    refine hinv.remembered now fun visit hvisit => ?_
    rw [clockForward, hop, Option.all_some, List.all_eq_true] at hclock
    exact hclock visit hvisit
  cases applyOp_attempts relay t.room op with
  | quiet hprepared hwould _ _ hstatus =>
      refine ⟨fun h => absurd h (by simp [hprepared]), fun h => .inl (hstatus h), ?_⟩
      exact fun _ _ h => absurd (hwould.symm.trans h) (by simp)
  | started hop hprepared hnone hfew =>
      refine ⟨fun _ => hnone, fun _ => .inr (by simp [hprepared]), fun now' hop' _ => ?_⟩
      obtain rfl := Option.some.inj (hop'.symm.trans hop)
      refine ⟨fun _ => by simp [hprepared], fun hmany => ?_⟩
      rw [← hremembered _ hop] at hmany
      exact absurd hfew (Nat.not_lt.mpr hmany)
  | refused hop hprepared hmany _ _ hclosed =>
      refine ⟨fun h => absurd h (by simp [hprepared]), fun h => ?_, fun now' hop' _ => ?_⟩
      · exact absurd (hclosed.symm.trans h) (by simp)
      · obtain rfl := Option.some.inj (hop'.symm.trans hop)
        refine ⟨fun hfew => ?_, fun _ => ⟨hprepared, hclosed⟩⟩
        rw [← hremembered _ hop] at hfew
        exact absurd hfew (Nat.not_lt.mpr hmany)

/-- The host pins its state for recovery `id`, and the session starts again from there. -/
def repair (id frame : Nat) : List RoomOp :=
  .pinStateRecovery hostSocket 2 (id + 1) ⟨id, sampleManifest frame⟩ :: handshake 5 frame

/-- Two repairs in a row, and a third mismatch that the guest is about to complete. -/
theorem recoveries_limited_third :
    let ops := seating false ++ handshake 5 0 ++ mismatchAt 600 ++ repair 1 600 ++ mismatchAt 1200
      ++ repair 2 1200 ++ (mismatchAt 1800).take 1
    let third : RoomOp := .recordStateHash .stored guestSocket ⟨1800, List.replicate 64 'b'⟩ 0
    (run (StoredRoom.step sampleRelay) (sampleRoom 5) ops).map
      (fun t => (applyOp sampleRelay t.room third).status) = some .closed := by
  intro ops third
  have hfacts : HistoryGuarded (StoredRoom.step sampleRelay)
        (fun past s op => Admissible s.room op ∧ clockForward past op) [] (sampleRoom 5) ops
      ∧ recoveries (visits (StoredRoom.step sampleRelay) (sampleRoom 5) ops) = [(1, 0), (2, 0)]
      ∧ clockForward (visits (StoredRoom.step sampleRelay) (sampleRoom 5) ops) third
      ∧ (run (StoredRoom.step sampleRelay) (sampleRoom 5) ops).any
        (fun t => wouldRecover t.room third) := by
    decide +kernel
  obtain ⟨hguarded, hstarts, hclock, hthird⟩ := hfacts
  cases hrun : run (StoredRoom.step sampleRelay) (sampleRoom 5) ops with
  | none => exact absurd hthird (by simp [hrun])
  | some t =>
      rw [hrun, Option.any_some] at hthird
      obtain ⟨_, _, hnext⟩ := recoveries_limited hguarded hrun
      have hmany : 2 ≤ (recent (secs 60) 0 ((recoveries
          (visits (StoredRoom.step sampleRelay) (sampleRoom 5) ops)).map (·.2))).length := by
        rw [hstarts]
        decide
      rw [Option.map_some, (((hnext third hclock).2.2 0 rfl hthird).2 hmany).2]

end NetplayRelay.Proof
