import NetplayRelay.Lib.OneTime
import NetplayRelay.Proof.Waiting
import Mathlib.Data.List.DropRight

/-!
# Pause requests count once

A player asks for a pause, or lets one go, with an id of its own choice, so that a request that is
sent twice counts once. The ids are remembered by the open pause: in one set for everybody, and only
as long as the pause is open.

`RequestStep` says what any call does to the holders of the open pause and to the ids it remembers.
The histories behind it are two lists: the requests of the session epoch (`epochRequests`), which
decide whether a request is new to its player, and those of the open pause (`pauseRequests`), which
are what the room remembers. The two answer alike as long as no two players share an id and no id is
used again after its pause (`Orderly`).
-/

namespace NetplayRelay.Proof

open Lib Protocol Rooms Registry NetplayRoom

inductive PauseRequestKind
  | hold
  | release
  deriving DecidableEq

/-- A request that is counted: who makes it, what for, and under which id. -/
structure PauseRequest where
  player : PlayerIndex
  kind : PauseRequestKind
  id : Text
  deriving DecidableEq

variable {relay : Relay} {r r' : NetplayRoom} {op : RoomOp} {e : PauseRequest} {p q : PlayerIndex}
  {pause : SessionPauseStateTracker} {id : Text} {reason : SessionPauseReason} {c : ConnectionId}
  {frame sequence time : Nat} {now : Instant}

/-- The request that a call makes, if the room is in a state to admit it. -/
def pauseRequestOf (r : NetplayRoom) : RoomOp → Option PauseRequest
  | .requestSessionPause c id _ _ =>
    if r.status = .playing ∨ r.status = .paused then
      (r.playerIndexForConnection c).map (⟨·, .hold, id⟩)
    else none
  | .requestSessionResume c id sequence _ =>
    if r.pauseState.any (·.hasSequence sequence) then
      (r.playerIndexForConnection c).map (⟨·, .release, id⟩)
    else none
  | _ => none

/-- Player `p` holds the open pause. -/
def holdsPause (r : NetplayRoom) (p : PlayerIndex) : Bool :=
  r.pauseState.any fun pause => p ∈ pause.holders

def usedIds (pause : SessionPauseStateTracker) : PauseRequestKind → Finset Text
  | .hold => pause.pauseRequestIds
  | .release => pause.resumeRequestIds

/-- The open pause has seen the id. -/
def remembersId (r : NetplayRoom) (kind : PauseRequestKind) (id : Text) : Bool :=
  r.pauseState.any fun pause => id ∈ usedIds pause kind

theorem holdsPause_iff (h : r.pauseState = some pause) : holdsPause r p ↔ p ∈ pause.holders := by
  rw [holdsPause, h, Option.any_some, decide_eq_true_iff]

theorem remembersId_iff (h : r.pauseState = some pause) (kind : PauseRequestKind) (id : Text) :
    remembersId r kind id ↔ id ∈ usedIds pause kind := by
  rw [remembersId, h, Option.any_some, decide_eq_true_iff]

/-- A paused room is held by somebody. -/
def PausedHeld (r : NetplayRoom) : Prop :=
  r.status = .paused → ∀ pause, r.pauseState = some pause → pause.hasHolders

/-! ## What a call does to the holders and the ids -/

/-- What a call does to the open pause, given the request it makes. -/
inductive RequestStep (r : NetplayRoom) : Option PauseRequest → NetplayRoom → Prop
  /-- No request is made, and holders and ids are as before. -/
  | kept {r' : NetplayRoom} (hopen : r'.pauseState.isSome = r.pauseState.isSome)
      (hholds : ∀ q, holdsPause r' q ↔ holdsPause r q)
      (hids : ∀ kind id, remembersId r' kind id ↔ remembersId r kind id)
      (hepoch : r'.sessionEpoch = r.sessionEpoch) : RequestStep r none r'
  /-- The pause ends without a request: with the session epoch, or because nobody holds it. -/
  | finished {r' : NetplayRoom} (hnone : r'.pauseState = none)
      (hepoch : r'.sessionEpoch = satAdd u64Max r.sessionEpoch 1
        ∨ r'.sessionEpoch = r.sessionEpoch ∧ ∀ q, holdsPause r q = false) : RequestStep r none r'
  /-- The id has been seen. -/
  | repeated {e : PauseRequest} (hseen : remembersId r e.kind e.id) : RequestStep r (some e) r
  /-- The request is carried out and the pause is open. -/
  | noted {r' : NetplayRoom} {e : PauseRequest} (hnew : remembersId r e.kind e.id = false)
      (hopen : r'.pauseState.isSome)
      (hself : holdsPause r' e.player ↔ e.kind = .hold)
      (hothers : ∀ q, q ≠ e.player → (holdsPause r' q ↔ holdsPause r q))
      (hids : ∀ kind id, remembersId r' kind id ↔
        kind = e.kind ∧ id = e.id ∨ remembersId r kind id)
      (hepoch : r'.sessionEpoch = r.sessionEpoch) : RequestStep r (some e) r'
  /-- The last holder lets go. -/
  | ended {r' : NetplayRoom} {e : PauseRequest} (hnew : remembersId r e.kind e.id = false)
      (hkind : e.kind = .release) (hopen : r.pauseState.isSome) (hnone : r'.pauseState = none)
      (hfree : ∀ q, q ≠ e.player → holdsPause r q = false)
      (hepoch : r'.sessionEpoch = satAdd u64Max r.sessionEpoch 1
        ∨ r'.sessionEpoch = r.sessionEpoch) : RequestStep r (some e) r'

theorem RequestStep.same (h : r'.pauseState = r.pauseState)
    (hepoch : r'.sessionEpoch = r.sessionEpoch) : RequestStep r none r' := by
  refine .kept (by rw [h]) (fun q => ?_) (fun kind id => ?_) hepoch
  · rw [holdsPause, holdsPause, h]
  · rw [remembersId, remembersId, h]

theorem not_mem_of_hasHolders (h : pause.hasHolders = false) (q : PlayerIndex) :
    q ∉ pause.holders := by
  simp only [SessionPauseStateTracker.hasHolders, Bool.not_eq_false', List.isEmpty_iff] at h
  rw [AList.mem_keys, AList.keys, h]
  simp [List.keys]

/-! ### Holding -/

theorem hold_new (hid : id ≠ []) (hnew : id ∉ pause.pauseRequestIds) :
    pause.hold p id reason = { pause with
      pauseRequestIds := insert id pause.pauseRequestIds
      holders := pause.holders.insert p reason } := by
  have hnonempty : ¬id.isEmpty := by simpa using hid
  rw [SessionPauseStateTracker.hold, if_neg hnonempty, if_neg hnew]

theorem requestSessionPause_none
    (h : pauseRequestOf r (.requestSessionPause c id reason frame) = none) :
    (r.requestSessionPauseWithId c id reason frame).2 = r := by
  unfold requestSessionPauseWithId
  split
  · rfl
  rename_i hstatus
  have hplays : r.status = .playing ∨ r.status = .paused := by tauto
  simp only [pauseRequestOf, if_pos hplays, Option.map_eq_none_iff] at h
  rw [h]

theorem requestSessionPause_some
    (h : pauseRequestOf r (.requestSessionPause c id reason frame) = some e) :
    e.kind = .hold ∧ e.id = id ∧ (r.requestSessionPauseWithId c id reason frame).2
      = match r.pauseState with
        | some pause => { r with pauseState := some (pause.hold e.player id reason) }
        | none => openPause r id reason e.player frame := by
  simp only [pauseRequestOf] at h
  split at h
  · rename_i hplays
    obtain ⟨p, hp, rfl⟩ := Option.map_eq_some_iff.mp h
    refine ⟨rfl, rfl, ?_⟩
    have hstatus : ¬(r.status ≠ .playing ∧ r.status ≠ .paused) := by tauto
    simp only [requestSessionPauseWithId, if_neg hstatus, hp]
    cases r.pauseState <;> rfl
  · exact absurd h (by simp)

theorem requestSessionPause_step
    (hid : ∀ e ∈ pauseRequestOf r (.requestSessionPause c id reason frame), e.id ≠ [])
    (hheld : PausedHeld r) :
    RequestStep r (pauseRequestOf r (.requestSessionPause c id reason frame))
        (r.requestSessionPauseWithId c id reason frame).2
      ∧ PausedHeld (r.requestSessionPauseWithId c id reason frame).2 := by
  cases he : pauseRequestOf r (.requestSessionPause c id reason frame) with
  | none =>
    rw [requestSessionPause_none he]
    exact ⟨.same rfl rfl, hheld⟩
  | some e =>
    obtain ⟨hkind, rfl, hroom⟩ := requestSessionPause_some he
    have hid' : e.id ≠ [] := hid e he
    rw [hroom]
    cases hpause : r.pauseState with
    | none =>
      -- the pause is opened for the one who asks
      refine ⟨.noted ?_ rfl ?_ (fun q hq => ?_) (fun kind x => ?_) rfl, ?_⟩
      · simp [remembersId, hpause]
      · simp [holdsPause, openPause, SessionPauseStateTracker.new, hkind, AList.mem_keys]
      · simp [holdsPause, hpause, openPause, SessionPauseStateTracker.new, hq, AList.mem_keys]
      · cases kind <;>
          simp [remembersId, hpause, openPause, SessionPauseStateTracker.new, usedIds, hkind, hid']
      · intro _ pause hopen
        obtain rfl := Option.some.inj hopen
        rfl
    | some pause =>
      by_cases hseen : e.id ∈ pause.pauseRequestIds
      · have hsame : pause.hold e.player e.id reason = pause := by
          rw [SessionPauseStateTracker.hold, if_neg (by simpa using hid'), if_pos hseen]
        have hr : { r with pauseState := some (pause.hold e.player e.id reason) } = r := by
          rw [hsame, ← hpause]
        simp only [hr]
        refine ⟨.repeated ((remembersId_iff hpause _ _).mpr ?_), hheld⟩
        rw [hkind]
        exact hseen
      · simp only [hold_new hid' hseen]
        refine ⟨.noted ?_ rfl ?_ (fun q hq => ?_) (fun kind x => ?_) rfl, ?_⟩
        · rw [Bool.eq_false_iff, ne_eq, remembersId_iff hpause, hkind]
          exact hseen
        · rw [holdsPause_iff rfl, AList.mem_insert]
          exact iff_of_true (.inl rfl) hkind
        · rw [holdsPause_iff rfl, holdsPause_iff hpause, AList.mem_insert]
          exact or_iff_right hq
        · rw [remembersId_iff rfl, remembersId_iff hpause]
          cases kind <;> simp [usedIds, hkind]
        · intro _ pause' hopen
          obtain rfl := Option.some.inj hopen
          rfl

/-! ### Letting go -/

theorem release_new (hid : id ≠ []) (hnew : id ∉ pause.resumeRequestIds) :
    pause.release p id = { pause with
      resumeRequestIds := insert id pause.resumeRequestIds
      holders := pause.holders.erase p } := by
  have hnonempty : ¬id.isEmpty := by simpa using hid
  rw [SessionPauseStateTracker.release, if_neg hnonempty, if_neg hnew]

theorem requestSessionResume_none
    (h : pauseRequestOf r (.requestSessionResume c id sequence now) = none) :
    (r.requestSessionResumeWithIdAt c id sequence time).2 = r := by
  unfold requestSessionResumeWithIdAt
  split
  · rfl
  rename_i p hp
  split
  · rfl
  rename_i pause hpause
  split
  · rfl
  rename_i hsequence
  simp only [pauseRequestOf, hpause, Option.any_some] at h
  rw [if_pos (by simpa using hsequence), hp] at h
  exact absurd h (by simp)

theorem requestSessionResume_some (time : Nat)
    (h : pauseRequestOf r (.requestSessionResume c id sequence now) = some e) :
    e.kind = .release ∧ e.id = id ∧ ∃ pause, r.pauseState = some pause
      ∧ (r.requestSessionResumeWithIdAt c id sequence time).2
        = if (pause.release e.player id).hasHolders || r.status ≠ .paused then
            { r with pauseState := some (pause.release e.player id) }
          else if r.usesStrictControllerInput then
            restartSession { r with pauseState := some (pause.release e.player id) }
              (pause.release e.player id).resumeAtFrame time
          else { r with pauseState := some (pause.release e.player id) }.resumePlaying := by
  simp only [pauseRequestOf] at h
  split at h
  · rename_i hsequence
    obtain ⟨p, hp, rfl⟩ := Option.map_eq_some_iff.mp h
    obtain ⟨pause, hpause, hopen⟩ := (Option.any_eq_true _ _).mp hsequence
    refine ⟨rfl, rfl, pause, hpause, ?_⟩
    have hsame : ¬(!pause.hasSequence sequence) := by simpa using hopen
    simp only [requestSessionResumeWithIdAt, hp, hpause, if_neg hsame, restartSession]
    split
    · rfl
    · split <;> rfl
  · exact absurd h (by simp)

theorem requestSessionResume_requests
    (hid : ∀ e ∈ pauseRequestOf r (.requestSessionResume c id sequence now), e.id ≠ [])
    (hheld : PausedHeld r) :
    RequestStep r (pauseRequestOf r (.requestSessionResume c id sequence now))
        (r.requestSessionResumeWithIdAt c id sequence time).2
      ∧ PausedHeld (r.requestSessionResumeWithIdAt c id sequence time).2 := by
  cases he : pauseRequestOf r (.requestSessionResume c id sequence now) with
  | none =>
    rw [requestSessionResume_none he]
    exact ⟨.same rfl rfl, hheld⟩
  | some e =>
    obtain ⟨hkind, rfl, pause, hpause, hroom⟩ := requestSessionResume_some time he
    have hid' : e.id ≠ [] := hid e he
    rw [hroom]
    by_cases hseen : e.id ∈ pause.resumeRequestIds
    · -- a paused room is held, so a repeated request does not resume it
      have hsame : pause.release e.player e.id = pause := by
        rw [SessionPauseStateTracker.release, if_neg (by simpa using hid'), if_pos hseen]
      have hr : { r with pauseState := some pause } = r := by rw [← hpause]
      have hstays : pause.hasHolders || r.status ≠ .paused := by
        by_cases hstatus : r.status = .paused
        · rw [hheld hstatus pause hpause, Bool.true_or]
        · simp [hstatus]
      rw [hsame, if_pos hstays, hr]
      refine ⟨.repeated ((remembersId_iff hpause _ _).mpr ?_), hheld⟩
      rw [hkind]
      exact hseen
    · have hnew : remembersId r e.kind e.id = false := by
        rw [Bool.eq_false_iff, ne_eq, remembersId_iff hpause, hkind]
        exact hseen
      have hopen : r.pauseState.isSome := by rw [hpause]; rfl
      rw [release_new hid' hseen]
      split
      · rename_i hstays
        refine ⟨.noted hnew rfl ?_ (fun q hq => ?_) (fun kind x => ?_) rfl, ?_⟩
        · rw [holdsPause_iff rfl, AList.mem_erase, hkind]
          simp
        · rw [holdsPause_iff rfl, holdsPause_iff hpause, AList.mem_erase]
          exact and_iff_right hq
        · rw [remembersId_iff rfl, remembersId_iff hpause]
          cases kind <;> simp [usedIds, hkind]
        intro hstatus pause' hpause'
        obtain rfl := Option.some.inj hpause'
        have hpaused : r.status = .paused := hstatus
        simpa [hpaused] using hstays
      · rename_i hlast
        simp only [Bool.or_eq_true, not_or, Bool.not_eq_true] at hlast
        have hfree : ∀ q, q ≠ e.player → holdsPause r q = false := by
          intro q hq
          have hnobody := not_mem_of_hasHolders hlast.1 q
          rw [AList.mem_erase] at hnobody
          rw [Bool.eq_false_iff, ne_eq, holdsPause_iff hpause]
          exact fun hholds => hnobody ⟨hq, hholds⟩
        split
        · exact ⟨.ended hnew hkind hopen rfl hfree (.inl rfl),
            fun _ _ hpause' => absurd hpause' (by simp [restartSession,
              beginV5PauseResume, scheduleV5Resume])⟩
        · exact ⟨.ended hnew hkind hopen rfl hfree (.inr rfl),
            fun _ _ hpause' => absurd hpause' (by simp)⟩

/-! ### Reaching the pause -/

theorem pauseReached_step (hheld : PausedHeld r) :
    RequestStep r none (r.markSessionPauseReachedWithOutcomeAt c sequence frame time).2
      ∧ PausedHeld (r.markSessionPauseReachedWithOutcomeAt c sequence frame time).2 := by
  unfold markSessionPauseReachedWithOutcomeAt
  split
  · exact ⟨.same rfl rfl, hheld⟩
  rename_i p hp
  split
  · exact ⟨.same rfl rfl, hheld⟩
  rename_i pause hpause
  split
  · exact ⟨.same rfl rfl, hheld⟩
  -- an acknowledgement changes neither the holders nor the ids
  have hkept : ∀ r' : NetplayRoom, r'.pauseState = some (pause.acknowledge p frame) →
      r'.sessionEpoch = r.sessionEpoch → RequestStep r none r' := by
    intro r' hpause' hepoch
    refine .kept (by rw [hpause', hpause]; rfl) (fun q => ?_) (fun kind id => ?_) hepoch
    · rw [holdsPause_iff hpause', holdsPause_iff hpause]
      rfl
    · rw [remembersId_iff hpause', remembersId_iff hpause]
      cases kind <;> rfl
  simp only
  split
  · split
    · rename_i hfree
      have hempty : (pause.acknowledge p frame).hasHolders = false := by simpa using hfree
      have hnobody : ∀ q, holdsPause r q = false := by
        intro q
        rw [Bool.eq_false_iff, ne_eq, holdsPause_iff hpause]
        exact not_mem_of_hasHolders hempty q
      split
      · exact ⟨.finished rfl (.inl rfl), fun _ _ hpause' => absurd hpause' (by simp
          [beginV5PauseResume, scheduleV5Resume])⟩
      · exact ⟨.finished rfl (.inr ⟨rfl, hnobody⟩), fun _ _ hpause' => absurd hpause' (by simp)⟩
    · rename_i hholders
      refine ⟨hkept _ rfl rfl, ?_⟩
      intro _ pause' hpause'
      obtain rfl := Option.some.inj hpause'
      simpa using hholders
  · refine ⟨hkept _ rfl rfl, ?_⟩
    intro hstatus pause' hpause'
    obtain rfl := Option.some.inj hpause'
    exact hheld hstatus pause hpause

/-! ### The other calls -/

/-- The calls that may take a player out of the session without a new session epoch: a player
leaves, a socket is lost under an armed runner handoff or outside play, a handoff has lapsed. -/
def dropsPlayer (r : NetplayRoom) : RoomOp → Bool
  | .playerExited .. => true
  | .disconnect _ now | .disconnectInputSocket _ now =>
    r.players.any (handoffArmed · now) || !r.status.isRecoverable
  | .sweep now => hostHandoffLapsed r now || guestHandoffLapsed r now
  | _ => false

/-- The open pause is as before, or it went with its session epoch; nobody else enters a pause. -/
structure PauseSpared (r r' : NetplayRoom) : Prop where
  pause : r'.pauseState = r.pauseState ∧ r'.sessionEpoch = r.sessionEpoch
    ∨ r'.pauseState = none ∧ r'.sessionEpoch = satAdd u64Max r.sessionEpoch 1
  status : r'.status = .paused → r.status = .paused

namespace PauseSpared

theorem of_same (h : SameSession r r') : PauseSpared r r' :=
  ⟨.inl ⟨h.pauseState, h.sessionEpoch⟩, fun hstatus => h.status ▸ hstatus⟩

/-- Everything is forgotten, but there was no pause to forget. -/
theorem of_reset (hbefore : r.pauseState = none) (hnone : r'.pauseState = none)
    (hepoch : r'.sessionEpoch = r.sessionEpoch)
    (hstatus : r'.status = .paused → r.status = .paused) :
    PauseSpared r r' :=
  ⟨.inl ⟨hnone.trans hbefore.symm, hepoch⟩, hstatus⟩

/-- Something was noted before, in the same epoch and on the same pause. -/
theorem after {r₁ : NetplayRoom} (hpause : r₁.pauseState = r.pauseState)
    (hepoch : r₁.sessionEpoch = r.sessionEpoch) (hstatus : r₁.status = .paused → r.status = .paused)
    (h : PauseSpared r₁ r') : PauseSpared r r' := by
  refine ⟨?_, fun hpaused => hstatus (h.status hpaused)⟩
  rw [← hpause, ← hepoch]
  exact h.pause

theorem after_same {r₁ : NetplayRoom} (hr₁ : SameSession r r₁) (h : PauseSpared r₁ r') :
    PauseSpared r r' :=
  h.after hr₁.pauseState hr₁.sessionEpoch fun hpaused => hr₁.status ▸ hpaused

theorem step (h : PauseSpared r r') (hheld : PausedHeld r) :
    RequestStep r none r' ∧ PausedHeld r' := by
  rcases h.pause with ⟨hpause, hepoch⟩ | ⟨hnone, hepoch⟩
  · refine ⟨.same hpause hepoch, fun hstatus pause hopen => ?_⟩
    exact hheld (h.status hstatus) pause (hpause ▸ hopen)
  · refine ⟨.finished hnone (.inl hepoch), fun _ pause hopen => ?_⟩
    exact absurd (hnone.symm.trans hopen) (by simp)

end PauseSpared

theorem controlLoss_spared {grace : Duration} (hstays : r.pauseState.isSome →
      (r.players.any (handoffArmed · now) || !r.status.isRecoverable) = false)
    (h : ControlLoss r c now grace r') : PauseSpared r r' := by
  -- a branch that forgets the pause in its epoch is only taken when there is none
  have hnone : (r.players.any (handoffArmed · now) || !r.status.isRecoverable) = true →
      r.pauseState = none := by
    intro hdrops
    by_contra hsome
    exact absurd ((hstays (Option.isSome_iff_ne_none.mpr hsome)).symm.trans hdrops) (by simp)
  cases h with
  | unknown _ h => exact .of_same h
  | @handoffKept slot hslot harmed =>
    have hany : r.players.any (handoffArmed · now) :=
      List.any_eq_true.mpr ⟨slot, List.mem_of_find?_eq_some hslot, harmed⟩
    exact .of_reset (hnone (by rw [hany, Bool.true_or])) rfl rfl id
  | alsoLost hr₁ => exact .after_same hr₁ ⟨.inl ⟨rfl, rfl⟩, id⟩
  | recovery hr₁ =>
    exact .after_same hr₁ ⟨.inr ⟨rfl, rfl⟩, fun hstatus => absurd hstatus (by simp)⟩
  | hostGone hr₁ _ _ _ _ hstatus =>
    have hbefore := hnone (by rw [hstatus, Bool.not_false, Bool.or_true])
    refine .of_reset hbefore rfl hr₁.sessionEpoch fun hclosed => absurd hclosed ?_
    simp
  | guestGone hr₁ _ _ _ _ hstatus =>
    have hbefore := hnone (by rw [hstatus, Bool.not_false, Bool.or_true])
    exact .of_reset hbefore rfl hr₁.sessionEpoch fun hwaiting => absurd hwaiting (by simp)

theorem effect_spared (hwaited : Waited r → Idle (sessionCore r))
    (hother : isPauseCall op = false) (hstays : r.pauseState.isSome → dropsPlayer r op = false)
    (h : Effect relay r op r') : PauseSpared r r' := by
  have hnone : dropsPlayer r op = true → r.pauseState = none := by
    intro hdrops
    by_contra hsome
    exact absurd ((hstays (Option.isSome_iff_ne_none.mpr hsome)).symm.trans hdrops) (by simp)
  cases h with
  | bookkeeping h => exact .of_same h
  | joined => exact ⟨.inr ⟨rfl, rfl⟩, fun hstatus => absurd hstatus (by simp
      [resetSyncForCheckingCompatibility])⟩
  | hostAttached | handoffReconnected | inputAttached | inputLost | fingerprintStored
  | linkStored | snapshotCompleted | sampleStored | voteCounted | inputAccepted | openHeld
  | frameReleased =>
    exact ⟨.inl ⟨rfl, rfl⟩, id⟩
  | reconnected _ hreturns _ hdeadline =>
    -- nobody is waited for while a pause is open
    have hidle := hwaited (.inr ⟨_, List.mem_of_find?_eq_some hreturns.found, hdeadline⟩)
    have hbefore : r.pauseState = none := by
      simpa [SessionCore.pausing, sessionCore] using hidle.noPause
    exact .of_reset hbefore rfl rfl fun hstatus => absurd hstatus (by simp)
  | exited => exact .of_reset (hnone rfl) rfl rfl fun hstatus => absurd hstatus (by simp)
  | controlLost h => exact controlLoss_spared hstays h
  | @inputAndControlLost c control now slot _ _ _ _ h =>
    -- the lost input socket is noted first, which arms no handoff
    have hseats : List.Forall₂ (fun slot slot' : PlayerSlot => slot'.runnerHandoffDeadline
        = slot.runnerHandoffDeadline) r.players
          (r.detachInputSocket c slot.playerIndex now).players :=
      forall₂_updateFirst (fun _ => rfl) fun _ _ => rfl
    have harmed : (r.detachInputSocket c slot.playerIndex now).players.any (handoffArmed · now)
        = r.players.any (handoffArmed · now) := by
      refine any_of_forall₂ hseats fun slot slot' hslot => ?_
      rw [handoffArmed, handoffArmed, hslot]
    have hspared : PauseSpared (r.detachInputSocket c slot.playerIndex now) r' := by
      refine controlLoss_spared (fun hopen => ?_) h
      rw [harmed]
      exact hstays hopen
    exact ⟨hspared.pause, hspared.status⟩
  | pinTimedOut
  | fingerprintRejected | fingerprintsDiffer | fingerprintsAgree | linkRejected | linksDiffer
  | linksAgree | openedByHost | openedByTimer =>
    exact ⟨.inl ⟨rfl, rfl⟩, fun hstatus => absurd hstatus (by simp)⟩
  | @handoffsLapsed now closed _ _ hcleared hstatus _ _ hhandoffs =>
    have hanswer := expireRunnerHandoffs_answer r now
    rw [hhandoffs] at hanswer
    have hdrops : dropsPlayer r (.sweep now) := by
      by_contra hno
      simp only [dropsPlayer, Bool.or_eq_true, not_or, Bool.not_eq_true] at hno
      exact absurd hanswer (by simp [hno])
    have hnothing : r'.pauseState = none := congrArg (·.pauseState) hcleared.core
    refine .after (hnothing.trans (hnone hdrops).symm)
      (congrArg (·.sessionEpoch) hcleared.core) (fun hpaused => ?_) (.of_same (.refl _))
    rw [hstatus] at hpaused
    cases closed <;> exact absurd hpaused (by simp)
  | heartbeatsStopped hr₁ hdropped =>
    have hstatus : r'.status = .recovering := congrArg (·.status) hdropped.core
    refine .after_same hr₁ ⟨.inr ⟨congrArg (·.pauseState) hdropped.core,
      congrArg (·.sessionEpoch) hdropped.core⟩, fun hpaused => ?_⟩
    exact absurd (hstatus.symm.trans hpaused) (by simp)
  | becameReady _ h =>
    obtain ⟨_, hcore⟩ := h.core
    refine ⟨.inl ⟨congrArg (·.pauseState) hcore,
      congrArg (·.sessionEpoch) hcore⟩, fun hpaused => ?_⟩
    exact absurd ((congrArg (·.status) hcore).symm.trans hpaused) (by simp)
  | startedNow _ hr₁ | startFixedBySample hr₁ | startFixedByVote hr₁ =>
    have hpause := hr₁.read SessionCore.pauseState fun _ _ => rfl
    have hepoch := hr₁.read SessionCore.sessionEpoch fun _ _ => rfl
    exact ⟨.inl ⟨hpause, hepoch⟩, fun hpaused => absurd hpaused (by simp [scheduleStart])⟩
  | pauseOpened | paused | pauseEndedByLast | restartedByLast | pauseEnded | restarted =>
    exact absurd hother (by simp [isPauseCall])
  | pauseNoted _ hnoted => cases hnoted <;> exact absurd hother (by simp [isPauseCall])
  | legacyInput h =>
    refine ⟨.inl ⟨congrArg (·.pauseState) h.core,
      congrArg (·.sessionEpoch) h.core⟩, fun hpaused => ?_⟩
    exact (congrArg (·.status) h.core).symm.trans hpaused
  | legacyTick _ h =>
    refine ⟨.inl ⟨congrArg (·.pauseState) h.core,
      congrArg (·.sessionEpoch) h.core⟩, fun hpaused => ?_⟩
    exact absurd (h.playing.symm.trans hpaused) (by simp)
  | resynced hr₁ =>
    exact .after_same hr₁ ⟨.inr ⟨rfl, rfl⟩, fun hpaused => absurd hpaused (by simp
      [enterStateHashResync])⟩
  | recoveryPrepared hr₁ | recoveryLimited hr₁ =>
    exact .after_same hr₁ ⟨.inl ⟨rfl, rfl⟩, fun hpaused => absurd hpaused (by simp)⟩
  | pinned => exact ⟨.inr ⟨rfl, rfl⟩, fun hpaused => absurd hpaused (by simp)⟩

/-- **What a call does to the pause, whatever the call.** -/
theorem applyOp_requestStep (hwaited : Waited r → Idle (sessionCore r)) (hheld : PausedHeld r)
    (hid : ∀ e ∈ pauseRequestOf r op, e.id ≠ [])
    (hstays : r.pauseState.isSome → dropsPlayer r op = false) :
    RequestStep r (pauseRequestOf r op) (applyOp relay r op) ∧ PausedHeld (applyOp relay r op) := by
  by_cases hcall : isPauseCall op
  · cases op with
    | requestSessionPause => exact requestSessionPause_step hid hheld
    | requestSessionResume => exact requestSessionResume_requests hid hheld
    | markSessionPauseReached => exact pauseReached_step hheld
    | _ => exact absurd hcall (by simp [isPauseCall])
  · have hrequest : pauseRequestOf r op = none := by
      cases op <;> first | rfl | exact absurd rfl hcall
    rw [hrequest]
    exact (effect_spared hwaited (by simpa using hcall) hstays (applyOp_effect relay r op)).step
      hheld

/-! ## The requests of a history -/

/-- The requests made since the current session epoch began. -/
def epochRequests (past : List (StoredRoom × RoomOp)) (sessionEpoch : Nat) : List PauseRequest :=
  (past.rtakeWhile fun visit => visit.1.room.sessionEpoch = sessionEpoch).filterMap
    fun visit => pauseRequestOf visit.1.room visit.2

/-- The requests made to the last pause, the one that opened it first. -/
def pauseRequests (past : List (StoredRoom × RoomOp)) : List PauseRequest :=
  past.foldl (fun earlier visit => (if visit.1.room.pauseState.isSome then earlier else [])
    ++ (pauseRequestOf visit.1.room visit.2).toList) []

/-- The requests made to the open pause. -/
def openRequests (past : List (StoredRoom × RoomOp)) (r : NetplayRoom) : List PauseRequest :=
  if r.pauseState.isSome then pauseRequests past else []

/-- What player `p` asked for last, among the requests that count. -/
def latestOf (p : PlayerIndex) (requests : List PauseRequest) : Option PauseRequestKind :=
  (((firsts requests).filter (·.player = p)).getLast?).map (·.kind)

variable {past : List (StoredRoom × RoomOp)} {s : StoredRoom} {requests : List PauseRequest}

theorem openRequests_concat (past : List (StoredRoom × RoomOp)) (s : StoredRoom) (op : RoomOp)
    (hopen : r'.pauseState.isSome) :
    openRequests (past ++ [(s, op)]) r'
      = openRequests past s.room ++ (pauseRequestOf s.room op).toList := by
  rw [openRequests, if_pos hopen, pauseRequests, List.foldl_append]
  rfl

theorem openRequests_none (h : r'.pauseState = none) : openRequests past r' = [] := by
  rw [openRequests, h]
  rfl

theorem epochRequests_same {epoch : Nat} (h : s.room.sessionEpoch = epoch) :
    epochRequests (past ++ [(s, op)]) epoch
      = epochRequests past epoch ++ (pauseRequestOf s.room op).toList := by
  rw [epochRequests, List.rtakeWhile_concat_pos _ _ _ (by simpa using h), List.filterMap_append]
  cases hrequest : pauseRequestOf s.room op <;> simp [epochRequests, hrequest]

theorem epochRequests_next {epoch : Nat} (h : s.room.sessionEpoch ≠ epoch) :
    epochRequests (past ++ [(s, op)]) epoch = [] := by
  rw [epochRequests, List.rtakeWhile_concat_neg _ _ _ (by simpa using h), List.filterMap_nil]

/-- A repeated request changes nobody's latest. -/
theorem latestOf_repeated (h : e ∈ requests) (p : PlayerIndex) :
    latestOf p (requests ++ [e]) = latestOf p requests := by
  rw [latestOf, latestOf, firsts_concat_of_mem h]

theorem latestOf_self (h : e ∉ requests) : latestOf e.player (requests ++ [e]) = some e.kind := by
  simp [latestOf, firsts_concat_of_not_mem h]

theorem latestOf_other (h : e ∉ requests) (hp : p ≠ e.player) :
    latestOf p (requests ++ [e]) = latestOf p requests := by
  simp [latestOf, firsts_concat_of_not_mem h, hp.symm]

/-- Every request has an id, which no other player and no earlier pause of the session epoch has
seen for that kind of request; nobody is taken out of the session under an open pause; and the
session epoch can still be counted. -/
def Orderly (past : List (StoredRoom × RoomOp)) (s : StoredRoom) (op : RoomOp) : Prop :=
  (∀ e ∈ (pauseRequestOf s.room op).toList, e.id ≠ []
      ∧ ∀ earlier ∈ epochRequests past s.room.sessionEpoch,
        earlier.kind = e.kind → earlier.id = e.id →
          earlier.player = e.player ∧ earlier ∈ openRequests past s.room)
    ∧ (s.room.pauseState.isSome → dropsPlayer s.room op = false)
    ∧ s.room.sessionEpoch < u64Max

instance (past : List (StoredRoom × RoomOp)) (s : StoredRoom) (op : RoomOp) :
    Decidable (Orderly past s op) :=
  inferInstanceAs (Decidable (_ ∧ _ ∧ _))

/-- How a room stands to the requests that were made. -/
structure Tallied (past : List (StoredRoom × RoomOp)) (r : NetplayRoom) : Prop where
  held : PausedHeld r
  holders : ∀ p, holdsPause r p ↔ latestOf p (epochRequests past r.sessionEpoch) = some .hold
  /-- The open pause remembers the ids of its own requests, whoever made them. -/
  ids : ∀ kind id, remembersId r kind id ↔ ∃ e ∈ openRequests past r, e.kind = kind ∧ e.id = id
  inEpoch : ∀ e ∈ openRequests past r, e ∈ epochRequests past r.sessionEpoch

/-- In an orderly history the open pause has seen an id exactly if the player has used it. -/
theorem Tallied.remembers_iff (h : Tallied past s.room) (horderly : Orderly past s op)
    (he : pauseRequestOf s.room op = some e) :
    remembersId s.room e.kind e.id ↔ e ∈ epochRequests past s.room.sessionEpoch := by
  have hown := (horderly.1 e (by simp [he])).2
  constructor
  · intro hseen
    obtain ⟨earlier, hmem, hkind, hid⟩ := (h.ids _ _).mp hseen
    have hepoch := h.inEpoch earlier hmem
    have hplayer := (hown earlier hepoch hkind hid).1
    have heq : earlier = e := by
      cases earlier
      cases e
      simp_all
    exact heq ▸ hepoch
  · intro hmem
    exact (h.ids _ _).mpr ⟨e, (hown e hmem rfl rfl).2, rfl, rfl⟩

theorem not_holdsPause (h : r.pauseState = none) (p : PlayerIndex) : ¬holdsPause r p := by
  simp [holdsPause, h]

/-- Without an open pause only the latest requests have to be right. -/
theorem tallied_closed (hnone : r'.pauseState = none)
    (hlatest : ∀ p, latestOf p (epochRequests past r'.sessionEpoch) ≠ some .hold) :
    Tallied past r' := by
  refine ⟨fun _ pause hopen => ?_, fun p => ?_, fun kind id => ?_, fun e he => ?_⟩
  · exact absurd (hnone.symm.trans hopen) (by simp)
  · exact iff_of_false (not_holdsPause hnone p) (hlatest p)
  · simp [remembersId, hnone, openRequests]
  · rw [openRequests_none hnone] at he
    exact absurd he (by simp)

/-- The pause went with its session epoch. -/
theorem tallied_next (hbound : s.room.sessionEpoch < u64Max) (hnone : r'.pauseState = none)
    (hepoch : r'.sessionEpoch = satAdd u64Max s.room.sessionEpoch 1) :
    Tallied (past ++ [(s, op)]) r' := by
  refine tallied_closed hnone fun p => ?_
  have hnext : s.room.sessionEpoch ≠ r'.sessionEpoch := by
    rw [hepoch]
    exact (lt_satAdd_one hbound).ne
  rw [epochRequests_next hnext]
  simp [latestOf, firsts]

theorem tallied_step (h : Tallied past s.room) (horderly : Orderly past s op)
    (hheld : PausedHeld r') (hstep : RequestStep s.room (pauseRequestOf s.room op) r') :
    Tallied (past ++ [(s, op)]) r' := by
  have hremembers : ∀ e, pauseRequestOf s.room op = some e →
      (remembersId s.room e.kind e.id ↔ e ∈ epochRequests past s.room.sessionEpoch) :=
    fun _ => h.remembers_iff horderly
  have hopens : r'.pauseState.isSome → openRequests (past ++ [(s, op)]) r'
      = openRequests past s.room ++ (pauseRequestOf s.room op).toList :=
    openRequests_concat past s op
  have hepochs : r'.sessionEpoch = s.room.sessionEpoch →
      epochRequests (past ++ [(s, op)]) r'.sessionEpoch
        = epochRequests past s.room.sessionEpoch ++ (pauseRequestOf s.room op).toList := by
    intro hepoch
    rw [hepoch]
    exact epochRequests_same rfl
  generalize pauseRequestOf s.room op = request at hstep hremembers hopens hepochs
  cases hstep with
  | kept hopen hholds hids hepoch =>
    rw [Option.toList_none, List.append_nil] at hepochs hopens
    have hsame : openRequests (past ++ [(s, op)]) r' = openRequests past s.room := by
      by_cases hsome : r'.pauseState.isSome
      · exact hopens hsome
      · have hclosed : s.room.pauseState.isSome = false := by rw [← hopen]; simpa using hsome
        rw [openRequests_none (by simpa using hsome), openRequests, hclosed]
        rfl
    refine ⟨hheld, fun p => ?_, fun kind id => ?_, ?_⟩
    · rw [hholds, hepochs hepoch]
      exact h.holders p
    · rw [hids, hsame]
      exact h.ids kind id
    · rw [hsame, hepochs hepoch]
      exact h.inEpoch
  | finished hnone hepoch =>
    rw [Option.toList_none, List.append_nil] at hepochs
    rcases hepoch with hepoch | ⟨hepoch, hfree⟩
    · exact tallied_next horderly.2.2 hnone hepoch
    · refine tallied_closed hnone fun p => ?_
      rw [hepochs hepoch, ne_eq, ← h.holders p, hfree]
      simp
  | @repeated e hseen =>
    have hmem := (hremembers e rfl).mp hseen
    have hopen : s.room.pauseState.isSome := by
      obtain ⟨pause, hpause, _⟩ := (Option.any_eq_true _ _).mp hseen
      rw [hpause]
      rfl
    refine ⟨hheld, fun p => ?_, fun kind id => ?_, fun e' he' => ?_⟩
    · rw [hepochs rfl, Option.toList_some, latestOf_repeated hmem]
      exact h.holders p
    · rw [hopens hopen, Option.toList_some, h.ids]
      simp only [List.mem_append, List.mem_singleton, or_and_right, exists_or, exists_eq_left]
      -- the id is there already
      refine (or_iff_left_of_imp ?_).symm
      rintro ⟨rfl, rfl⟩
      exact (h.ids _ _).mp hseen
    · rw [hopens hopen, Option.toList_some] at he'
      rw [hepochs rfl, Option.toList_some, List.mem_append]
      exact (List.mem_append.mp he').imp_left (h.inEpoch e')
  | @noted _ e hnew hopen hself hothers hids hepoch =>
    have hfirst : e ∉ epochRequests past s.room.sessionEpoch := by
      rw [← hremembers e rfl, hnew]
      simp
    refine ⟨hheld, fun p => ?_, fun kind id => ?_, fun e' he' => ?_⟩
    · rw [hepochs hepoch, Option.toList_some]
      by_cases hp : p = e.player
      · rw [hp, latestOf_self hfirst, hself, Option.some.injEq]
      · rw [latestOf_other hfirst hp, hothers p hp]
        exact h.holders p
    · rw [hids, hopens hopen, Option.toList_some, h.ids, or_comm, eq_comm, @eq_comm _ id]
      simp only [List.mem_append, List.mem_singleton, or_and_right, exists_or, exists_eq_left]
    · rw [hopens hopen, Option.toList_some] at he'
      rw [hepochs hepoch, Option.toList_some, List.mem_append]
      exact (List.mem_append.mp he').imp_left (h.inEpoch e')
  | @ended _ e hnew hkind hopen hnone hfree hepoch =>
    rcases hepoch with hepoch | hepoch
    · exact tallied_next horderly.2.2 hnone hepoch
    have hfirst : e ∉ epochRequests past s.room.sessionEpoch := by
      rw [← hremembers e rfl, hnew]
      simp
    refine tallied_closed hnone fun p => ?_
    rw [hepochs hepoch, Option.toList_some]
    by_cases hp : p = e.player
    · rw [hp, latestOf_self hfirst, hkind]
      simp
    · rw [latestOf_other hfirst hp, ne_eq, ← h.holders p, hfree p hp]
      simp

/-! ## Requests count once -/

/-- The request is carried out: the room has changed, and of the players only the one who asked
starts or stops to hold the pause. -/
structure CarriedOut (r r' : NetplayRoom) (e : PauseRequest) : Prop where
  changed : r' ≠ r
  player : holdsPause r' e.player ↔ e.kind = .hold
  others : ∀ q, q ≠ e.player → (holdsPause r' q ↔ holdsPause r q)

theorem RequestStep.carriedOut (h : RequestStep r (some e) r')
    (hnew : remembersId r e.kind e.id = false) : CarriedOut r r' e := by
  cases h with
  | repeated hseen => exact absurd (hnew.symm.trans hseen) (by simp)
  | noted _ _ hself hothers hids =>
    refine ⟨?_, hself, hothers⟩
    rintro rfl
    exact absurd (hnew.symm.trans ((hids _ _).mpr (.inl ⟨rfl, rfl⟩))) (by simp)
  | ended _ hkind hopen hnone hfree =>
    refine ⟨?_, ?_, fun q hq => ?_⟩
    · rintro rfl
      exact absurd hopen (by simp [hnone])
    · rw [hkind]
      exact iff_of_false (not_holdsPause hnone _) (by simp)
    · rw [hfree q hq]
      exact iff_of_false (not_holdsPause hnone q) (by simp)

theorem RequestStep.unchanged (h : RequestStep r (some e) r') (hseen : remembersId r e.kind e.id) :
    r' = r := by
  cases h with
  | repeated => rfl
  | noted hnew | ended hnew => exact absurd (hnew.symm.trans hseen) (by simp)

theorem orderly_step (h : Reachable relay s) (htallied : Tallied past s.room)
    (horderly : Orderly past s op) :
    RequestStep s.room (pauseRequestOf s.room op) (applyOp relay s.room op)
      ∧ PausedHeld (applyOp relay s.room op) := by
  refine applyOp_requestStep (waited_reachable h) htallied.held (fun e he => ?_) horderly.2.1
  exact (horderly.1 e (by simpa using he)).1

/-- **In an orderly history every request counts exactly the first time its player makes it in the
session epoch, and the players who hold the pause are those whose latest such request is a hold.**
A request that counts is carried out; any other leaves the room as it is. -/
theorem pause_requests_count_once (relay : Relay) (roomId : RoomId) (key : Text) (c : ConnectionId)
    (session : NetplaySessionDescriptor) (version : Nat) (resume input : ResumeTokenHash)
    (now : Instant) (voice : Option RoomVoiceState) (ops : List RoomOp)
    (hguarded : HistoryGuarded (StoredRoom.step relay)
      (fun past s op => Admissible s.room op ∧ Orderly past s op) []
      (createRoom roomId key c session version resume input now voice) ops) :
    let created := createRoom roomId key c session version resume input now voice
    ∀ done s, done <+: ops → run (StoredRoom.step relay) created done = some s →
      let requests :=
        epochRequests (visits (StoredRoom.step relay) created done) s.room.sessionEpoch
      (∀ p, holdsPause s.room p ↔ latestOf p requests = some .hold)
        ∧ ∀ op e, done ++ [op] <+: ops → pauseRequestOf s.room op = some e →
          (e ∉ requests → CarriedOut s.room (applyOp relay s.room op) e)
            ∧ (e ∈ requests → applyOp relay s.room op = s.room) := by
  intro created done s hdone hrun requests
  have hstep : ∀ past s op t, Reachable relay s ∧ Tallied past s.room →
      Admissible s.room op ∧ Orderly past s op → s.step relay op = some t →
      Reachable relay t ∧ Tallied (past ++ [(s, op)]) t.room := by
    intro past s op t hs hop ht
    obtain ⟨hstep, hheld⟩ := orderly_step hs.1 hs.2 hop.2
    refine ⟨reachable_step hs.1 hop.1 ht, ?_⟩
    rw [step_room ht]
    exact tallied_step hs.2 hop.2 hheld hstep
  have hcreated : Reachable relay created ∧ Tallied [] created.room := by
    refine ⟨reachable_createRoom, ?_⟩
    refine tallied_closed ?_ fun p => by simp [epochRequests, latestOf, firsts]
    cases voice <;> rfl
  obtain ⟨rest, rfl⟩ := hdone
  rw [historyGuarded_append hrun, List.nil_append] at hguarded
  obtain ⟨hreachable, htallied⟩ := history_run hstep hguarded.1 hrun hcreated
  refine ⟨htallied.holders, fun op e hop he => ?_⟩
  obtain ⟨later, rfl⟩ := (List.prefix_append_right_inj done).mp hop
  have horderly := hguarded.2.1.2
  have hremembers := htallied.remembers_iff horderly he
  have hrequest := (orderly_step hreachable htallied horderly).1
  rw [he] at hrequest
  refine ⟨fun hfirst => hrequest.carriedOut ?_,
    fun hmem => hrequest.unchanged (hremembers.mpr hmem)⟩
  rw [Bool.eq_false_iff, ne_eq, hremembers]
  exact hfirst

/-- Both players hold a pause; the host's request arrives a second time. -/
theorem pause_requests_count_once_resent :
    let hold (c : ConnectionId) (id : String) : RoomOp := .requestSessionPause c id.toList .menu 0
    let calls := seating false ++ handshake 5 0 ++ [hold hostSocket "a", hold guestSocket "b"]
    let s := after sampleRelay (sampleRoom 5) calls
    HistoryGuarded (StoredRoom.step sampleRelay)
        (fun past s op => Admissible s.room op ∧ Orderly past s op) [] (sampleRoom 5)
        (calls ++ [hold hostSocket "a"])
      ∧ holdsPause s.room .two ∧ applyOp sampleRelay s.room (hold hostSocket "a") = s.room := by
  intro hold calls s
  have hsample : HistoryGuarded (StoredRoom.step sampleRelay)
        (fun past s op => Admissible s.room op ∧ Orderly past s op) [] (sampleRoom 5)
        (calls ++ [hold hostSocket "a"])
      ∧ Possible sampleRelay (sampleRoom 5) calls ∧ holdsPause s.room .two
      ∧ pauseRequestOf s.room (hold hostSocket "a") = some ⟨.one, .hold, "a".toList⟩
      ∧ ⟨.one, .hold, "a".toList⟩ ∈ epochRequests
        (visits (StoredRoom.step sampleRelay) (sampleRoom 5) calls) s.room.sessionEpoch := by
    decide +kernel
  obtain ⟨hguarded, hpossible, hheld, hrequest, hmem⟩ := hsample
  have hcounts :=
    pause_requests_count_once sampleRelay ⟨0⟩ "host".toList ⟨0⟩ sampleSession 5 [] [] 0
    none (calls ++ [hold hostSocket "a"]) hguarded calls s (List.prefix_append _ _) hpossible.run_eq
  exact ⟨hguarded, hheld, (hcounts.2 _ _ (List.prefix_refl _) hrequest).2 hmem⟩

/-- The guest's request is dropped because the host has used the same id, and after a legacy pause
is over, a late copy of the request that opened it opens another one in the same session epoch. -/
theorem pause_ids_confused :
    let hold (c : ConnectionId) (id : String) : RoomOp := .requestSessionPause c id.toList .menu 0
    let playing (version : Nat) := seating false ++ handshake version 0
    let shared := after sampleRelay (sampleRoom 5) (playing 5 ++ [hold hostSocket "a"])
    let resumed := after sampleRelay (sampleRoom 4) (playing 4 ++ [hold hostSocket "a",
      .markSessionPauseReached hostSocket 1 8 0, .markSessionPauseReached guestSocket 1 8 0,
      .requestSessionResume hostSocket "b".toList 1 0])
    (Possible sampleRelay (sampleRoom 5) (playing 5 ++ [hold hostSocket "a", hold guestSocket "a"])
        ∧ pauseRequestOf shared.room (hold guestSocket "a") = some ⟨.two, .hold, "a".toList⟩
        ∧ holdsPause (applyOp sampleRelay shared.room (hold guestSocket "a")) .two = false)
      ∧ resumed.room.pauseState.isNone
      ∧ resumed.room.sessionEpoch = (after sampleRelay (sampleRoom 4) (playing 4)).room.sessionEpoch
      ∧ (applyOp sampleRelay resumed.room (hold hostSocket "a")).pauseState.isSome := by
  decide +kernel

end NetplayRelay.Proof
