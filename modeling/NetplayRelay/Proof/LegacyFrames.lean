import NetplayRelay.Proof.LegacyInput
import NetplayRelay.Registry.LegacyLane

/-!
# Frame data of a legacy session

What ticks, input and pauses do to the numbers that decide when legacy input is released. A tick
releases the next frame or nothing, input moves the cursors of its player, and a pause touches none
of them.
-/

namespace NetplayRelay.Proof

open Lib Protocol Rooms Registry NetplayRoom

/-- The player whose input the clock waits for. -/
def hostIndex (r : NetplayRoom) : Option PlayerIndex :=
  (r.players.find? (·.role = .host)).map (·.playerIndex)

/-- The sockets of a seat, and whether input may go over them as fast records. -/
structure SeatSockets where
  playerIndex : PlayerIndex
  control : Option ConnectionId
  input : Option ConnectionId
  fast : Bool

def seatSockets (slot : PlayerSlot) : SeatSockets :=
  ⟨slot.playerIndex, slot.connectionId, slot.inputConnectionId, slot.supportsFastInputRelay⟩

/-- The epochs and frame numbers of a room, and who sits in it on which sockets. -/
structure FrameData where
  strict : Bool
  host : Option PlayerIndex
  maxPlayers : Nat
  sockets : List SeatSockets
  roomEpoch : Nat
  sessionEpoch : Nat
  syncStartFrame : Nat
  lastInputFrames : PlayerMap Nat
  nextInputFrames : PlayerMap Nat
  releasedFrame : Option Nat
  nextReleaseFrame : Nat

def frameData (r : NetplayRoom) : FrameData where
  strict := r.usesStrictControllerInput
  host := hostIndex r
  maxPlayers := r.maxPlayers
  sockets := r.players.map seatSockets
  roomEpoch := r.roomEpoch
  sessionEpoch := r.sessionEpoch
  syncStartFrame := r.syncStartFrame
  lastInputFrames := r.lastInputFrames
  nextInputFrames := r.nextInputFrames
  releasedFrame := r.releasedFrame
  nextReleaseFrame := r.nextReleaseFrame

variable {relay : Relay} {r r' : NetplayRoom}

theorem hostIndex_entered (status : PlayerStatus) (runtimeState : PlayerRuntimeState) :
    hostIndex (r.updateConnected (·.enter status runtimeState)) = hostIndex r := by
  unfold hostIndex updateConnected
  dsimp only
  induction r.players with
  | nil => rfl
  | cons slot slots ih =>
    by_cases hconnected : slot.isConnected = true
    · by_cases hhost : slot.role = .host
      · simp [updateWhere, hconnected, hhost, PlayerSlot.enter]
      · simpa [updateWhere, hconnected, hhost, PlayerSlot.enter] using ih
    · by_cases hhost : slot.role = .host
      · simp [updateWhere, hconnected, hhost]
      · simpa [updateWhere, hconnected, hhost] using ih

theorem sockets_entered (status : PlayerStatus) (runtimeState : PlayerRuntimeState) :
    (r.updateConnected (·.enter status runtimeState)).players.map seatSockets
      = r.players.map seatSockets := by
  exact map_eq_of_forall₂ (forall₂_updateWhere (fun _ => rfl) fun _ _ _ => rfl)

/-- A room that changes its status and that of its connected players keeps its frame data. -/
theorem frameData_entered {status : PlayerStatus} {runtimeState : PlayerRuntimeState}
    (h : frameData r'
      = { frameData r with
        host := hostIndex (r.updateConnected (·.enter status runtimeState))
        sockets := (r.updateConnected (·.enter status runtimeState)).players.map seatSockets }) :
    frameData r' = frameData r := by
  rw [h, hostIndex_entered, sockets_entered]
  rfl

/-! ## Ticks -/

/-- What a tick does: nothing to the frame data, or the release of the next frame, for which the
host has sent input. -/
inductive Ticked (r : NetplayRoom) : Option ServerFrame × NetplayRoom → Prop
  | idle {r' : NetplayRoom} (h : frameData r' = frameData r) : Ticked r (none, r')
  | released {r' : NetplayRoom} {frame : ServerFrame} {host : PlayerIndex} {newest : Nat}
      (h : frameData r' = { frameData r with
        releasedFrame := some r.nextReleaseFrame
        nextReleaseFrame := satAdd u64Max r.nextReleaseFrame 1 })
      (hframe : frame.frame = r.nextReleaseFrame)
      (hepochs : frame.roomEpoch = r.roomEpoch ∧ frame.sessionEpoch = r.sessionEpoch)
      (hhost : hostIndex r = some host) (hnewest : r.lastInputFrames.lookup host = some newest)
      (hle : r.nextReleaseFrame ≤ newest) : Ticked r (some frame, r')

theorem applyPendingInputDelayIfDue_frameData :
    frameData r.applyPendingInputDelayIfDue = frameData r := by
  unfold applyPendingInputDelayIfDue
  split
  · rfl
  · split <;> rfl

theorem hostHasInputForFrame_iff {frame : Nat} : r.hostHasInputForFrame frame
    ↔ ∃ host newest, hostIndex r = some host ∧ r.lastInputFrames.lookup host = some newest
      ∧ frame ≤ newest := by
  unfold hostHasInputForFrame hostIndex
  cases r.players.find? (·.role = .host) with
  | none => simp
  | some slot => simp [Option.any_eq_true]

theorem tickPlaying_ticked (hdata : frameData r' = frameData r) : Ticked r r'.tickPlaying := by
  have hdelay : frameData r'.applyPendingInputDelayIfDue = frameData r :=
    applyPendingInputDelayIfDue_frameData.trans hdata
  unfold tickPlaying
  generalize r'.applyPendingInputDelayIfDue = delayed at hdelay
  dsimp only
  have hnext : delayed.nextReleaseFrame = r.nextReleaseFrame :=
    congrArg (·.nextReleaseFrame) hdelay
  by_cases hhost : delayed.hostHasInputForFrame delayed.nextReleaseFrame
  · rw [if_neg (by simp [hhost])]
    obtain ⟨host, newest, hindex, hnewest, hle⟩ := hostHasInputForFrame_iff.mp hhost
    have hsame : hostIndex delayed = hostIndex r := congrArg (·.host) hdelay
    have hlast : delayed.lastInputFrames = r.lastInputFrames :=
      congrArg (·.lastInputFrames) hdelay
    refine .released ?_ hnext ⟨congrArg (·.roomEpoch) hdelay,
      congrArg (·.sessionEpoch) hdelay⟩ (hsame ▸ hindex) (hlast ▸ hnewest) (hnext ▸ hle)
    rw [← hdelay, ← hnext]
    rfl
  · rw [if_pos (by simp [hhost])]
    exact .idle hdelay

theorem releaseNextServerFrame_ticked (serverTimeMs : Nat) :
    Ticked r (r.releaseNextServerFrame serverTimeMs) := by
  unfold releaseNextServerFrame
  split
  · exact .idle rfl
  split
  · split
    · exact .idle rfl
    · split
      · exact .idle rfl
      · exact tickPlaying_ticked (frameData_entered rfl)
  · split
    · exact .idle rfl
    · exact tickPlaying_ticked rfl

/-! ## Pauses -/

/-- No pause of a legacy session touches the frame data. -/
theorem pauseCall_frameData {op : RoomOp} (hop : isPauseCall op)
    (hlegacy : r.usesStrictControllerInput = false) :
    frameData (applyOp relay r op) = frameData r := by
  cases op with
  | requestSessionPause c id reason frame =>
    simp only [applyOp, requestSessionPauseWithId]
    split
    · rfl
    · split
      · rfl
      · split <;> rfl
  | markSessionPauseReached c sequence frame now =>
    simp only [applyOp, markSessionPauseReachedWithOutcomeAt, hlegacy, Bool.false_eq_true, if_false]
    split
    · rfl
    split
    · rfl
    split
    · rfl
    split
    · split
      · exact frameData_entered rfl
      · exact frameData_entered rfl
    · rfl
  | requestSessionResume c id sequence now =>
    simp only [applyOp, requestSessionResumeWithIdAt, hlegacy, Bool.false_eq_true, if_false]
    split
    · rfl
    split
    · rfl
    split
    · rfl
    · split
      · rfl
      · exact frameData_entered rfl
  | _ => exact absurd hop (by simp [isPauseCall])

/-! ## Input -/

variable {owned : PlayerIndex}

/-- A staged frame is passed over, or it is new and moves its player's cursors. -/
theorem stageInputFrameCursor_cases {staged staged' : InputFrameCursorStage} {input : InputCursor}
    {acceptance : InputFrameAcceptance}
    (h : r.stageInputFrameCursor owned staged input = .ok (acceptance, staged')) :
    (acceptance = .ignore ∧ staged' = staged)
    ∨ (acceptance = .relay ∧ input.playerIndex = owned ∧ input.frame ≤ u64Max
      ∧ (staged.nextInputFrames.lookup input.playerIndex).getD r.syncStartFrame ≤ input.frame
      ∧ staged' = ⟨staged.lastInputFrames.insert input.playerIndex input.frame,
        staged.nextInputFrames.insert input.playerIndex (satAdd u64Max input.frame 1)⟩) := by
  unfold stageInputFrameCursor at h
  split at h
  · exact absurd h (by simp)
  rename_i howner
  split at h
  · exact absurd h (by simp)
  · obtain ⟨rfl, rfl⟩ := Prod.mk.inj (Except.ok.inj h)
    exact .inl ⟨rfl, rfl⟩
  split at h
  · exact absurd h (by simp)
  rename_i hlimit
  split at h
  · obtain ⟨rfl, rfl⟩ := Prod.mk.inj (Except.ok.inj h)
    exact .inl ⟨rfl, rfl⟩
  rename_i hnew
  have hrange : input.frame ≤ u64Max := by
    have hmod := Nat.mod_lt (r.roomFrame + maxFutureFrameDistance) (Nat.two_pow_pos 64)
    unfold u64Max
    omega
  obtain ⟨rfl, rfl⟩ := Prod.mk.inj (Except.ok.inj h)
  exact .inr ⟨rfl, (not_not.mp howner).symm, hrange, Nat.le_of_not_lt hnew, rfl⟩

/-- The frames of a message that are to be relayed. -/
def relayed {α : Type} (answered : List (α × InputFrameAcceptance)) : List α :=
  (answered.filter fun entry => entry.2 = .relay).map (·.1)

/-- Cursors that lie behind the start of the session do not come up. -/
def CursorsBegin (r : NetplayRoom) (staged : InputFrameCursorStage) : Prop :=
  ∀ p frame, staged.nextInputFrames.lookup p = some frame → r.syncStartFrame ≤ frame

/-- What a staged message has done to the cursors. -/
structure Staged (r : NetplayRoom) (owned : PlayerIndex) (staged : InputFrameCursorStage)
    (relayed : List InputCursor) (staged' : InputFrameCursorStage) : Prop where
  begins : CursorsBegin r staged'
  owner : ∀ input ∈ relayed, input.playerIndex = owned
  begun : ∀ input ∈ relayed, r.syncStartFrame ≤ input.frame
  /-- A newest frame is from before or from this message. -/
  newest : ∀ p frame, staged'.lastInputFrames.lookup p = some frame →
    staged.lastInputFrames.lookup p = some frame ∨ ⟨p, frame⟩ ∈ relayed

theorem stageInputFrameCursors_staged (hstart : r.syncStartFrame ≤ u64Max)
    (inputs : List InputCursor) :
    ∀ {staged staged' : InputFrameCursorStage} {acceptances : List InputFrameAcceptance},
      r.stageInputFrameCursors owned staged inputs = .ok (acceptances, staged') →
      CursorsBegin r staged →
      acceptances.length = inputs.length
        ∧ Staged r owned staged (relayed (inputs.zip acceptances)) staged' := by
  induction inputs with
  | nil =>
    intro staged staged' acceptances h hbegins
    obtain ⟨rfl, rfl⟩ := Prod.mk.inj (Except.ok.inj h)
    exact ⟨rfl, hbegins, fun _ h => absurd h (by simp [relayed]),
      fun _ h => absurd h (by simp [relayed]), fun _ _ h => .inl h⟩
  | cons input inputs ih =>
    intro staged staged' acceptances h hbegins
    rw [stageInputFrameCursors] at h
    split at h
    · exact absurd h (by simp)
    rename_i acceptance staged₁ hfirst
    split at h
    · exact absurd h (by simp)
    rename_i acceptances' staged₂ hrest
    obtain ⟨rfl, rfl⟩ := Prod.mk.inj (Except.ok.inj h)
    rcases stageInputFrameCursor_cases hfirst with ⟨rfl, rfl⟩ | ⟨rfl, howner, -, hnew, rfl⟩
    · obtain ⟨hlength, hstaged⟩ := ih hrest hbegins
      refine ⟨by simp [hlength], ?_⟩
      simpa [relayed] using hstaged
    · have hframe : r.syncStartFrame ≤ input.frame := by
        refine Nat.le_trans ?_ hnew
        cases hcursor : staged.nextInputFrames.lookup input.playerIndex with
        | none => exact Nat.le_refl _
        | some frame => exact hbegins _ _ hcursor
      have hbegins₁ : CursorsBegin r
          ⟨staged.lastInputFrames.insert input.playerIndex input.frame,
          staged.nextInputFrames.insert input.playerIndex (satAdd u64Max input.frame 1)⟩ := by
        intro p frame hcursor
        by_cases hp : p = input.playerIndex
        · rw [hp, AList.lookup_insert] at hcursor
          obtain rfl := Option.some.inj hcursor
          unfold satAdd
          omega
        · rw [AList.lookup_insert_ne hp] at hcursor
          exact hbegins p frame hcursor
      obtain ⟨hlength, hstaged⟩ := ih hrest hbegins₁
      have hrelayed : relayed ((input :: inputs).zip (.relay :: acceptances'))
          = input :: relayed (inputs.zip acceptances') := by
        simp [relayed]
      refine ⟨by simp [hlength], ?_⟩
      rw [hrelayed]
      refine ⟨hstaged.begins, ?_, ?_, ?_⟩
      · intro other hother
        rcases List.mem_cons.mp hother with rfl | hlater
        · exact howner
        · exact hstaged.owner other hlater
      · intro other hother
        rcases List.mem_cons.mp hother with rfl | hlater
        · exact hframe
        · exact hstaged.begun other hlater
      · intro p frame hlast
        rcases hstaged.newest p frame hlast with hbefore | hlater
        · by_cases hp : p = input.playerIndex
          · rw [hp, AList.lookup_insert] at hbefore
            obtain rfl := Option.some.inj hbefore
            rw [hp]
            exact .inr List.mem_cons_self
          · rw [AList.lookup_insert_ne hp] at hbefore
            exact .inl hbefore
        · exact .inr (List.mem_cons_of_mem _ hlater)

/-- What a room makes of legacy input: it refuses the message and stays as it is, or it moves the
cursors of the player whose socket it is. -/
inductive InputTaken (r : NetplayRoom) (c : ConnectionId) (inputs : List InputCursor) :
    Outcome (List InputFrameAcceptance) → Prop
  | refused {error : RoomError} : InputTaken r c inputs (.error error, r)
  | taken {owned : PlayerIndex} {acceptances : List InputFrameAcceptance}
      {staged : InputFrameCursorStage} (howned : r.playerIndexForInputConnection c = some owned)
      (hlength : acceptances.length = inputs.length)
      (hstaged : Staged r owned ⟨r.lastInputFrames, r.nextInputFrames⟩
        (relayed (inputs.zip acceptances)) staged) :
      InputTaken r c inputs (.ok acceptances, withStage r staged)

theorem acceptInputFrameCursors_taken {c : ConnectionId} (hstart : r.syncStartFrame ≤ u64Max)
    (hbegins : CursorsBegin r ⟨r.lastInputFrames, r.nextInputFrames⟩) (inputs : List InputCursor) :
    InputTaken r c inputs (r.acceptInputFrameCursors c inputs) := by
  unfold acceptInputFrameCursors
  split
  · exact .refused
  split
  · exact .refused
  rename_i owned howned
  split
  · exact .refused
  · rename_i acceptances staged hstaged
    obtain ⟨hlength, hdone⟩ := stageInputFrameCursors_staged hstart inputs hstaged hbegins
    exact .taken howned hlength hdone

end NetplayRelay.Proof
