import NetplayRelay.Proof.Histories
import NetplayRelay.Proof.LaneCases
import Mathlib.Data.List.Range

/-!
# What a refused batch is told

A version 5 room refuses a batch as a whole and answers with two frames: the one it expects next
from the player, and the first frame of the batch that it cannot accept. Each of the four refusals
computes the second one in its own way. `firstRefused` says what it should be: a batch is a stretch
of frames, and which of them the room could take is decided by the epochs, the status, an open
pause, the cursor and the release window, all of which let a first part of the batch in, if any.

Stale epochs, gaps and the release window name that frame. A refusal by the status or by an open
pause names the last frame of the batch instead.
-/

namespace NetplayRelay.Proof

open Lib Protocol Rooms Registry NetplayRoom

variable {r : NetplayRoom} {c : ConnectionId} {batch : StrictInputBatch} {frame : Nat}

/-- The last frame that the release window lets in. -/
def maximumFrame (r : NetplayRoom) : Nat :=
  satAdd u64Max r.nextReleaseFrame v5MaxFutureFrameDistance

def endFrame (batch : StrictInputBatch) : Nat := batch.startFrame + (batch.payloads.length - 1)

def onCurrentEpochs (r : NetplayRoom) (batch : StrictInputBatch) : Bool :=
  batch.roomEpoch = r.roomEpoch && batch.sessionEpoch = r.sessionEpoch

/-- The room could accept this frame of the batch. -/
def acceptsFrame (r : NetplayRoom) (batch : StrictInputBatch) (frame : Nat) : Bool :=
  onCurrentEpochs r batch && r.strictInputStateAccepts frame
    && batch.startFrame ≤ r.expectedFrame batch.playerIndex && frame ≤ maximumFrame r

/-- The first frame of the batch that the room cannot accept. -/
def firstRefused (r : NetplayRoom) (batch : StrictInputBatch) : Option Nat :=
  (List.range' batch.startFrame batch.payloads.length).find? fun frame =>
    !acceptsFrame r batch frame

/-- The refusal names the right frame: it is not one by the status or by an open pause, or only the
batch's last frame is refused. -/
def nackIsExact (r : NetplayRoom) (batch : StrictInputBatch) : Bool :=
  !onCurrentEpochs r batch
    || if r.strictInputStateAccepts (endFrame batch) then
        r.expectedFrame batch.playerIndex < batch.startFrame
          || batch.startFrame ≤ maximumFrame r + 1
      else batch.payloads.length = 1 || acceptsFrame r batch (endFrame batch - 1)

/-! ## The first frame that is refused -/

/-- What lets a frame in lets the frames before it in. -/
theorem strictInputStateAccepts_mono {frame' : Nat} (h : r.strictInputStateAccepts frame)
    (hle : frame' ≤ frame) : r.strictInputStateAccepts frame' := by
  simp only [strictInputStateAccepts, Bool.and_eq_true, Option.all_eq_true,
    decide_eq_true_eq] at h ⊢
  exact ⟨h.1, fun pause hpause => hle.trans (h.2 pause hpause)⟩

theorem acceptsFrame_iff : acceptsFrame r batch frame ↔
    onCurrentEpochs r batch ∧ r.strictInputStateAccepts frame
      ∧ batch.startFrame ≤ r.expectedFrame batch.playerIndex ∧ frame ≤ maximumFrame r := by
  simp only [acceptsFrame, Bool.and_eq_true, decide_eq_true_eq, and_assoc]

theorem acceptsFrame_mono {frame' : Nat} (h : acceptsFrame r batch frame) (hle : frame' ≤ frame) :
    acceptsFrame r batch frame' := by
  obtain ⟨hepochs, hstate, hgap, hwindow⟩ := acceptsFrame_iff.mp h
  exact acceptsFrame_iff.mpr ⟨hepochs, strictInputStateAccepts_mono hstate hle, hgap,
    hle.trans hwindow⟩

/-- The first refused frame is refused, and either begins the batch or follows one that is not. -/
theorem firstRefused_iff : firstRefused r batch = some frame ↔
    batch.startFrame ≤ frame ∧ frame < batch.startFrame + batch.payloads.length
      ∧ acceptsFrame r batch frame = false
      ∧ (frame = batch.startFrame ∨ acceptsFrame r batch (frame - 1)) := by
  rw [firstRefused, List.find?_range'_eq_some]
  simp only [Bool.not_eq_true', List.mem_range'_1, Bool.not_not]
  constructor
  · rintro ⟨hrefused, ⟨hstart, hend⟩, hbefore⟩
    refine ⟨hstart, hend, hrefused, ?_⟩
    rcases hstart.eq_or_lt with heq | hlt
    · exact .inl heq.symm
    · exact .inr (hbefore (frame - 1) (by omega) (by omega))
  · rintro ⟨hstart, hend, hrefused, hbefore⟩
    refine ⟨hrefused, ⟨hstart, hend⟩, fun earlier hearly hlt => ?_⟩
    rcases hbefore with rfl | haccepted
    · omega
    · exact acceptsFrame_mono haccepted (by omega)

theorem firstRefused_start (hshape : batch.payloads ≠ [])
    (h : acceptsFrame r batch batch.startFrame = false) :
    firstRefused r batch = some batch.startFrame := by
  have hlength := List.length_pos_iff.mpr hshape
  exact firstRefused_iff.mpr ⟨le_rfl, by omega, h, .inl rfl⟩

/-! ## The four refusals -/

/-- Why a batch on input socket `c` is refused, and the frame that the answer names. -/
inductive Refusal (r : NetplayRoom) (batch : StrictInputBatch) : Nat → Prop
  | stale (hepochs : onCurrentEpochs r batch = false) : Refusal r batch batch.startFrame
  | state (hepochs : onCurrentEpochs r batch)
      (hstate : r.strictInputStateAccepts (endFrame batch) = false) :
      Refusal r batch (endFrame batch)
  | gap (hepochs : onCurrentEpochs r batch) (hstate : r.strictInputStateAccepts (endFrame batch))
      (hgap : r.expectedFrame batch.playerIndex < batch.startFrame) :
      Refusal r batch batch.startFrame
  | window (hepochs : onCurrentEpochs r batch) (hstate : r.strictInputStateAccepts (endFrame batch))
      (hgap : batch.startFrame ≤ r.expectedFrame batch.playerIndex)
      (hbound : endFrame batch ≤ u64Max) (hwindow : maximumFrame r < endFrame batch) :
      Refusal r batch (maximumFrame r + 1)

theorem onCurrentEpochs_eq_false :
    onCurrentEpochs r batch = false
      ↔ batch.roomEpoch ≠ r.roomEpoch ∨ batch.sessionEpoch ≠ r.sessionEpoch := by
  simp only [onCurrentEpochs, Bool.and_eq_false_iff, decide_eq_false_iff_not]

/-- Every refusal is one of the four, and names the cursor that the room has for the player. -/
theorem nack_refusal {outcome : StrictInputBatchOutcome} {r' : NetplayRoom} {nack : InputCursorNack}
    (h : r.acceptStrictInputBatch c batch = (.ok outcome, r'))
    (hnack : outcome.response = .nack nack) :
    nack.expectedFrame = r.expectedFrame batch.playerIndex
      ∧ Refusal r batch nack.receivedFrame := by
  -- a refusal is an answer, and its two frames are read off it
  have hframes : ∀ expected received reason,
      (Except.ok (r.strictInputNack batch.playerIndex expected received reason), r)
        = ((.ok outcome, r') : Outcome StrictInputBatchOutcome) →
      nack.expectedFrame = expected ∧ nack.receivedFrame = received := by
    intro expected received reason heq
    obtain rfl := Except.ok.inj (congrArg Prod.fst heq)
    obtain rfl := InputCursorResponse.nack.inj hnack
    exact ⟨rfl, rfl⟩
  have hack : ∀ next accepted count r₁,
      ((.ok (r.strictInputAck batch.playerIndex next accepted count), r₁) :
        Outcome StrictInputBatchOutcome) ≠ (.ok outcome, r') := by
    intro next accepted count r₁ heq
    obtain rfl := Except.ok.inj (congrArg Prod.fst heq)
    exact absurd hnack (by simp [strictInputAck])
  unfold acceptStrictInputBatch at h
  split at h
  · exact absurd h (by simp)
  dsimp only at h
  split at h
  · rename_i hepochs
    obtain ⟨hexpected, hreceived⟩ := hframes _ _ _ h
    exact ⟨hexpected, hreceived ▸ .stale (onCurrentEpochs_eq_false.mpr hepochs)⟩
  · rename_i hepochs
    have hcurrent : onCurrentEpochs r batch := by
      by_contra hstale
      exact hepochs (onCurrentEpochs_eq_false.mp (by simpa using hstale))
    split at h
    · exact absurd h (by simp)
    rename_i last hlast
    obtain ⟨hbound, rfl⟩ := checkedAdd_eq_some.mp hlast
    split at h
    · rename_i hstate
      obtain ⟨hexpected, hreceived⟩ := hframes _ _ _ h
      exact ⟨hexpected, hreceived ▸ .state hcurrent (by simpa [endFrame] using hstate)⟩
    · rename_i hstate
      have haccepts : r.strictInputStateAccepts (endFrame batch) := by
        simpa [endFrame] using hstate
      split at h
      · rename_i hgap
        obtain ⟨hexpected, hreceived⟩ := hframes _ _ _ h
        exact ⟨hexpected, hreceived ▸ .gap hcurrent haccepts hgap⟩
      · rename_i hgap
        split at h
        · rename_i hwindow
          obtain ⟨hexpected, hreceived⟩ := hframes _ _ _ h
          -- the frame after the window is one of the batch, so it can be counted
          have hnext : satAdd u64Max (maximumFrame r) 1 = maximumFrame r + 1 := by
            refine satAdd_eq_add ?_
            have : maximumFrame r < batch.startFrame + (batch.payloads.length - 1) := hwindow
            omega
          refine ⟨hexpected, ?_⟩
          rw [hreceived]
          exact hnext ▸ .window hcurrent haccepts (Nat.le_of_not_lt hgap) hbound hwindow
        · split at h
          · split at h
            · exact absurd h (by simp)
            · exact absurd h (hack _ _ _ _)
          · exact absurd h (hack _ _ _ _)

/-- **The refusal of a batch names the player's cursor, and it names the first frame of the batch
that the room cannot accept unless the status or an open pause refuses more than the last
frame.** -/
theorem nack_names_first_refused_iff (r : NetplayRoom) (c : ConnectionId) (batch : StrictInputBatch)
    (outcome : StrictInputBatchOutcome) (r' : NetplayRoom) (nack : InputCursorNack)
    (hshape : batch.payloads ≠ []) (h : r.acceptStrictInputBatch c batch = (.ok outcome, r'))
    (hnack : outcome.response = .nack nack) :
    nack.expectedFrame = r.expectedFrame batch.playerIndex
      ∧ (firstRefused r batch = some nack.receivedFrame ↔ nackIsExact r batch) := by
  obtain ⟨hexpected, hrefusal⟩ := nack_refusal h hnack
  refine ⟨hexpected, ?_⟩
  have hlength := List.length_pos_iff.mpr hshape
  generalize nack.receivedFrame = received at hrefusal
  cases hrefusal with
  | stale hepochs =>
      have hrefused : acceptsFrame r batch batch.startFrame = false := by
        simp [acceptsFrame, hepochs]
      exact iff_of_true (firstRefused_start hshape hrefused) (by simp [nackIsExact, hepochs])
  | state hepochs hstate =>
      have hrefused : acceptsFrame r batch (endFrame batch) = false := by
        simp [acceptsFrame, hstate]
      rw [firstRefused_iff]
      simp only [nackIsExact, hepochs, hstate, Bool.not_true, Bool.false_or, Bool.false_eq_true,
        if_false, Bool.or_eq_true, decide_eq_true_eq]
      have hone : endFrame batch = batch.startFrame ↔ batch.payloads.length = 1 := by
        rw [endFrame]
        omega
      rw [hone]
      constructor
      · exact fun h => h.2.2.2
      · intro h
        rw [endFrame] at hrefused h ⊢
        exact ⟨by omega, by omega, hrefused, h⟩
  | gap hepochs hstate hgap =>
      have hrefused : acceptsFrame r batch batch.startFrame = false := by
        simp [acceptsFrame, Nat.not_le.mpr hgap]
      exact iff_of_true (firstRefused_start hshape hrefused)
        (by simp [nackIsExact, hstate, hgap])
  | window hepochs hstate hgap hbound hwindow =>
      have hlast : maximumFrame r < batch.startFrame + (batch.payloads.length - 1) := hwindow
      rw [firstRefused_iff]
      simp only [nackIsExact, hepochs, hstate, Bool.not_true, Bool.false_or, if_true,
        Bool.or_eq_true, decide_eq_true_eq, Nat.not_lt.mpr hgap, false_or]
      constructor
      · exact fun h => h.1
      · intro hstart
        refine ⟨hstart, by omega, ?_, .inr ?_⟩
        · simp [acceptsFrame]
        · rw [Nat.add_sub_cancel, acceptsFrame_iff]
          exact ⟨hepochs, strictInputStateAccepts_mono hstate hwindow.le, hgap, le_rfl⟩

/-- A batch of the host's. -/
def hostBatch (start length : Nat) : StrictInputBatch :=
  ⟨2, 2, .one, start, .replicate length (.replicate 10 0)⟩

/-- The host of a running session skips a frame. -/
theorem nack_names_first_refused_gap :
    playingRoom.room.expectedFrame .one = 0
      ∧ firstRefused playingRoom.room (hostBatch 1 2) = some 1 := by
  have hsample : playingRoom.room.expectedFrame .one = 0 ∧ (hostBatch 1 2).payloads ≠ []
      ∧ nackIsExact playingRoom.room (hostBatch 1 2)
      ∧ (playingRoom.room.acceptStrictInputBatch hostInput (hostBatch 1 2)).1.toOption.map
        (·.response)
        = some (.nack ⟨2, 2, .one, 0, 1, .inputGap⟩) := by
    decide +kernel
  obtain ⟨hcursor, hshape, hexact, hanswer⟩ := hsample
  rcases hresult : playingRoom.room.acceptStrictInputBatch hostInput (hostBatch 1 2) with
    ⟨_ | outcome, r'⟩
  · exact absurd hanswer (by simp [hresult, Except.toOption])
  · have hresponse : outcome.response = .nack ⟨2, 2, .one, 0, 1, .inputGap⟩ := by
      simpa [hresult, Except.toOption] using hanswer
    exact ⟨hcursor, (nack_names_first_refused_iff playingRoom.room hostInput (hostBatch 1 2) _ _ _
      hshape hresult hresponse).2.mpr hexact⟩

/-- A pause at frame 8 lets input in up to frame 11. A batch of frames 10 to 13 is refused with
frame 13. -/
theorem nack_names_last_frame :
    let s := after sampleRelay (sampleRoom 5) (seating false ++ handshake 5 0
      ++ [.relayStrictInputBatch hostInput (hostBatch 0 4),
        .relayStrictInputBatch hostInput (hostBatch 4 4),
        .relayStrictInputBatch hostInput (hostBatch 8 2),
        .requestSessionPause hostSocket "a".toList .menu 0])
    Reachable sampleRelay s
      ∧ (s.room.acceptStrictInputBatch hostInput (hostBatch 10 4)).1.toOption.map (·.response)
        = some (.nack ⟨2, 2, .one, 10, 13, .sessionState⟩)
      ∧ firstRefused s.room (hostBatch 10 4) = some 12 := by
  intro s
  exact ⟨reachable_after (by decide +kernel), by decide +kernel, by decide +kernel⟩

end NetplayRelay.Proof
