import NetplayRelay.Proof.Effects

/-!
# Judging state hashes

A state hash passes a line of checks before it is stored, and is judged when every connected player
has reported the same frame. `HashVerdict` lists the answers, each with what has to hold for it and
the room it leaves; whatever is said about reports later on is an analysis of this list.
-/

namespace NetplayRelay.Proof

open Lib Protocol Rooms Registry NetplayRoom

variable {r : NetplayRoom} {c : ConnectionId} {report : StateHashReport} {p : PlayerIndex}
  {order : HashOrder}

/-- The hashes of the connected players, in the order of their seats. -/
def reportedHashes (r : NetplayRoom) (frameHashes : PlayerMap Text) : List PlayerStateHashView :=
  (r.connectedPlayerIndices.filterMap fun p =>
    (frameHashes.lookup p).map fun sha256 => (⟨p, sha256⟩ : PlayerStateHashView)).insertionSort
      fun a b => a.playerIndex.zeroBased ≤ b.playerIndex.zeroBased

def hashesDiffer : List PlayerStateHashView → Bool
  | [] => false
  | first :: rest => !(first :: rest).all fun hash => hash.sha256 = first.sha256

/-- What is known of a frame once player `p`'s report is stored. -/
def hashesWith (r : NetplayRoom) (p : PlayerIndex) (report : StateHashReport) : PlayerMap Text :=
  ((r.storeStateHash p report).stateHashes.lookup report.frame).getD ∅

/-- Every connected player has reported the frame. -/
def frameComplete (r : NetplayRoom) (p : PlayerIndex) (report : StateHashReport) : Bool :=
  r.connectedPlayerIndices.all fun q => ((hashesWith r p report).lookup q).isSome

/-- Player `p`'s report completes the hashes of a frame, and they differ. -/
def completesMismatch (r : NetplayRoom) (p : PlayerIndex) (report : StateHashReport) : Bool :=
  let stored := r.storeStateHash p report
  let frameHashes := (stored.stateHashes.lookup report.frame).getD ∅
  (stored.connectedPlayerIndices.all fun q => (frameHashes.lookup q).isSome)
    && hashesDiffer (reportedHashes stored frameHashes)

theorem completesMismatch_eq (p : PlayerIndex) (report : StateHashReport) :
    completesMismatch r p report
      = (frameComplete r p report && hashesDiffer (reportedHashes r (hashesWith r p report))) := rfl

/-- The report of player `p` is stored: a session runs, its hashes are compared, and in a strict
session with authoritative digests the frame is the next checkpoint. -/
structure Taken (r : NetplayRoom) (order : HashOrder) (c : ConnectionId) (report : StateHashReport)
    (p : PlayerIndex) : Prop where
  status : r.status = .playing ∨ r.status = .paused
  mode : r.stateDigestMode order ≠ .disabled
  valid : report.validate.isOk
  player : r.playerIndexForConnection c = some p
  due : r.usesStrictControllerInput → r.stateDigestMode order = .authoritative →
    r.checkpointVerdict report.frame = none

/-- The player whose report is stored, if it is. -/
def reporter (r : NetplayRoom) (order : HashOrder) (c : ConnectionId) (report : StateHashReport) :
    Option PlayerIndex :=
  if (r.status = .playing ∨ r.status = .paused) ∧ r.stateDigestMode order ≠ .disabled
      ∧ report.validate.isOk
      ∧ (r.usesStrictControllerInput → r.stateDigestMode order = .authoritative →
        (r.checkpointVerdict report.frame).isNone) then
    r.playerIndexForConnection c
  else none

theorem reporter_eq_some : reporter r order c report = some p ↔ Taken r order c report p := by
  unfold reporter
  constructor
  · intro h
    split at h
    · rename_i hchecks
      obtain ⟨hstatus, hmode, hvalid, hdue⟩ := hchecks
      exact ⟨hstatus, hmode, hvalid, h, fun hstrict hauth =>
        Option.isNone_iff_eq_none.mp (hdue hstrict hauth)⟩
    · exact absurd h (by simp)
  · intro h
    rw [if_pos ⟨h.status, h.mode, h.valid, fun hstrict hauth =>
      Option.isNone_iff_eq_none.mpr (h.due hstrict hauth)⟩]
    exact h.player

theorem reporter_eq_none (h : ∀ p, ¬Taken r order c report p) : reporter r order c report = none :=
  Option.eq_none_iff_forall_ne_some.mpr fun p hp => h p (reporter_eq_some.mp hp)

/-- The room in which a complete frame is judged. -/
def judgedRoom (r : NetplayRoom) (p : PlayerIndex) (report : StateHashReport) : NetplayRoom :=
  (r.storeStateHash p report).pruneStateHashes report.frame

theorem judgedRoom_same (p : PlayerIndex) (report : StateHashReport) :
    SameSession r (judgedRoom r p report).recordStateHashTrueMismatch := by
  rw [judgedRoom]
  generalize hstored : r.storeStateHash p report = stored
  have hsame : SameSession r stored := hstored ▸ storeStateHash_same p report
  exact hsame.trans (.of_core rfl rfl)

/-- **What becomes of a state hash.** -/
inductive HashVerdict (r : NetplayRoom) (order : HashOrder) (c : ConnectionId)
    (report : StateHashReport) (now : Instant) : Outcome StateHashEvaluation → Prop
  | unheard {result : Except RoomError StateHashEvaluation} (h : ∀ p, ¬Taken r order c report p)
      (hresult : result = .ok .pending ∨ result = .ok .disabled ∨ ∃ error, result = .error error) :
      HashVerdict r order c report now (result, r)
  | stored {p : PlayerIndex} (h : Taken r order c report p)
      (hmissing : frameComplete r p report = false) :
      HashVerdict r order c report now (.ok .pending, r.storeStateHash p report)
  | matched {p : PlayerIndex} (h : Taken r order c report p) (hall : frameComplete r p report)
      (hsame : hashesDiffer (reportedHashes r (hashesWith r p report)) = false) :
      HashVerdict r order c report now (.ok (.matched report.frame),
        (judgedRoom r p report).recordStateHashMatch report.frame
          (r.usesStrictControllerInput && r.stateDigestMode order = .authoritative))
  /-- Digests that are not authoritative are only told about. -/
  | told {p : PlayerIndex} {mismatch : StateHashMismatchView}
      {result : Except RoomError StateHashEvaluation} (h : Taken r order c report p)
      (hdiffer : completesMismatch r p report) (hmode : r.stateDigestMode order ≠ .authoritative)
      (hresult : result = .ok (.frameSkew mismatch) ∨ result = .ok (.trueMismatch mismatch)) :
      HashVerdict r order c report now
        (result, (judgedRoom r p report).recordStateHashTrueMismatch)
  | judged {p : PlayerIndex} {nearby : List NearbyStateHashMatchView} (h : Taken r order c report p)
      (hdiffer : completesMismatch r p report) (hmode : r.stateDigestMode order = .authoritative) :
      HashVerdict r order c report now
        ((judgedRoom r p report).recordStateHashTrueMismatch.beginAuthoritativeRecovery
          ⟨report.frame, report.frame, reportedHashes r (hashesWith r p report), nearby⟩ now)

/-- One mismatch is enough. -/
theorem judgeMismatch_cases (mismatch : StateHashMismatchView) (mode : StateDigestMode)
    (now : Instant) :
    (mode = .authoritative ∧ r.judgeMismatch mismatch mode now
        = r.recordStateHashTrueMismatch.beginAuthoritativeRecovery mismatch now)
      ∨ (mode ≠ .authoritative
        ∧ ∃ result, (result = .ok (.frameSkew mismatch) ∨ result = .ok (.trueMismatch mismatch))
          ∧ r.judgeMismatch mismatch mode now = (result, r.recordStateHashTrueMismatch)) := by
  have hstreak : stateHashTrueMismatchesBeforeResync
      ≤ r.recordStateHashTrueMismatch.stateHashTrueMismatchStreak := by
    rw [recordStateHashTrueMismatch_stateHashTrueMismatchStreak, satAdd,
      stateHashTrueMismatchesBeforeResync, u8Max]
    omega
  unfold judgeMismatch
  dsimp only
  by_cases hmode : mode = .authoritative
  · rw [if_pos ⟨hmode, hstreak⟩]
    exact .inl ⟨hmode, rfl⟩
  rw [if_neg fun h => hmode h.1]
  refine .inr ⟨hmode, ?_⟩
  split
  · exact ⟨_, .inl rfl, rfl⟩
  · exact ⟨_, .inr rfl, rfl⟩

/-- The reporting player is among those whose hashes are compared. -/
theorem reportedHashes_ne_nil (hp : r.playerIndexForConnection c = some p) :
    reportedHashes r (hashesWith r p report) ≠ [] := by
  obtain ⟨slot, hslot, rfl⟩ := Option.map_eq_some_iff.mp hp
  have hconnected : slot.playerIndex ∈ r.connectedPlayerIndices := by
    refine List.mem_map_of_mem (List.mem_filter.mpr ⟨List.mem_of_find?_eq_some hslot, ?_⟩)
    have hsocket := List.find?_some hslot
    simp only [decide_eq_true_eq] at hsocket
    rw [PlayerSlot.isConnected, hsocket]
    rfl
  have hknown : (hashesWith r slot.playerIndex report).lookup slot.playerIndex
      = some report.sha256.toAsciiLowercase := by
    simp [hashesWith]
  have hmem : (⟨slot.playerIndex, report.sha256.toAsciiLowercase⟩ : PlayerStateHashView)
      ∈ reportedHashes r (hashesWith r slot.playerIndex report) := by
    rw [reportedHashes, List.mem_insertionSort, List.mem_filterMap]
    exact ⟨slot.playerIndex, hconnected, by rw [hknown]; rfl⟩
  exact List.ne_nil_of_mem hmem

theorem judgeStateHashes_verdicts (now : Instant) (htaken : Taken r order c report p)
    (hall : frameComplete r p report) :
    HashVerdict r order c report now ((r.storeStateHash p report).judgeStateHashes report
      (r.stateDigestMode order) (hashesWith r p report) now) := by
  unfold judgeStateHashes
  dsimp only
  split
  · rename_i hnone
    exact absurd hnone (reportedHashes_ne_nil htaken.player)
  rename_i first rest hsome
  have hhashes : reportedHashes r (hashesWith r p report) = first :: rest := hsome
  split
  · rename_i hsame
    rw [hsome] at hsame
    refine .matched htaken hall ?_
    rw [hhashes, hashesDiffer, hsame]
    rfl
  · rename_i hdiffer
    rw [hsome] at hdiffer
    have hcompletes : completesMismatch r p report := by
      rw [completesMismatch_eq, hall, hhashes, hashesDiffer, Bool.eq_false_iff.mpr hdiffer]
      rfl
    rcases judgeMismatch_cases (r := judgedRoom r p report) _ (r.stateDigestMode order) now with
      ⟨hmode, h⟩ | ⟨hmode, result, hresult, h⟩
    · exact (congrArg (HashVerdict r order c report now) h).mpr (.judged htaken hcompletes hmode)
    · exact (congrArg (HashVerdict r order c report now) h).mpr
        (.told htaken hcompletes hmode hresult)

theorem checkpointVerdict_cases {frame : Nat} {verdict : Except RoomError StateHashEvaluation}
    (h : r.checkpointVerdict frame = some verdict) :
    verdict = .ok .pending ∨ verdict = .error .invalidPayload := by
  unfold checkpointVerdict at h
  split at h
  · exact .inr (Option.some.inj h).symm
  split at h
  · exact .inl (Option.some.inj h).symm
  · split at h
    · exact .inr (Option.some.inj h).symm
    · exact absurd h (by simp)

/-- **Every report is answered in one of these ways.** -/
theorem acceptStateHash_verdicts (order : HashOrder) (c : ConnectionId) (report : StateHashReport)
    (now : Instant) : HashVerdict r order c report now (r.acceptStateHash order c report now) := by
  unfold acceptStateHash
  extract_lets mode authoritative
  split
  · rename_i haccepts
    refine .unheard (fun p htaken => ?_) (.inr (.inr ⟨_, rfl⟩))
    rcases htaken.status with h | h <;> simp [h, RoomStatus.acceptsStateHashes] at haccepts
  · rename_i haccepts
    split
    · rename_i hmode
      exact .unheard (fun p htaken => htaken.mode hmode) (.inr (.inl rfl))
    rename_i hmode
    split
    · rename_i hvalid
      refine .unheard (fun p htaken => ?_) (.inr (.inr ⟨_, rfl⟩))
      simp [htaken.valid] at hvalid
    · rename_i hvalid
      split
      · rename_i hp
        refine .unheard (fun p htaken => ?_) (.inr (.inr ⟨_, rfl⟩))
        exact absurd (hp.symm.trans htaken.player) (by simp)
      · rename_i p hp
        split
        · rename_i hscheduled
          refine .unheard (fun p htaken => ?_) (.inl rfl)
          rcases htaken.status with h | h <;> simp [h] at hscheduled
        · rename_i hscheduled
          have hstatus : r.status = .playing ∨ r.status = .paused := by
            revert haccepts hscheduled
            cases r.status <;> simp [RoomStatus.acceptsStateHashes]
          split
          · rename_i verdict hverdict
            split at hverdict
            · rename_i hauthoritative
              simp only [authoritative, Bool.and_eq_true, decide_eq_true_eq] at hauthoritative
              refine .unheard (fun p htaken => ?_) ?_
              · have hnone := htaken.due hauthoritative.1 hauthoritative.2
                exact absurd (hverdict.symm.trans hnone) (by simp)
              · rcases checkpointVerdict_cases hverdict with h | h
                · exact .inl h
                · exact .inr (.inr ⟨_, h⟩)
            · exact absurd hverdict (by simp)
          · rename_i hcheckpoint
            have htaken : Taken r order c report p := by
              refine ⟨hstatus, hmode, by simpa using hvalid, hp, fun hstrict hauth => ?_⟩
              rwa [if_pos (by simp [authoritative, mode, hstrict, hauth])] at hcheckpoint
            extract_lets stored frameHashes
            split
            · rename_i hmissing
              simp only [Bool.not_eq_true'] at hmissing
              exact .stored htaken hmissing
            · rename_i hall
              simp only [Bool.not_eq_true', Bool.not_eq_false] at hall
              exact judgeStateHashes_verdicts now htaken hall

end NetplayRelay.Proof
