import NetplayRelay.Proof.Effects
import NetplayRelay.Proof.Histories
import NetplayRelay.Transport.MessageHandler

/-!
# Epochs never come back

Whatever is sent to a room names the epochs it was made for. That this tells old work from new rests
on the counters themselves: no call takes one of them back, so a pair of epochs that a room has left
is left for good. Where a counter stands still at its limit it does not come back either.
-/

namespace NetplayRelay.Proof

open Lib Protocol Rooms Registry Transport

/-! ## Calls that raise an epoch -/

/-- A call of this kind may raise an epoch of the room. -/
def mayRaiseEpochs (r : NetplayRoom) : RoomOp → Bool
  | .joinGuest .. => (r.players.find? (·.isEmpty)).isSome
  | .disconnect c now => r.status.isRecoverable && r.status ≠ .recovering
    && (r.slotForConnection c).any fun slot => !handoffArmed slot now
  | .disconnectInputSocket c _ => r.status.inputLossIsRecoverable && r.status ≠ .recovering
    && (r.slotForInputConnection c).isSome
  | .markSessionPauseReached c sequence frame _ =>
    r.usesStrictControllerInput && completesPause r c sequence frame
  | .requestSessionResume .. => r.usesStrictControllerInput && r.status = .paused
  | .recordStateHash .. =>
    !r.usesStrictControllerInput && (r.status = .playing || r.status = .paused)
  | .pinStateRecovery c roomEpoch sessionEpoch pin => pinMatches r c roomEpoch sessionEpoch pin
  | .sweep _ => r.status.watchesHeartbeats
  | _ => false

variable {relay : Relay} {r r' : NetplayRoom} {op : RoomOp}

/-- The two rooms are on the same epochs. -/
def SameEpochs (r r' : NetplayRoom) : Prop :=
  r'.roomEpoch = r.roomEpoch ∧ r'.sessionEpoch = r.sessionEpoch

theorem SameSession.sameEpochs (h : SameSession r r') : SameEpochs r r' :=
  ⟨h.roomEpoch, h.sessionEpoch⟩

theorem Negotiated.sameEpochs (h : Negotiated r r') : SameEpochs r r' :=
  ⟨h.read SessionCore.roomEpoch fun _ _ => rfl, h.sessionEpoch⟩

theorem SameEpochs.trans {r'' : NetplayRoom} (h : SameEpochs r r') (h' : SameEpochs r' r'') :
    SameEpochs r r'' :=
  ⟨h'.1.trans h.1, h'.2.trans h.2⟩

/-- The counter stays, or goes up by one as far as its type lets it. -/
def Bumped (before after : Nat) : Prop :=
  after = before ∨ after = satAdd u64Max before 1

/-- Both epochs stay, or the call may raise them and raises each by one at most. -/
def EpochsMove (may : Bool) (r r' : NetplayRoom) : Prop :=
  SameEpochs r r'
    ∨ may ∧ Bumped r.roomEpoch r'.roomEpoch ∧ Bumped r.sessionEpoch r'.sessionEpoch

theorem EpochsMove.same {may : Bool} (h : EpochsMove may r r') (hquiet : may = false) :
    SameEpochs r r' :=
  h.resolve_right fun hmay => absurd (hmay.1.symm.trans hquiet) (by simp)

theorem EpochsMove.bumped {may : Bool} (h : EpochsMove may r r') :
    Bumped r.roomEpoch r'.roomEpoch ∧ Bumped r.sessionEpoch r'.sessionEpoch := by
  rcases h with ⟨hroom, hsession⟩ | ⟨_, hbumped⟩
  · exact ⟨.inl hroom, .inl hsession⟩
  · exact hbumped

/-- Of the losses of a control socket only the one that starts recovery raises the epochs. -/
theorem controlLoss_epochs {c : ConnectionId} {now : Instant} {grace : Duration}
    (h : ControlLoss r c now grace r') :
    EpochsMove (r.status.isRecoverable && r.status ≠ .recovering
      && (r.slotForConnection c).any fun slot => !handoffArmed slot now) r r' := by
  cases h with
  | unknown _ h => exact .inl h.sameEpochs
  | handoffKept => exact .inl ⟨rfl, rfl⟩
  | alsoLost hr₁ | hostGone hr₁ | guestGone hr₁ =>
    refine .inl (hr₁.sameEpochs.trans ⟨?_, ?_⟩) <;>
      simp [detachControl, NetplayRoom.markSlotReconnecting]
  | recovery hr₁ hslot₀ hunarmed _ hstatus hfirst =>
    refine .inr ⟨by simp [hstatus, hslot₀, hfirst, hunarmed], .inr ?_, .inr ?_⟩
    · rw [← hr₁.roomEpoch]
      rfl
    · rw [← hr₁.sessionEpoch]
      rfl

/-- **A call that is not of such a kind leaves the epochs alone**, and the others take none back. -/
theorem effect_epochs (h : Effect relay r op r') : EpochsMove (mayRaiseEpochs r op) r r' := by
  cases h with
  | bookkeeping h => exact .inl h.sameEpochs
  | joined _ hempty => exact .inr ⟨hempty, .inr rfl, .inr rfl⟩
  | controlLost h => exact controlLoss_epochs h
  | @inputAndControlLost c _ now slot _ hslot hstatus _ h =>
    have hdetached : SameEpochs r (r.detachInputSocket c slot.playerIndex now) := ⟨rfl, rfl⟩
    rcases controlLoss_epochs h with hsame | ⟨hmay, hbumped⟩
    · exact .inl (hdetached.trans hsame)
    · refine .inr ⟨?_, hbumped⟩
      have hfirst : r.status ≠ .recovering := by
        simp only [Bool.and_eq_true, decide_eq_true_eq] at hmay
        exact hmay.1.2
      simp [mayRaiseEpochs, hslot, hstatus, hfirst]
  | handoffsLapsed hcleared =>
    exact .inl ⟨congrArg (·.roomEpoch) hcleared.core, congrArg (·.sessionEpoch) hcleared.core⟩
  | heartbeatsStopped hr₁ hdropped =>
    have hwatched := hdropped.watched
    rw [hr₁.status] at hwatched
    refine .inr ⟨hwatched, .inr ?_, .inr ?_⟩
    · rw [← hr₁.roomEpoch]
      exact congrArg (·.roomEpoch) hdropped.core
    · rw [← hr₁.sessionEpoch]
      exact congrArg (·.sessionEpoch) hdropped.core
  | becameReady _ h =>
    obtain ⟨_, hcore⟩ := h.core
    exact .inl ⟨congrArg (·.roomEpoch) hcore, congrArg (·.sessionEpoch) hcore⟩
  | startedNow _ hr₁ | startFixedBySample hr₁ | startFixedByVote hr₁
  | recoveryPrepared hr₁ | recoveryLimited hr₁ =>
    exact .inl (hr₁.sameEpochs.trans ⟨rfl, rfl⟩)
  | restartedByLast _ _ hcompletes hstrict =>
    exact .inr ⟨by simp [mayRaiseEpochs, hcompletes, hstrict], .inl rfl, .inr rfl⟩
  | restarted _ _ hstatus hstrict =>
    exact .inr ⟨by simp [mayRaiseEpochs, hstatus, hstrict], .inl rfl, .inr rfl⟩
  | legacyInput h | legacyTick _ h =>
    exact .inl ⟨congrArg (·.roomEpoch) h.core, congrArg (·.sessionEpoch) h.core⟩
  | resynced hr₁ hstatus hlegacy =>
    refine .inr ⟨?_, .inl hr₁.roomEpoch, .inr (congrArg (satAdd u64Max · 1) hr₁.sessionEpoch)⟩
    rcases hstatus with hs | hs <;> simp [mayRaiseEpochs, hs, hlegacy]
  | pinned _ _ hpin => exact .inr ⟨hpin, .inl rfl, .inr rfl⟩
  | _ => exact .inl ⟨rfl, rfl⟩

/-! ## The counters over a run -/

/-- Both counters are in the range of their type. -/
structure EpochsFit (r : NetplayRoom) : Prop where
  room : r.roomEpoch ≤ u64Max
  session : r.sessionEpoch ≤ u64Max

/-- Neither counter goes back. -/
structure EpochsGrow (r r' : NetplayRoom) : Prop where
  room : r.roomEpoch ≤ r'.roomEpoch
  session : r.sessionEpoch ≤ r'.sessionEpoch

theorem epochs_step (relay : Relay) (op : RoomOp) (h : EpochsFit r) :
    EpochsGrow r (applyOp relay r op) ∧ EpochsFit (applyOp relay r op) := by
  have hcounter : ∀ {a b : Nat}, a ≤ u64Max → Bumped a b → a ≤ b ∧ b ≤ u64Max := by
    intro a b ha hb
    rw [Bumped, satAdd] at hb
    omega
  have hbumped := (effect_epochs (applyOp_effect relay r op)).bumped
  obtain ⟨hroom, hroomFits⟩ := hcounter h.room hbumped.1
  obtain ⟨hsession, hsessionFits⟩ := hcounter h.session hbumped.2
  exact ⟨⟨hroom, hsession⟩, hroomFits, hsessionFits⟩

theorem epochsFit_reachable {s : StoredRoom} (h : Reachable relay s) : EpochsFit s.room := by
  refine reachable_inv EpochsFit ?_ (fun _ op _ hfit _ => (epochs_step relay op hfit).2) h
  intro roomId key c session version resume input now voice
  have hfirst : 1 ≤ u64Max := by decide
  cases voice <;> exact ⟨hfirst, hfirst⟩

theorem epochs_run {s t : StoredRoom} {ops : List RoomOp} (h : EpochsFit s.room)
    (hrun : run (StoredRoom.step relay) s ops = some t) :
    EpochsGrow s.room t.room ∧ EpochsFit t.room := by
  have hfit : ∀ (s : StoredRoom) op t, EpochsFit s.room → True → s.step relay op = some t →
      EpochsFit t.room := by
    intro s op t hs _ ht
    rw [step_room ht]
    exact (epochs_step relay op hs).2
  refine ⟨?_, invariant_run hfit guarded_true hrun h⟩
  refine relation_run (R := fun s t => EpochsGrow s.room t.room) (fun s => ⟨le_rfl, le_rfl⟩)
    (fun h h' => ⟨h.room.trans h'.room, h.session.trans h'.session⟩) hfit ?_ guarded_true hrun h
  intro s op t hs _ ht
  rw [step_room ht]
  exact (epochs_step relay op hs).1

theorem validateEpochs_ok {roomEpoch sessionEpoch : Nat}
    (h : validateEpochs r roomEpoch sessionEpoch = .ok ()) :
    (roomEpoch, sessionEpoch) = (r.roomEpoch, r.sessionEpoch) := by
  unfold validateEpochs at h
  split at h
  · exact absurd h (by simp)
  rename_i hroom
  split at h
  · exact absurd h (by simp)
  · rename_i hsession
    rw [not_not.mp hroom, not_not.mp hsession]

/-- **What is made for epochs that a room has left is refused from then on.** -/
theorem left_epochs_stay_stale {s t u : StoredRoom} {ops later : List RoomOp}
    (h : Reachable relay s) (hrun : run (StoredRoom.step relay) s ops = some t)
    (hlater : run (StoredRoom.step relay) t later = some u)
    (hleft : t.room.roomEpoch ≠ s.room.roomEpoch ∨ t.room.sessionEpoch ≠ s.room.sessionEpoch) :
    validateEpochs u.room s.room.roomEpoch s.room.sessionEpoch ≠ .ok () := by
  obtain ⟨hgrown, hfit⟩ := epochs_run (epochsFit_reachable h) hrun
  obtain ⟨hlast, _⟩ := epochs_run hfit hlater
  intro hvalid
  obtain ⟨hroom, hsession⟩ := Prod.ext_iff.mp (validateEpochs_ok hvalid)
  dsimp only at hroom hsession
  have := hgrown.room
  have := hgrown.session
  have := hlast.room
  have := hlast.session
  omega

/-- The guest's socket closes, and the room is swept. -/
theorem left_epochs_stay_stale_playing :
    let lost := after sampleRelay playingRoom [.disconnect guestSocket 1]
    validateEpochs (after sampleRelay lost [.sweep 2]).room playingRoom.room.roomEpoch
      playingRoom.room.sessionEpoch ≠ .ok () := by
  intro lost
  have hfacts : Possible sampleRelay playingRoom [.disconnect guestSocket 1]
      ∧ Possible sampleRelay lost [.sweep 2]
      ∧ lost.room.roomEpoch ≠ playingRoom.room.roomEpoch := by
    decide +kernel
  obtain ⟨hlost, hswept, hleft⟩ := hfacts
  exact left_epochs_stay_stale (t := lost) playingRoom_reachable hlost.run_eq hswept.run_eq
    (.inl hleft)

end NetplayRelay.Proof
