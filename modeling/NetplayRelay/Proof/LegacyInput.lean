import NetplayRelay.Proof.Histories

/-!
# Legacy input, one frame or many

A legacy batch is checked frame by frame against the room as it was when the batch came in and
against cursors of its own, which replace the room's when the last frame has passed. Frames sent one
at a time are checked against the room each of them finds. The two agree because a frame is judged
by nothing of the room that accepting a frame changes, the cursors apart.

They differ in one case: a batch without frames is still refused on a socket that is no player's,
while there is no single frame to refuse.
-/

namespace NetplayRelay.Proof

open Lib Protocol Rooms Registry NetplayRoom

/-- The frames of a batch sent one at a time, until one of them is refused. -/
def acceptOneByOne (r : NetplayRoom) (c : ConnectionId) :
    List InputCursor → Outcome (List InputFrameAcceptance)
  | [] => (.ok [], r)
  | input :: inputs =>
    match r.acceptInputFrame c input with
    | (.error error, r) => (.error error, r)
    | (.ok acceptance, r) =>
      match acceptOneByOne r c inputs with
      | (.error error, r) => (.error error, r)
      | (.ok acceptances, r) => (.ok (acceptance :: acceptances), r)

/-- The room with the cursors of a batch in progress. -/
def withStage (r : NetplayRoom) (staged : InputFrameCursorStage) : NetplayRoom :=
  { r with
    lastInputFrames := staged.lastInputFrames
    nextInputFrames := staged.nextInputFrames }

variable {r : NetplayRoom} {c : ConnectionId} {owned : PlayerIndex}

section

variable (hmode : r.session.mode = .controllerNetplay)
  (howned : r.playerIndexForInputConnection c = some owned)

include hmode howned

/-- A batch of a player's socket is staged frame by frame. -/
theorem acceptInputFrameCursors_owned (staged : InputFrameCursorStage)
    (inputs : List InputCursor) : (withStage r staged).acceptInputFrameCursors c inputs
      = match r.stageInputFrameCursors owned staged inputs with
        | .error error => (.error error, withStage r staged)
        | .ok (acceptances, staged') => (.ok acceptances, withStage r staged') := by
  have hmode' : (withStage r staged).session.mode = .controllerNetplay := hmode
  have howned' : (withStage r staged).playerIndexForInputConnection c = some owned := howned
  -- the stage is all that a frame is checked against and that a batch changes
  have hstage : ∀ (inputs : List InputCursor) (s : InputFrameCursorStage),
      (withStage r staged).stageInputFrameCursors owned s inputs
        = r.stageInputFrameCursors owned s inputs := by
    intro inputs
    induction inputs with
    | nil => exact fun _ => rfl
    | cons input inputs ih =>
      intro s
      rw [stageInputFrameCursors, stageInputFrameCursors]
      have hone : (withStage r staged).stageInputFrameCursor owned s input
          = r.stageInputFrameCursor owned s input := rfl
      rw [hone]
      cases r.stageInputFrameCursor owned s input with
      | error error => rfl
      | ok result =>
        obtain ⟨acceptance, s'⟩ := result
        dsimp only
        rw [ih s']
  unfold acceptInputFrameCursors
  rw [if_neg (by simp [hmode']), howned']
  dsimp only
  rw [hstage]
  rfl

theorem acceptInputFrame_owned (staged : InputFrameCursorStage) (input : InputCursor) :
    (withStage r staged).acceptInputFrame c input
      = match r.stageInputFrameCursor owned staged input with
        | .error error => (.error error, withStage r staged)
        | .ok (acceptance, staged') => (.ok acceptance, withStage r staged') := by
  unfold acceptInputFrame
  rw [acceptInputFrameCursors_owned hmode howned, stageInputFrameCursors]
  cases r.stageInputFrameCursor owned staged input with
  | error error => rfl
  | ok result => rfl

/-- Frames that pass one at a time pass as a batch, and the first frame that fails alone is the one
the batch fails with. -/
theorem acceptOneByOne_owned (inputs : List InputCursor) (staged : InputFrameCursorStage) :
    match r.stageInputFrameCursors owned staged inputs with
    | .error error => (acceptOneByOne (withStage r staged) c inputs).1 = .error error
    | .ok (acceptances, staged') =>
      acceptOneByOne (withStage r staged) c inputs = (.ok acceptances, withStage r staged') := by
  induction inputs generalizing staged with
  | nil => rfl
  | cons input inputs ih =>
    rw [stageInputFrameCursors, acceptOneByOne, acceptInputFrame_owned hmode howned]
    cases r.stageInputFrameCursor owned staged input with
    | error error => rfl
    | ok result =>
      obtain ⟨acceptance, staged'⟩ := result
      have hrest := ih staged'
      dsimp only
      cases hstaged : r.stageInputFrameCursors owned staged' inputs with
      | error error =>
        rw [hstaged] at hrest
        dsimp only at hrest ⊢
        generalize acceptOneByOne (withStage r staged') c inputs = outcome at hrest
        obtain ⟨result, room⟩ := outcome
        obtain rfl : result = .error error := hrest
        rfl
      | ok result =>
        rw [hstaged] at hrest
        dsimp only at hrest ⊢
        rw [hrest]

end

/-- A socket that is no player's is refused before the first frame is looked at. -/
theorem acceptInputFrameCursors_unowned (hmode : r.session.mode = .controllerNetplay)
    (hnone : r.playerIndexForInputConnection c = none) (inputs : List InputCursor) :
    r.acceptInputFrameCursors c inputs = (.error .unknownConnection, r) := by
  unfold acceptInputFrameCursors
  rw [if_neg (by simp [hmode]), hnone]

/-- **A batch is its frames.** If every frame passes one at a time the batch has the same answers
and leaves the same room; otherwise it fails with the error of the first frame that fails and leaves
the room as it was. -/
theorem batch_eq_oneByOne (hmode : r.session.mode = .controllerNetplay) (inputs : List InputCursor)
    (howned : inputs = [] → (r.playerIndexForInputConnection c).isSome) :
    (∀ acceptances r', acceptOneByOne r c inputs = (.ok acceptances, r') →
      r.acceptInputFrameCursors c inputs = (.ok acceptances, r'))
    ∧ (∀ error r', acceptOneByOne r c inputs = (.error error, r') →
      r.acceptInputFrameCursors c inputs = (.error error, r)) := by
  cases hplayer : r.playerIndexForInputConnection c with
  | none =>
      have hbatch := acceptInputFrameCursors_unowned hmode hplayer inputs
      cases inputs with
      | nil =>
          have hsome := howned rfl
          rw [hplayer] at hsome
          exact absurd hsome (by simp)
      | cons input inputs =>
          have hone : acceptOneByOne r c (input :: inputs) = (.error .unknownConnection, r) := by
            rw [acceptOneByOne, acceptInputFrame, acceptInputFrameCursors_unowned hmode hplayer]
          rw [hone, hbatch]
          refine ⟨fun acceptances r' h => absurd h (by simp), fun error r' h => ?_⟩
          obtain ⟨herror, _⟩ := Prod.mk.inj h
          rw [herror]
  | some owned =>
      have hbatch := acceptInputFrameCursors_owned hmode hplayer
        ⟨r.lastInputFrames, r.nextInputFrames⟩ inputs
      have hone := acceptOneByOne_owned hmode hplayer inputs
        ⟨r.lastInputFrames, r.nextInputFrames⟩
      have hroom : withStage r ⟨r.lastInputFrames, r.nextInputFrames⟩ = r := rfl
      rw [hroom] at hbatch hone
      rw [hbatch]
      cases hstaged :
        r.stageInputFrameCursors owned ⟨r.lastInputFrames, r.nextInputFrames⟩ inputs with
      | error error =>
          rw [hstaged] at hone
          dsimp only at hone ⊢
          refine ⟨fun acceptances r' h => ?_, fun error' r' h => ?_⟩
          · rw [h] at hone
            exact absurd hone (by simp)
          · rw [h] at hone
            rw [Except.error.inj hone]
      | ok result =>
          rw [hstaged] at hone
          dsimp only at hone ⊢
          rw [hone]
          exact ⟨fun acceptances r' h => h, fun error r' h => absurd h (by simp)⟩

/-- A session under way between two legacy clients. -/
def legacyRoom : StoredRoom := after sampleRelay (sampleRoom 4) (seating false ++ handshake 4 0)

/-- The host's frames 0, 2 and 1: the last one is too old by then. -/
theorem batch_eq_oneByOne_sample : Reachable sampleRelay legacyRoom
    ∧ (legacyRoom.room.acceptInputFrameCursors hostInput
      [⟨.one, 0⟩, ⟨.one, 2⟩, ⟨.one, 1⟩]).1.toOption
      = some [.relay, .relay, .ignore] := by
  refine ⟨reachable_after (by decide +kernel), ?_⟩
  have hall :
      (acceptOneByOne legacyRoom.room hostInput [⟨.one, 0⟩, ⟨.one, 2⟩, ⟨.one, 1⟩]).1.toOption
      = some [.relay, .relay, .ignore] := by
    decide +kernel
  generalize hone : acceptOneByOne legacyRoom.room hostInput [⟨.one, 0⟩, ⟨.one, 2⟩, ⟨.one, 1⟩]
    = outcome at hall
  obtain ⟨result, room⟩ := outcome
  cases result with
  | error error => exact absurd hall (by simp [Except.toOption])
  | ok acceptances =>
      rw [(batch_eq_oneByOne (by decide +kernel) _ (by simp)).1 _ _ hone]
      exact hall

/-- A batch without frames on a socket nobody holds is refused, although no frame is. -/
theorem emptyBatch_refused : Reachable sampleRelay legacyRoom
    ∧ legacyRoom.room.session.mode = .controllerNetplay
    ∧ (acceptOneByOne legacyRoom.room newSocket []).1.isOk
    ∧ (legacyRoom.room.acceptInputFrameCursors newSocket []).1.isOk = false :=
  ⟨reachable_after (by decide +kernel), by decide +kernel⟩

end NetplayRelay.Proof
