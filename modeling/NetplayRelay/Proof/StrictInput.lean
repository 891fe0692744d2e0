import NetplayRelay.Lib.Delivery
import NetplayRelay.Proof.Histories
import NetplayRelay.Proof.LaneCases

/-!
# Strict input is delivered once and in order

Clients send their input in batches that may overlap, repeat and arrive in any order. The room
trims each batch to the frames it has not seen and passes those on. From fresh cursors on, what is
passed on for one player is every frame from the start of the session to the player's cursor, once,
with the payload of the first batch that was acknowledged for it.
-/

namespace NetplayRelay.Proof

open Lib Protocol Rooms Registry

/-! ## What a run delivers -/

def batchOf (p : PlayerIndex) : RoomInputEvent → Option StrictInputBatch
  | .strictInputBatch _ batch => if batch.playerIndex = p then some batch else none
  | .serverFrameV5 _ => none

/-- The frames of a player that a call passes on, each with its payload. -/
def deliveredBy (relay : Relay) (p : PlayerIndex) (r : NetplayRoom) (op : RoomOp) :
    List (RetropadInputPayload × Nat) :=
  ((publishedBy relay r op).filterMap (batchOf p)).flatMap fun batch =>
    batch.payloads.zipIdx batch.startFrame

def isAcknowledged : Except RoomError StrictInputRelayOutcome → Bool
  | .ok ⟨.ack _, _, _, _⟩ => true
  | _ => false

/-- The batch of a player that a call acknowledges, as it came: its first frame and its payloads. -/
def acknowledgedBy (p : PlayerIndex) (r : NetplayRoom) :
    RoomOp → List (Nat × List RetropadInputPayload)
  | .relayStrictInputBatch c batch =>
    if batch.playerIndex = p ∧ isAcknowledged (relayStrictInputBatch r c batch).result then
      [(batch.startFrame, batch.payloads)]
    else []
  | _ => []

variable {relay : Relay} {r : NetplayRoom} {p : PlayerIndex} {op : RoomOp}

/-! ## One call -/

/-- A call acknowledges nothing of the player and leaves its cursor, or it acknowledges a batch
without a gap, passes on what is new of it and moves the cursor behind it. -/
def InputStep (relay : Relay) (p : PlayerIndex) (r : NetplayRoom) (op : RoomOp) : Prop :=
  (acknowledgedBy p r op = [] ∧ deliveredBy relay p r op = []
      ∧ (applyOp relay r op).expectedFrame p = r.expectedFrame p)
    ∨ ∃ start payloads, acknowledgedBy p r op = [(start, payloads)] ∧ start ≤ r.expectedFrame p
      ∧ deliveredBy relay p r op
        = (payloads.drop (r.expectedFrame p - start)).zipIdx (r.expectedFrame p)
      ∧ (applyOp relay r op).expectedFrame p
        = r.expectedFrame p + (payloads.drop (r.expectedFrame p - start)).length

theorem strictBatch_input {c : ConnectionId} {batch : StrictInputBatch} (hne : batch.payloads ≠ [])
    (p : PlayerIndex) : InputStep relay p r (.relayStrictInputBatch c batch) := by
  have hlength : 0 < batch.payloads.length := List.length_pos_iff.mpr hne
  have hrelayed := relayStrictInputBatch_relayed r c batch
  unfold InputStep acknowledgedBy deliveredBy publishedBy applyOp
  dsimp only
  generalize relayStrictInputBatch r c batch = out at hrelayed ⊢
  cases hrelayed with
  | @refused result h =>
    have hnot : isAcknowledged result = false := by
      unfold isAcknowledged
      split
      · exact absurd rfl (h _ _ rfl)
      · rfl
    refine .inl ⟨if_neg ?_, rfl, rfl⟩
    simp [hnot]
  | duplicate hold =>
    by_cases hp : batch.playerIndex = p
    · subst hp
      -- nothing of the batch is new
      have hnone :
          batch.payloads.drop (r.expectedFrame batch.playerIndex - batch.startFrame) = [] :=
        List.drop_eq_nil_of_le (by omega)
      refine .inr ⟨batch.startFrame, batch.payloads, if_pos ⟨rfl, rfl⟩, by omega, ?_, ?_⟩
      · rw [hnone]
        rfl
      · rw [hnone]
        rfl
    · exact .inl ⟨if_neg fun h => hp h.1, rfl, rfl⟩
  | accepted hbatch =>
    obtain ⟨_, _, hgap, hnew, _, _⟩ := hbatch
    by_cases hp : batch.playerIndex = p
    · subst hp
      refine .inr ⟨batch.startFrame, batch.payloads, if_pos ⟨rfl, rfl⟩, hgap, ?_, ?_⟩
      · simp [batchOf, batchFrom]
      · rw [expectedFrame_recordInput, if_pos rfl, List.length_drop]
        omega
    · refine .inl ⟨if_neg fun h => hp h.1, ?_, ?_⟩
      · simp [batchOf, batchFrom, hp]
      · rw [expectedFrame_recordInput, if_neg (Ne.symm hp)]

/-- The other calls of the lane leave all input alone. -/
theorem LaneEffect.noInput {events : List RoomInputEvent} {r' : NetplayRoom}
    (h : LaneEffect relay r op events r') (hop : ∀ c batch, op ≠ .relayStrictInputBatch c batch) :
    events.filterMap (batchOf p) = [] ∧ r'.expectedFrame p = r.expectedFrame p := by
  cases h with
  | accepted => exact absurd rfl (hop _ _)
  | _ => exact ⟨rfl, rfl⟩

/-- The start of the session does not move. -/
theorem LaneEffect.syncStartFrame {events : List RoomInputEvent} {r' : NetplayRoom}
    (h : LaneEffect relay r op events r') : r'.syncStartFrame = r.syncStartFrame := by
  cases h <;> rfl

theorem lane_input (h : isLane op) (hadmissible : Admissible r op) (p : PlayerIndex) :
    InputStep relay p r op := by
  cases op with
  | relayStrictInputBatch c batch =>
    exact strictBatch_input (by simpa [Admissible] using hadmissible) p
  | relayHostFrameOpen | releaseScheduledV5HostFrame | requestSessionPause =>
    obtain ⟨hevents, hcursor⟩ := (lane_effect relay r h).noInput (p := p) (by simp)
    exact .inl ⟨rfl, by rw [deliveredBy, hevents]; rfl, hcursor⟩
  | _ => exact absurd h (by simp [isLane])

/-! ## Whole runs -/

/-- What has been delivered of a player's input since the cursors were fresh. -/
structure Delivered (relay : Relay) (base : Nat) (p : PlayerIndex)
    (past : List (StoredRoom × RoomOp)) (s : StoredRoom) (log : List RetropadInputPayload) :
    Prop where
  start : s.room.syncStartFrame = base
  delivered : (past.flatMap fun visit => deliveredBy relay p visit.1.room visit.2) = log.zipIdx base
  first : FirstDelivered base
    (past.flatMap fun visit => acknowledgedBy p visit.1.room visit.2) log
  cursor : s.room.expectedFrame p = base + log.length

theorem delivered_step {base : Nat} {past : List (StoredRoom × RoomOp)} {s t : StoredRoom}
    (h : ∃ log, Delivered relay base p past s log) (hguard : isLane op ∧ Admissible s.room op)
    (hstep : s.step relay op = some t) :
    ∃ log, Delivered relay base p (past ++ [(s, op)]) t log := by
  obtain ⟨log, hlog⟩ := h
  have hroom := step_room hstep
  have hstart : t.room.syncStartFrame = base := by
    rw [hroom, (lane_effect relay s.room hguard.1).syncStartFrame, hlog.start]
  rcases lane_input hguard.1 hguard.2 p with
    ⟨hacked, hnone, hsame⟩ | ⟨start, payloads, hacked, hgap, hnew, hcursor⟩
  · refine ⟨log, hstart, ?_, ?_, ?_⟩
    · rw [List.flatMap_append, hlog.delivered, List.flatMap_singleton, hnone, List.append_nil]
    · rw [List.flatMap_append, List.flatMap_singleton, hacked, List.append_nil]
      exact hlog.first
    · rw [hroom, hsame, hlog.cursor]
  · rw [hlog.cursor] at hgap hnew hcursor
    refine ⟨log ++ payloads.drop (base + log.length - start), hstart, ?_, ?_, ?_⟩
    · rw [List.flatMap_append, hlog.delivered, List.flatMap_singleton, hnew, List.zipIdx_append]
    · rw [List.flatMap_append, List.flatMap_singleton, hacked]
      exact hlog.first.deliver hgap
    · rw [hroom, hcursor, List.length_append, Nat.add_assoc]

/-- **Strict input is delivered once and in order.** Start with fresh cursors and let batches of
both players, host opens, timers and pause requests come in any order. What is passed on for a
player is every frame from the start of the session to its cursor, once, with the payload of the
first batch that was acknowledged for it. Every acknowledgement carries the cursor after it, a
batch never touches the other player's cursor, and a batch of which nothing is passed on leaves the
room as it was. -/
theorem strictInput_deliveredInOrder {s : StoredRoom} {ops : List RoomOp}
    (hfresh : s.room.nextInputFrames = ∅)
    (hguarded : Guarded (StoredRoom.step relay) (fun s op => isLane op ∧ Admissible s.room op)
      s ops) :
    ∃ t, run (StoredRoom.step relay) s ops = some t
      ∧ (∀ p,
        let steps := visits (StoredRoom.step relay) s ops
        let delivered := steps.flatMap fun visit => deliveredBy relay p visit.1.room visit.2
        let acknowledged := steps.flatMap fun visit => acknowledgedBy p visit.1.room visit.2
        s.room.syncStartFrame ≤ t.room.expectedFrame p
          ∧ delivered.map (·.2) = List.range' s.room.syncStartFrame
            (t.room.expectedFrame p - s.room.syncStartFrame)
          ∧ ∀ payload frame, (payload, frame) ∈ delivered →
            acknowledged.findSome? (pieceAt frame) = some payload)
      ∧ ∀ visit ∈ visits (StoredRoom.step relay) s ops,
        ∀ c batch, visit.2 = .relayStrictInputBatch c batch →
          (∀ outcome ack, (relayStrictInputBatch visit.1.room c batch).result = .ok outcome →
            outcome.response = .ack ack →
            ack = ⟨visit.1.room.roomEpoch, visit.1.room.sessionEpoch, batch.playerIndex,
              (applyOp relay visit.1.room visit.2).expectedFrame batch.playerIndex⟩)
          ∧ (∀ q, q ≠ batch.playerIndex →
            (applyOp relay visit.1.room visit.2).nextInputFrames.lookup q
              = visit.1.room.nextInputFrames.lookup q)
          ∧ (publishedBy relay visit.1.room visit.2 = [] →
            applyOp relay visit.1.room visit.2 = visit.1.room) := by
  obtain ⟨t, ht⟩ := run_total (fun _ _ hop => by rw [lane_notRemoved hop.1]; rfl) hguarded
  refine ⟨t, ht, fun p => ?_, fun visit hvisit c batch hcall => ?_⟩
  · have hbegin : ∃ log, Delivered relay s.room.syncStartFrame p [] s log := by
      refine ⟨[], rfl, rfl, firstDelivered_nil, ?_⟩
      rw [NetplayRoom.expectedFrame, hfresh]
      rfl
    have hstep : ∀ past u op v, (∃ log, Delivered relay s.room.syncStartFrame p past u log) →
        isLane op ∧ Admissible u.room op → u.step relay op = some v →
        ∃ log, Delivered relay s.room.syncStartFrame p (past ++ [(u, op)]) v log :=
      fun _ _ _ _ => delivered_step
    obtain ⟨log, hlog⟩ := history_run hstep hguarded.history ht hbegin
    rw [List.nil_append] at hlog
    dsimp only
    rw [hlog.delivered, hlog.cursor]
    refine ⟨Nat.le_add_right _ _, ?_, fun payload frame hmem => ?_⟩
    · rw [Nat.add_sub_cancel_left]
      exact List.zipIdx_map_snd _ _
    · obtain ⟨hframe, hpayload⟩ := List.mk_mem_zipIdx_iff_le_and_getElem?_sub.mp hmem
      rw [← hpayload, ← hlog.first, Nat.add_sub_cancel' hframe]
  · have hrelayed := relayStrictInputBatch_relayed visit.1.room c batch
    rw [hcall]
    unfold publishedBy applyOp
    dsimp only
    generalize relayStrictInputBatch visit.1.room c batch = out at hrelayed ⊢
    cases hrelayed with
    | refused h => exact ⟨fun outcome ack ho hack => absurd hack (h outcome ack ho),
        fun _ _ => rfl, fun _ => rfl⟩
    | duplicate =>
        refine ⟨fun outcome ack ho hack => ?_, fun _ _ => rfl, fun _ => rfl⟩
        obtain rfl := Except.ok.inj ho
        exact (InputCursorResponse.ack.inj hack).symm
    | accepted =>
        refine ⟨fun outcome ack ho hack => ?_, fun q hq => AList.lookup_insert_ne hq, by simp⟩
        obtain rfl := Except.ok.inj ho
        rw [← InputCursorResponse.ack.inj hack, expectedFrame_recordInput, if_pos rfl]

/-- Overlapping, repeated and late batches of the host, with the guest's in between. -/
theorem strictInput_deliveredInOrder_playing :
    let ops : List RoomOp := [.relayStrictInputBatch hostInput (sampleBatch .one 1),
      .relayStrictInputBatch hostInput (sampleBatch .one 0),
      .relayStrictInputBatch guestInput (sampleBatch .two 0),
      .relayStrictInputBatch hostInput (sampleBatch .one 1),
      .relayStrictInputBatch hostInput (sampleBatch .one 0),
      .relayHostFrameOpen hostInput ⟨2, 2, 0⟩ 5]
    ((visits (StoredRoom.step sampleRelay) playingRoom ops).flatMap fun visit =>
        deliveredBy sampleRelay .one visit.1.room visit.2).map (·.2) = [0, 1, 2] := by
  intro ops
  have hfacts : playingRoom.room.nextInputFrames.entries = [] ∧ playingRoom.room.syncStartFrame = 0
      ∧ Guarded (StoredRoom.step sampleRelay) (fun s op => isLane op ∧ Admissible s.room op)
        playingRoom ops
      ∧ (run (StoredRoom.step sampleRelay) playingRoom ops).map (·.room.expectedFrame .one)
        = some 3 := by
    decide +kernel
  obtain ⟨hfresh, hstart, hguarded, hend⟩ := hfacts
  obtain ⟨t, ht, hdelivered, _⟩ := strictInput_deliveredInOrder (AList.ext hfresh) hguarded
  have hcursor : t.room.expectedFrame .one = 3 := by
    rw [ht] at hend
    exact Option.some.inj hend
  rw [(hdelivered .one).2.1, hstart, hcursor]
  rfl

end NetplayRelay.Proof
