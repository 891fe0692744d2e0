import NetplayRelay.Proof.Codecs
import NetplayRelay.Sdk.InputBatch

/-!
# The bytes of the legacy input lane and what they mean

As for version 5, each reader is described by the bytes it accepts. What is new is that fields vary
in length, so the loops move an offset along: what a loop returns is what it leaves behind it.

Both `SBI1` codecs of the client libraries and the relay's own are compared through one relation,
`LegacySpells`: a string spells a batch. Each encoder returns a string that spells its batch, each
decoder the batch that its string spells, and they differ only in the numbers they take.
-/

namespace NetplayRelay.Proof

open Lib Protocol Rooms Sdk

variable {payload bytes : Bytes} {offset : Nat} {p : PlayerIndex}
  {frame roomEpoch sessionEpoch room count : Nat} {input : Bytes} {record : FastInputFrame}
  {records : List FastInputFrame} {u : Unit}

theorem decodePlayerIndex_eq_ok {byte : UInt8} :
    decodePlayerIndex byte = .ok p
      ↔ p.zeroBased < mvpRoomCapacity ∧ byte = UInt8.ofNat p.zeroBased := by
  unfold decodePlayerIndex PlayerIndex.new
  constructor
  · intro h
    by_cases hin : byte.toNat < mvpRoomCapacity
    · simp only [if_pos hin] at h
      obtain rfl := Except.ok.inj h
      exact ⟨hin, UInt8.ofNat_toNat.symm⟩
    · simp only [if_neg hin] at h
      exact absurd h (by simp)
  · rintro ⟨hin, rfl⟩
    have hback : (UInt8.ofNat p.zeroBased).toNat = p.zeroBased := by
      rw [UInt8.toNat_ofNat']
      rw [mvpRoomCapacity] at hin
      omega
    simp only [hback, if_pos hin]

theorem length_frameBytes (frame : Nat) (input : Bytes) :
    (frameBytes frame input).length = inputFrameHeaderBytes + input.length := by
  rw [frameBytes, List.length_append, List.length_append, length_toBeBytes, length_toBeBytes,
    inputFrameHeaderBytes]
  omega

/-- A frame stands at the offset: its number, the length of its payload and the payload. -/
theorem partAt_frameBytes :
    PartAt bytes offset (frameBytes frame input)
      ↔ PartAt bytes offset (toBeBytes 8 frame)
        ∧ PartAt bytes (offset + 8) (toBeBytes 2 input.length)
        ∧ PartAt bytes (offset + 10) input := by
  rw [frameBytes, partAt_append, partAt_append, length_toBeBytes, length_toBeBytes]

/-! ## Records that stand on their own -/

/-- The record fits its types and carries its own bytes. -/
structure FastFits (record : FastInputFrame) : Prop where
  roomEpoch : record.roomEpoch ≤ u64Max
  sessionEpoch : record.sessionEpoch ≤ u64Max
  frame : record.frame ≤ u64Max
  playerIndex : record.playerIndex.zeroBased < mvpRoomCapacity
  payload : record.payload.length ≤ maxInputPayloadBytes
  encoded : record.encoded = fastInputBytes record.roomEpoch record.sessionEpoch record.playerIndex
    record.frame record.payload

theorem length_fastInputBytes (roomEpoch sessionEpoch : Nat) (p : PlayerIndex) (frame : Nat)
    (input : Bytes) : (fastInputBytes roomEpoch sessionEpoch p frame input).length
      = fastInputRecordHeaderBytes + input.length := by
  rw [fastInputBytes, List.length_append, length_frameBytes]
  simp only [writeHeader, fastInputMagic, List.cons_append, List.nil_append, List.flatten_cons,
    List.flatten_nil, List.length_append, List.length_cons, List.length_nil, length_toBeBytes,
    fastInputRecordHeaderBytes, inputFrameHeaderBytes]
  omega

/-- A record stands at the offset, field by field. -/
theorem partAt_fastInputBytes (h : offset + fastInputRecordHeaderBytes ≤ bytes.length) :
    PartAt bytes offset (fastInputBytes roomEpoch sessionEpoch p frame input)
      ↔ (slice bytes offset 4 = fastInputMagic ∧ bytes.getD (offset + 4) 0 = fastInputType)
        ∧ PartAt bytes (offset + 5) (toBeBytes 8 roomEpoch)
        ∧ PartAt bytes (offset + 13) (toBeBytes 8 sessionEpoch)
        ∧ bytes.getD (offset + 21) 0 = UInt8.ofNat p.zeroBased
        ∧ PartAt bytes (offset + 22) (toBeBytes 8 frame)
        ∧ PartAt bytes (offset + 30) (toBeBytes 2 input.length)
        ∧ PartAt bytes (offset + fastInputRecordHeaderBytes) input := by
  have hheader : fastInputRecordHeaderBytes = 32 := rfl
  rw [hheader] at h ⊢
  have hmagic : PartAt bytes offset fastInputMagic ↔ slice bytes offset 4 = fastInputMagic := .rfl
  have hfields : fastInputBytes roomEpoch sessionEpoch p frame input
      = fastInputMagic ++ ([fastInputType] ++ (toBeBytes 8 roomEpoch ++ (toBeBytes 8 sessionEpoch
        ++ ([UInt8.ofNat p.zeroBased] ++ frameBytes frame input)))) := by
    simp [fastInputBytes, writeHeader]
  rw [hfields]
  simp only [partAt_append, partAt_frameBytes, length_toBeBytes, List.length_singleton, hmagic,
    show fastInputMagic.length = 4 from rfl, Nat.add_assoc, Nat.reduceAdd]
  rw [partAt_singleton (by omega), partAt_singleton (by omega), and_assoc]

/-- A record is longer than its header. -/
theorem FastFits.length (h : FastFits record) :
    record.encoded.length = fastInputRecordHeaderBytes + record.payload.length := by
  rw [h.encoded, length_fastInputBytes]

/-- Where nothing is left there are no records. -/
theorem nil_of_flatten (h : ∀ record ∈ records, FastFits record)
    (hnil : (records.map (·.encoded)).flatten = []) : records = [] := by
  cases records with
  | nil => rfl
  | cons record records =>
    have hlength := (h record List.mem_cons_self).length
    rw [List.map_cons, List.flatten_cons, List.append_eq_nil_iff] at hnil
    rw [hnil.1, List.length_nil, fastInputRecordHeaderBytes] at hlength
    omega

theorem decodeFastInputFrames_done (h : ¬offset < payload.length) (room : Nat) :
    decodeFastInputFrames payload room offset = .ok [] := by
  cases room with
  | zero | succ room => rw [decodeFastInputFrames, if_neg h]

theorem decodeFastInputFrames_end (h : ¬offset < payload.length) :
    decodeFastInputFrames payload room offset = .ok records
      ↔ records.length ≤ room ∧ (∀ record ∈ records, FastFits record)
        ∧ payload.drop offset = (records.map (·.encoded)).flatten := by
  rw [decodeFastInputFrames_done h, List.drop_eq_nil_of_le (Nat.le_of_not_lt h), Except.ok.injEq]
  constructor
  · rintro rfl
    exact ⟨Nat.zero_le _, by simp, rfl⟩
  · rintro ⟨_, hfits, hnil⟩
    exact (nil_of_flatten hfits hnil.symm).symm

/-- One round of the loop takes one record. -/
theorem decodeFastInputFrames_round (hleft : offset < payload.length) :
    decodeFastInputFrames payload (room + 1) offset = .ok records
      ↔ ∃ record rest, records = record :: rest ∧ FastFits record
        ∧ PartAt payload offset record.encoded
        ∧ decodeFastInputFrames payload room (offset + record.encoded.length) = .ok rest := by
  rw [decodeFastInputFrames, if_pos hleft]
  simp only [bind_eq_ok, checked_eq_ok, exists_const, readBe_eq_ok Nat.two_pos,
    readBe_eq_ok (show 0 < 8 by decide), decodePlayerIndex_eq_ok, takeBytes_eq_ok, pure,
    Except.pure, Except.ok.injEq]
  constructor
  · rintro ⟨hheader, hmagic, roomEpoch, ⟨hroom, hroom'⟩, sessionEpoch, ⟨hsession, hsession'⟩, p,
      ⟨hp, hp'⟩, frame, ⟨hframe, hframe'⟩, _, ⟨hlen, hlen'⟩, input, ⟨rfl, hinput⟩, rest, hrest, rfl⟩
    have hthere : offset + fastInputRecordHeaderBytes ≤ payload.length := by
      rw [fastInputRecordHeaderBytes] at hheader ⊢
      omega
    have hat : PartAt payload offset (fastInputBytes roomEpoch sessionEpoch p frame input) :=
      (partAt_fastInputBytes hthere).mpr ⟨hmagic, hroom', hsession', hp', hframe', hlen', hinput⟩
    have hend : offset + fastInputRecordHeaderBytes + input.length
        = offset + (fastInputBytes roomEpoch sessionEpoch p frame input).length := by
      rw [length_fastInputBytes, Nat.add_assoc]
    have hencoded :
        slice payload offset (offset + fastInputRecordHeaderBytes + input.length - offset)
        = fastInputBytes roomEpoch sessionEpoch p frame input := by
      rw [hend, Nat.add_sub_cancel_left]
      exact hat
    rw [hend] at hrest
    rw [hencoded]
    refine ⟨_, rest, rfl, ⟨?_, ?_, ?_, hp, ?_, rfl⟩, hat, hrest⟩
    · exact Nat.le_of_lt_succ hroom
    · exact Nat.le_of_lt_succ hsession
    · exact Nat.le_of_lt_succ hframe
    · exact Nat.le_of_lt_succ hlen
  · rintro ⟨⟨roomEpoch, sessionEpoch, p, frame, input, encoded⟩, rest, rfl, hfits, hat, hrest⟩
    obtain ⟨hroom, hsession, hframe, hp, hlen, hencoded⟩ := hfits
    dsimp only at hroom hsession hframe hp hlen hencoded hat hrest
    subst hencoded
    have hlength := length_fastInputBytes roomEpoch sessionEpoch p frame input
    have hwhole := hat.le (by
      intro hnil
      rw [hnil, List.length_nil, fastInputRecordHeaderBytes] at hlength
      omega)
    have hthere : offset + fastInputRecordHeaderBytes ≤ payload.length := by omega
    obtain ⟨hmagic, hroom', hsession', hp', hframe', hlen', hinput⟩ :=
      (partAt_fastInputBytes hthere).mp hat
    rw [hlength, ← Nat.add_assoc] at hrest
    refine ⟨by omega, hmagic, roomEpoch, ⟨Nat.lt_succ_of_le hroom, hroom'⟩, sessionEpoch,
      ⟨Nat.lt_succ_of_le hsession, hsession'⟩, p, ⟨hp, hp'⟩, frame,
      ⟨Nat.lt_succ_of_le hframe, hframe'⟩, _, ⟨Nat.lt_succ_of_le hlen, hlen'⟩, input,
      ⟨rfl, hinput⟩, rest, hrest, ?_⟩
    rw [Nat.add_assoc, Nat.add_sub_cancel_left, ← hlength]
    simp only [List.cons.injEq, FastInputFrame.mk.injEq, and_true, true_and]
    exact hat

/-- What the loop returns is what stands from its offset on. -/
theorem decodeFastInputFrames_eq_ok :
    decodeFastInputFrames payload room offset = .ok records
      ↔ records.length ≤ room ∧ (∀ record ∈ records, FastFits record)
        ∧ payload.drop offset = (records.map (·.encoded)).flatten := by
  induction room generalizing offset records with
  | zero =>
    by_cases hleft : offset < payload.length
    · rw [decodeFastInputFrames, if_pos hleft]
      simp only [bind_eq_ok, reduceCtorEq, and_false, exists_false, false_iff]
      rintro ⟨hnone, _, hrest⟩
      rw [List.length_eq_zero_iff.mp (Nat.le_zero.mp hnone), List.map_nil, List.flatten_nil,
        List.drop_eq_nil_iff] at hrest
      omega
    · exact decodeFastInputFrames_end hleft
  | succ room ih =>
    by_cases hleft : offset < payload.length
    · rw [decodeFastInputFrames_round hleft]
      constructor
      · rintro ⟨record, rest, rfl, hfits, hat, hrest⟩
        obtain ⟨hcount, hothers, hdrop⟩ := ih.mp hrest
        refine ⟨Nat.succ_le_succ hcount, List.forall_mem_cons.mpr ⟨hfits, hothers⟩, ?_⟩
        exact drop_eq_append_iff.mpr ⟨hat, hdrop⟩
      · rintro ⟨hcount, hfits, hdrop⟩
        cases records with
        | nil => exact absurd (List.drop_eq_nil_iff.mp hdrop) (by omega)
        | cons record rest =>
          obtain ⟨hat, hothers⟩ := drop_eq_append_iff.mp hdrop
          obtain ⟨hfits, hrest⟩ := List.forall_mem_cons.mp hfits
          exact ⟨record, rest, rfl, hfits, hat,
            ih.mpr ⟨Nat.le_of_succ_le_succ hcount, hrest, hothers⟩⟩
    · exact decodeFastInputFrames_end hleft

theorem decodeFastInputBatch_eq_ok {batch : FastInputBatch} :
    decodeFastInputBatch bytes = .ok batch
      ↔ bytes.length ≤ maxInputBatchBytes ∧ batch.frames ≠ []
        ∧ batch.frames.length ≤ maxInputBatchFrames ∧ (∀ record ∈ batch.frames, FastFits record)
        ∧ bytes = (batch.frames.map (·.encoded)).flatten := by
  simp only [decodeFastInputBatch, bind_eq_ok, checked_eq_ok, exists_const,
    decodeFastInputFrames_eq_ok, List.drop_zero, pure, Except.pure, Except.ok.injEq]
  constructor
  · rintro ⟨hsize, frames, ⟨hcount, hfits, hbytes⟩, hsome, rfl⟩
    exact ⟨hsize, hsome, hcount, hfits, hbytes⟩
  · rintro ⟨hsize, hsome, hcount, hfits, hbytes⟩
    exact ⟨hsize, batch.frames, ⟨hcount, hfits, hbytes⟩, hsome, rfl⟩

theorem encodeFastInputFrame_eq_ok :
    encodeFastInputFrame roomEpoch sessionEpoch p frame input = .ok bytes
      ↔ input.length ≤ maxInputPayloadBytes ∧ bytes.length ≤ maxInputBatchBytes
        ∧ bytes = fastInputBytes roomEpoch sessionEpoch p frame input := by
  simp only [encodeFastInputFrame, bind_eq_ok, checked_eq_ok, exists_const, pure, Except.pure,
    Except.ok.injEq]
  constructor
  · rintro ⟨hinput, hsize, rfl⟩
    exact ⟨hinput, hsize, rfl⟩
  · rintro ⟨hinput, hsize, rfl⟩
    exact ⟨hinput, hsize, rfl⟩

/-- The encoder's record: the numbers fit their types, the player is one of the two of a room, and
the stored bytes are its encoding. -/
def FastEncodes (record : FastInputFrame) : Prop :=
  record.roomEpoch ≤ u64Max ∧ record.sessionEpoch ≤ u64Max ∧ record.frame ≤ u64Max
    ∧ record.playerIndex.zeroBased < mvpRoomCapacity
    ∧ encodeFastInputFrame record.roomEpoch record.sessionEpoch record.playerIndex record.frame
      record.payload = .ok record.encoded

theorem FastEncodes.fits (h : FastEncodes record) : FastFits record := by
  obtain ⟨hroom, hsession, hframe, hp, hencoded⟩ := h
  obtain ⟨hinput, _, hbytes⟩ := encodeFastInputFrame_eq_ok.mp hencoded
  exact ⟨hroom, hsession, hframe, hp, hinput, hbytes⟩

/-- A record of an accepted message is no longer than the message. -/
theorem FastFits.encodes {record : FastInputFrame} (h : FastFits record)
    (hsize : record.encoded.length ≤ maxInputBatchBytes) : FastEncodes record :=
  ⟨h.roomEpoch, h.sessionEpoch, h.frame, h.playerIndex,
    encodeFastInputFrame_eq_ok.mpr ⟨h.payload, hsize, h.encoded⟩⟩

theorem length_encoded_le (h : record ∈ records) :
    record.encoded.length ≤ (records.map (·.encoded)).flatten.length := by
  obtain ⟨front, back, rfl⟩ := List.append_of_mem h
  simp only [List.map_append, List.map_cons, List.flatten_append, List.flatten_cons,
    List.length_append]
  omega

/-- **The decoder of self-contained records is exact on streams.** One to four records are read from
their encodings put together, each with its own bytes; and whatever is accepted is its records'
bytes put together, each of which decodes and encodes to its record alone. -/
theorem fast_input_stream_exact :
    (∀ records : List FastInputFrame, 1 ≤ records.length → records.length ≤ 4 →
      (∀ record ∈ records, FastEncodes record) →
      (records.map (·.encoded)).flatten.length ≤ 8192 →
      decodeFastInputBatch (records.map (·.encoded)).flatten = .ok ⟨records⟩)
    ∧ ∀ bytes batch, decodeFastInputBatch bytes = .ok batch →
      (batch.frames.map (·.encoded)).flatten = bytes
        ∧ ∀ record ∈ batch.frames, decodeFastInputBatch record.encoded = .ok ⟨[record]⟩
          ∧ encodeFastInputFrame record.roomEpoch record.sessionEpoch record.playerIndex
            record.frame
            record.payload = .ok record.encoded := by
  constructor
  · intro records hsome hcount hencodes hsize
    refine decodeFastInputBatch_eq_ok.mpr ⟨hsize, ?_, hcount, fun record hrecord => ?_, rfl⟩
    · exact List.ne_nil_of_length_pos hsome
    · exact (hencodes record hrecord).fits
  · intro bytes batch hbatch
    obtain ⟨hsize, _, _, hfits, rfl⟩ := decodeFastInputBatch_eq_ok.mp hbatch
    refine ⟨rfl, fun record hrecord => ?_⟩
    have hone : record.encoded.length ≤ maxInputBatchBytes :=
      Nat.le_trans (length_encoded_le hrecord) hsize
    have hrecord := hfits record hrecord
    refine ⟨decodeFastInputBatch_eq_ok.mpr ⟨hone, by simp, by simp [maxInputBatchFrames], ?_, ?_⟩,
      (hrecord.encodes hone).2.2.2.2⟩
    · intro other hother
      rw [List.mem_singleton.mp hother]
      exact hrecord
    · simp

/-- Records of two players, of which one is still in the old session. -/
theorem fast_input_stream_exact_pair :
    let records : List FastInputFrame :=
      [⟨1, 1, ⟨0⟩, 5, [7], fastInputBytes 1 1 ⟨0⟩ 5 [7]⟩,
       ⟨1, 2, ⟨1⟩, 0, [], fastInputBytes 1 2 ⟨1⟩ 0 []⟩]
    decodeFastInputBatch (records.map (·.encoded)).flatten = .ok ⟨records⟩ := by
  refine fast_input_stream_exact.1 _ (by decide) (by decide) ?_ (by decide)
  intro record hrecord
  rcases List.mem_pair.mp hrecord with rfl | rfl
  · exact ⟨by decide, by decide, by decide, by decide, by decide +kernel⟩
  · exact ⟨by decide, by decide, by decide, by decide, by decide +kernel⟩

/-- The encoder takes a player that no room has; the decoder does not. -/
theorem fast_input_third_player :
    ∃ bytes, encodeFastInputFrame 1 1 ⟨2⟩ 0 [] = .ok bytes ∧ bytes.length ≤ 8192
      ∧ decodeFastInputBatch bytes = .error .invalidPlayerIndex :=
  ⟨fastInputBytes 1 1 ⟨2⟩ 0 [], by decide +kernel⟩

/-! ## Batches -/

/-- The frame is the player's and fits the wire. -/
def FrameFits (p : PlayerIndex) (input : InputFrame) : Prop :=
  input.playerIndex = p ∧ input.frame ≤ u64Max ∧ input.payload.length ≤ maxInputPayloadBytes

/-- The batch fits the wire. -/
structure LegacyFits (batch : InputFrameBatch) : Prop where
  roomEpoch : batch.roomEpoch ≤ u64Max
  sessionEpoch : batch.sessionEpoch ≤ u64Max
  playerIndex : batch.playerIndex.zeroBased ≤ 255
  some : batch.frames ≠ []
  count : batch.frames.length ≤ maxInputBatchFrames
  frames : ∀ input ∈ batch.frames, FrameFits batch.playerIndex input

/-- The string spells the batch. -/
structure LegacySpells (batch : InputFrameBatch) (bytes : Bytes) : Prop where
  fits : LegacyFits batch
  spelled : bytes = legacyBatchBytes batch
  size : bytes.length ≤ maxInputBatchBytes

/-- The frames of a batch, one after the other. -/
def framesBytes (frames : List InputFrame) : Bytes :=
  (frames.map fun input => frameBytes input.frame input.payload).flatten

theorem framesBytes_cons (input : InputFrame) (frames : List InputFrame) :
    framesBytes (input :: frames) = frameBytes input.frame input.payload ++ framesBytes frames := by
  rw [framesBytes, List.map_cons, List.flatten_cons, framesBytes]

theorem length_legacyBatchHeader (roomEpoch sessionEpoch playerByte frameCount : Nat) :
    (legacyBatchHeader roomEpoch sessionEpoch playerByte frameCount).length
      = legacyBatchHeaderBytes := by
  simp only [legacyBatchHeader, writeHeader, legacyBatchMagic, List.cons_append, List.nil_append,
    List.flatten_cons, List.flatten_nil, List.length_append, List.length_cons, List.length_nil,
    length_toBeBytes, legacyBatchHeaderBytes]

/-- A batch is its header, field by field, and its frames. -/
theorem legacyBatchBytes_iff {batch : InputFrameBatch}
    (h : bytes.length = legacyBatchHeaderBytes + (framesBytes batch.frames).length) :
    bytes = legacyBatchBytes batch
      ↔ ((slice bytes 0 4 = legacyBatchMagic ∧ bytes.getD 4 0 = legacyBatchType)
          ∧ PartAt bytes 5 (toBeBytes 8 batch.roomEpoch)
          ∧ PartAt bytes 13 (toBeBytes 8 batch.sessionEpoch)
          ∧ bytes.getD 21 0 = UInt8.ofNat batch.playerIndex.zeroBased
          ∧ bytes.getD 22 0 = UInt8.ofNat batch.frames.length)
        ∧ PartAt bytes legacyBatchHeaderBytes (framesBytes batch.frames) := by
  have hwhole : bytes.length = (legacyBatchHeader batch.roomEpoch batch.sessionEpoch
      batch.playerIndex.zeroBased batch.frames.length ++ framesBytes batch.frames).length := by
    rw [List.length_append, length_legacyBatchHeader, h]
  have hheader : legacyBatchHeaderBytes = 23 := rfl
  have hmagic : PartAt bytes 0 legacyBatchMagic ↔ slice bytes 0 4 = legacyBatchMagic := .rfl
  have hfields : legacyBatchHeader batch.roomEpoch batch.sessionEpoch batch.playerIndex.zeroBased
      batch.frames.length = legacyBatchMagic ++ ([legacyBatchType] ++ (toBeBytes 8 batch.roomEpoch
        ++ (toBeBytes 8 batch.sessionEpoch ++ ([UInt8.ofNat batch.playerIndex.zeroBased]
          ++ [UInt8.ofNat batch.frames.length])))) := by
    simp [legacyBatchHeader, writeHeader]
  rw [legacyBatchBytes, ← framesBytes, ← partAt_zero_iff hwhole, partAt_append,
    length_legacyBatchHeader, Nat.zero_add, hfields]
  simp only [partAt_append, length_toBeBytes, List.length_singleton, hmagic,
    show legacyBatchMagic.length = 4 from rfl, Nat.reduceAdd]
  rw [partAt_singleton (by omega), partAt_singleton (by omega), partAt_singleton (by omega)]
  simp only [and_assoc]

theorem length_legacyBatchBytes (batch : InputFrameBatch) :
    (legacyBatchBytes batch).length
      = legacyBatchHeaderBytes + (framesBytes batch.frames).length := by
  rw [legacyBatchBytes, ← framesBytes, List.length_append, length_legacyBatchHeader]

/-- The frames stand at the offset: the first one, field by field, and then the others. -/
theorem partAt_framesBytes_cons {first : InputFrame} {rest : List InputFrame} {finish : Nat} :
    PartAt payload offset (framesBytes (first :: rest))
        ∧ finish = offset + (framesBytes (first :: rest)).length
      ↔ (PartAt payload offset (toBeBytes 8 first.frame)
          ∧ PartAt payload (offset + 8) (toBeBytes 2 first.payload.length)
          ∧ PartAt payload (offset + 10) first.payload)
        ∧ PartAt payload (offset + 10 + first.payload.length) (framesBytes rest)
        ∧ finish = offset + 10 + first.payload.length + (framesBytes rest).length := by
  simp only [framesBytes_cons, partAt_append, partAt_frameBytes, List.length_append,
    length_frameBytes, show inputFrameHeaderBytes = 10 from rfl, and_assoc, Nat.add_assoc]

/-- A frame is there only if there is room for its header. -/
theorem frameHeader_le (h : PartAt payload (offset + 8) (toBeBytes 2 count)) :
    inputFrameHeaderBytes ≤ payload.length - offset := by
  have hlength := length_toBeBytes 2 count
  have hle := h.le (List.ne_nil_of_length_pos (by omega))
  rw [inputFrameHeaderBytes]
  omega

/-- What the loop returns stands from its offset on, up to where it ended. -/
theorem decodeInputFrames_eq_ok {finish : Nat} {frames : List InputFrame} :
    decodeInputFrames payload p count offset = .ok (frames, finish)
      ↔ frames.length = count ∧ (∀ input ∈ frames, FrameFits p input)
        ∧ PartAt payload offset (framesBytes frames)
        ∧ finish = offset + (framesBytes frames).length := by
  induction count generalizing offset finish frames with
  | zero =>
    rw [decodeInputFrames, Except.ok.injEq, Prod.mk.injEq]
    constructor
    · rintro ⟨rfl, rfl⟩
      exact ⟨rfl, by simp, partAt_nil, rfl⟩
    · rintro ⟨hnil, _, _, rfl⟩
      obtain rfl := List.length_eq_zero_iff.mp hnil
      exact ⟨rfl, rfl⟩
  | succ count ih =>
    rw [decodeInputFrames]
    simp only [bind_eq_ok, checked_eq_ok, exists_const, readBe_eq_ok Nat.two_pos,
      readBe_eq_ok (show 0 < 8 by decide), takeBytes_eq_ok, Prod.exists, ih, pure, Except.pure,
      Except.ok.injEq, Prod.mk.injEq]
    constructor
    · rintro ⟨_, frame, ⟨hframe, hframe'⟩, _, ⟨hlen, hlen'⟩, input, ⟨rfl, hinput⟩, rest, _,
        ⟨hcount, hrest, hrest', rfl⟩, rfl, rfl⟩
      refine ⟨congrArg _ hcount, List.forall_mem_cons.mpr ⟨⟨rfl, ?_, ?_⟩, hrest⟩, ?_⟩
      · exact Nat.le_of_lt_succ hframe
      · exact Nat.le_of_lt_succ hlen
      · exact partAt_framesBytes_cons.mpr ⟨⟨hframe', hlen', hinput⟩, hrest', rfl⟩
    · rintro ⟨hcount, hfits, hat⟩
      cases frames with
      | nil => exact absurd hcount (by simp)
      | cons input rest =>
        obtain ⟨⟨rfl, hframe, hlen⟩, hrest⟩ := List.forall_mem_cons.mp hfits
        obtain ⟨⟨hframe', hlen', hinput⟩, hat'⟩ := partAt_framesBytes_cons.mp hat
        exact ⟨frameHeader_le hlen', input.frame, ⟨Nat.lt_succ_of_le hframe, hframe'⟩, _,
          ⟨Nat.lt_succ_of_le hlen, hlen'⟩, input.payload, ⟨rfl, hinput⟩, rest, finish,
          ⟨Nat.succ.inj hcount, hrest, hat'⟩, rfl, rfl⟩

theorem encodeInputFrameBatch_eq_ok {batch : InputFrameBatch} :
    encodeInputFrameBatch batch = .ok bytes
      ↔ batch.frames ≠ [] ∧ batch.frames.length ≤ maxInputBatchFrames
        ∧ (∀ input ∈ batch.frames, input.playerIndex = batch.playerIndex
          ∧ input.payload.length ≤ maxInputPayloadBytes)
        ∧ bytes.length ≤ maxInputBatchBytes ∧ bytes = legacyBatchBytes batch := by
  simp only [encodeInputFrameBatch, bind_eq_ok, checked_eq_ok, exists_const, pure, Except.pure,
    Except.ok.injEq]
  constructor
  · rintro ⟨hsome, hcount, hframes, hsize, rfl⟩
    exact ⟨hsome, hcount, hframes, hsize, rfl⟩
  · rintro ⟨hsome, hcount, hframes, hsize, rfl⟩
    exact ⟨hsome, hcount, hframes, hsize, rfl⟩

/-- The count byte of a batch of at most four frames. -/
theorem countByte (h : count ≤ maxInputBatchFrames) : (UInt8.ofNat count).toNat = count := by
  rw [UInt8.toNat_ofNat']
  rw [maxInputBatchFrames] at h
  omega

theorem decodeInputFrameBatch_eq_ok {batch : InputFrameBatch} :
    decodeInputFrameBatch bytes = .ok batch
      ↔ batch.playerIndex.zeroBased < mvpRoomCapacity ∧ LegacySpells batch bytes := by
  simp only [decodeInputFrameBatch, bind_eq_ok, checked_eq_ok, exists_const,
    readBe_eq_ok (show 0 < 8 by decide), decodePlayerIndex_eq_ok, Prod.exists,
    decodeInputFrames_eq_ok, pure, Except.pure, Except.ok.injEq]
  constructor
  · rintro ⟨⟨hsize, hheader⟩, hmagic, roomEpoch, ⟨hroom, hroom'⟩, sessionEpoch,
      ⟨hsession, hsession'⟩, p, ⟨hp, hp'⟩, hsome, hmany, frames, _, ⟨hcount, hframes, hat, rfl⟩,
      hend, rfl⟩
    refine ⟨hp, ⟨⟨Nat.le_of_lt_succ hroom, Nat.le_of_lt_succ hsession, ?_, ?_, ?_, hframes⟩, ?_,
      hsize⟩⟩
    · rw [mvpRoomCapacity] at hp
      dsimp only
      omega
    · have hpos : 0 < frames.length := by omega
      exact List.ne_nil_of_length_pos hpos
    · exact hcount ▸ hmany
    refine (legacyBatchBytes_iff hend.symm).mpr ⟨⟨hmagic, hroom', hsession', hp', ?_⟩, hat⟩
    dsimp only
    rw [hcount, UInt8.ofNat_toNat]
  · rintro ⟨hp, hfits, hbytes, hsize⟩
    have hlength : bytes.length = legacyBatchHeaderBytes + (framesBytes batch.frames).length := by
      rw [hbytes, length_legacyBatchBytes]
    have hthere : legacyBatchHeaderBytes ≤ bytes.length := by omega
    obtain ⟨⟨hmagic, hroom, hsession, hp', hcount⟩, hat⟩ := (legacyBatchBytes_iff hlength).mp hbytes
    have hframes : (bytes.getD 22 0).toNat = batch.frames.length := by
      rw [hcount, countByte hfits.count]
    rw [hframes]
    refine ⟨⟨hsize, hthere⟩, hmagic, _, ⟨Nat.lt_succ_of_le hfits.roomEpoch, hroom⟩, _,
      ⟨Nat.lt_succ_of_le hfits.sessionEpoch, hsession⟩, _, ⟨hp, hp'⟩, ?_, hfits.count, _, _,
      ⟨rfl, hfits.frames, hat, rfl⟩, hlength.symm, rfl⟩
    exact fun hnil => hfits.some (List.length_eq_zero_iff.mp hnil)

/-! ## The client libraries -/

def sdkPayload (payload : Bytes) : List Int := payload.map fun byte => (byte.toNat : Int)

def sdkFrame (input : InputFrame) : SdkInputFrame :=
  ⟨input.playerIndex.zeroBased, input.frame, sdkPayload input.payload⟩

/-- The batch as the client libraries have it. -/
def sdkBatch (batch : InputFrameBatch) : SdkInputBatch :=
  ⟨batch.roomEpoch, batch.sessionEpoch, batch.playerIndex.zeroBased, batch.frames.map sdkFrame⟩

/-- The library takes the numbers of the batch. -/
structure Holdable (codec : NetplayInputBatchCodec) (batch : InputFrameBatch) : Prop where
  roomEpoch : (batch.roomEpoch : Int) ≤ codec.maxInteger
  sessionEpoch : (batch.sessionEpoch : Int) ≤ codec.maxInteger
  frames : ∀ input ∈ batch.frames, (input.frame : Int) ≤ codec.maxInteger

variable {codec : NetplayInputBatchCodec} {batch : InputFrameBatch} {sdk : SdkInputBatch}

@[simp] theorem length_sdkPayload (input : Bytes) : (sdkPayload input).length = input.length :=
  List.length_map _

theorem payloadBytes_sdkPayload (input : Bytes) : payloadBytes (sdkPayload input) = input := by
  rw [payloadBytes, sdkPayload, List.map_map]
  refine (List.map_congr_left fun byte _ => ?_).trans (List.map_id' input)
  rw [Function.comp_apply, Int.toNat_natCast, UInt8.ofNat_toNat]

theorem sdkPayload_payloadBytes {input : List Int} (h : ∀ value ∈ input, 0 ≤ value ∧ value ≤ 255) :
    sdkPayload (payloadBytes input) = input := by
  rw [payloadBytes, sdkPayload, List.map_map]
  refine (List.map_congr_left fun value hvalue => ?_).trans (List.map_id' input)
  have hbyte := h value hvalue
  rw [Function.comp_apply, UInt8.toNat_ofNat']
  omega

theorem validateFrame_eq_ok {playerIndex : Int} {input : SdkInputFrame} :
    codec.validateFrame playerIndex input = .ok u
      ↔ (0 ≤ input.frame ∧ input.frame ≤ codec.maxInteger) ∧ input.playerIndex = playerIndex
        ∧ input.payload.length ≤ maxInputPayloadBytes
        ∧ ∀ value ∈ input.payload, 0 ≤ value ∧ value ≤ 255 := by
  simp only [NetplayInputBatchCodec.validateFrame, NetplayInputBatchCodec.assertInteger,
    NetplayInputBatchCodec.assertByte, bind_eq_ok, checked_eq_ok, exists_const, forM_eq_ok]

/-- A frame that passes the library's checks is one of the wire. -/
theorem sdkFrame_of_valid {input : SdkInputFrame}
    (h : codec.validateFrame p.zeroBased input = .ok u) (hmax : codec.maxInteger ≤ u64Max) :
    ∃ wire, input = sdkFrame wire ∧ FrameFits p wire ∧ (wire.frame : Int) ≤ codec.maxInteger := by
  obtain ⟨hframe, hp, hlen, hbytes⟩ := validateFrame_eq_ok.mp h
  obtain ⟨player, frame, input⟩ := input
  dsimp only at hframe hp hlen hbytes
  refine ⟨⟨p, frame.toNat, payloadBytes input⟩, ?_, ⟨rfl, ?_, ?_⟩, ?_⟩
  · rw [sdkFrame, sdkPayload_payloadBytes hbytes, hp]
    dsimp only
    rw [Int.toNat_of_nonneg hframe.1]
  · dsimp only
    omega
  · rw [payloadBytes, List.length_map]
    exact hlen
  · dsimp only
    rw [Int.toNat_of_nonneg hframe.1]
    exact hframe.2

theorem valid_sdkFrame {wire : InputFrame} (h : FrameFits p wire)
    (hmax : (wire.frame : Int) ≤ codec.maxInteger) :
    codec.validateFrame p.zeroBased (sdkFrame wire) = .ok () := by
  obtain ⟨rfl, _, hlen⟩ := h
  refine validateFrame_eq_ok.mpr ⟨⟨Int.natCast_nonneg _, hmax⟩, rfl, ?_, ?_⟩
  · rw [sdkFrame, length_sdkPayload]
    exact hlen
  intro value hvalue
  obtain ⟨byte, _, rfl⟩ := List.mem_map.mp hvalue
  have hbyte := byte.toNat_lt
  omega

theorem framesBytes_sdk (frames : List InputFrame) :
    ((frames.map sdkFrame).map fun input =>
      frameBytes input.frame.toNat (payloadBytes input.payload)).flatten = framesBytes frames := by
  rw [framesBytes, List.map_map]
  congr 1
  refine List.map_congr_left fun wire _ => ?_
  rw [Function.comp_apply, sdkFrame, payloadBytes_sdkPayload, Int.toNat_natCast]

theorem totalBytes_sdk (batch : InputFrameBatch) :
    NetplayInputBatchCodec.totalBytes (sdkBatch batch) = (legacyBatchBytes batch).length := by
  rw [NetplayInputBatchCodec.totalBytes, length_legacyBatchBytes, sdkBatch]
  congr 1
  induction batch.frames with
  | nil => rfl
  | cons wire frames ih =>
    rw [framesBytes_cons, List.length_append, length_frameBytes, ← ih, List.map_cons,
      List.map_cons, List.sum_cons, sdkFrame, length_sdkPayload]

theorem sdkFrames_of_valid {frames : List SdkInputFrame}
    (h : ∀ input ∈ frames, codec.validateFrame p.zeroBased input = .ok u)
    (hmax : codec.maxInteger ≤ u64Max) :
    ∃ wires : List InputFrame, frames = wires.map sdkFrame ∧ (∀ wire ∈ wires, FrameFits p wire)
      ∧ ∀ wire ∈ wires, (wire.frame : Int) ≤ codec.maxInteger := by
  induction frames with
  | nil => exact ⟨[], rfl, by simp, by simp⟩
  | cons input frames ih =>
    obtain ⟨hinput, hrest⟩ := List.forall_mem_cons.mp h
    obtain ⟨wire, rfl, hfits, hheld⟩ := sdkFrame_of_valid hinput hmax
    obtain ⟨wires, rfl, hallFit, hallHeld⟩ := ih hrest
    exact ⟨wire :: wires, rfl, List.forall_mem_cons.mpr ⟨hfits, hallFit⟩,
      List.forall_mem_cons.mpr ⟨hheld, hallHeld⟩⟩

/-- **The library's encoder writes what spells the batch.** -/
theorem sdkEncode_eq_ok (hmax : codec.maxInteger ≤ u64Max) :
    codec.encode sdk = .ok bytes
      ↔ ∃ batch, sdk = sdkBatch batch ∧ LegacySpells batch bytes ∧ Holdable codec batch := by
  simp only [NetplayInputBatchCodec.encode, NetplayInputBatchCodec.validateBatch,
    NetplayInputBatchCodec.assertInteger, NetplayInputBatchCodec.assertByte, bind_eq_ok,
    checked_eq_ok, exists_const, forM_eq_ok, pure, Except.pure, Except.ok.injEq]
  constructor
  · rintro ⟨_, ⟨hroom, hsession, hp, hsome, hcount, hframes⟩, hsize, rfl⟩
    obtain ⟨roomEpoch, sessionEpoch, player, frames⟩ := sdk
    dsimp only at hroom hsession hp hsome hcount hframes hsize ⊢
    lift roomEpoch to Nat using hroom.1
    lift sessionEpoch to Nat using hsession.1
    lift player to Nat using hp.1
    obtain ⟨wires, rfl, hfits, hheld⟩ := sdkFrames_of_valid (p := ⟨player⟩) hframes hmax
    have hspelled : legacyBatchHeader roomEpoch sessionEpoch player (wires.map sdkFrame).length
        ++ ((wires.map sdkFrame).map fun input =>
          frameBytes input.frame.toNat (payloadBytes input.payload)).flatten
        = legacyBatchBytes ⟨roomEpoch, sessionEpoch, ⟨player⟩, wires⟩ := by
      rw [framesBytes_sdk, List.length_map]
      rfl
    have htotal := totalBytes_sdk ⟨roomEpoch, sessionEpoch, ⟨player⟩, wires⟩
    rw [List.length_map] at hcount
    refine ⟨⟨roomEpoch, sessionEpoch, ⟨player⟩, wires⟩, rfl,
      ⟨⟨?_, ?_, ?_, ?_, hcount, hfits⟩, ?_, ?_⟩,
      ⟨hroom.2, hsession.2, hheld⟩⟩
    · dsimp only
      omega
    · dsimp only
      omega
    · dsimp only
      omega
    · exact fun hnil => hsome (congrArg (List.map sdkFrame) hnil)
    · exact hspelled
    · rw [Int.toNat_natCast, Int.toNat_natCast, Int.toNat_natCast, hspelled, ← htotal]
      exact hsize
  · rintro ⟨batch, rfl, ⟨hfits, rfl, hsize⟩, hroom, hsession, hheld⟩
    refine ⟨(), ⟨⟨Int.natCast_nonneg _, hroom⟩, ⟨Int.natCast_nonneg _, hsession⟩,
      ⟨Int.natCast_nonneg _, ?_⟩, ?_, ?_, ?_⟩, ?_, ?_⟩
    · have hp := hfits.playerIndex
      rw [sdkBatch]
      dsimp only
      omega
    · rw [sdkBatch]
      exact fun hnil => hfits.some (List.map_eq_nil_iff.mp hnil)
    · rw [sdkBatch, List.length_map]
      exact hfits.count
    · intro input hinput
      obtain ⟨wire, hwire, rfl⟩ := List.mem_map.mp hinput
      exact valid_sdkFrame (hfits.frames wire hwire) (hheld wire hwire)
    · rw [totalBytes_sdk]
      exact hsize
    · rw [sdkBatch, framesBytes_sdk, List.length_map]
      rfl

theorem readInteger_eq_ok {value : Int} :
    codec.readInteger payload offset = .ok value
      ↔ ∃ n : Nat, value = n ∧ n ≤ u64Max ∧ (n : Int) ≤ codec.maxInteger
        ∧ PartAt payload offset (toBeBytes 8 n) := by
  simp only [NetplayInputBatchCodec.readInteger, bind_eq_ok, checked_eq_ok, exists_const,
    readBe_eq_ok (show 0 < 8 by decide), pure, Except.pure, Except.ok.injEq]
  constructor
  · rintro ⟨n, ⟨hn, hat⟩, hmax, rfl⟩
    exact ⟨n, rfl, Nat.le_of_lt_succ hn, hmax, hat⟩
  · rintro ⟨n, rfl, hn, hmax, hat⟩
    exact ⟨n, ⟨Nat.lt_succ_of_le hn, hat⟩, hmax, rfl⟩

/-- The library's loop returns what the relay's does, if it can hold it. -/
theorem decodeFrames_eq_ok {finish : Nat} {frames : List SdkInputFrame} :
    codec.decodeFrames payload p.zeroBased count offset = .ok (frames, finish)
      ↔ ∃ wires : List InputFrame, frames = wires.map sdkFrame ∧ wires.length = count
        ∧ (∀ wire ∈ wires, FrameFits p wire)
        ∧ (∀ wire ∈ wires, (wire.frame : Int) ≤ codec.maxInteger)
        ∧ PartAt payload offset (framesBytes wires)
        ∧ finish = offset + (framesBytes wires).length := by
  induction count generalizing offset finish frames with
  | zero =>
    rw [NetplayInputBatchCodec.decodeFrames, Except.ok.injEq, Prod.mk.injEq]
    constructor
    · rintro ⟨rfl, rfl⟩
      exact ⟨[], rfl, rfl, by simp, by simp, partAt_nil, rfl⟩
    · rintro ⟨wires, rfl, hnil, _, _, _, rfl⟩
      obtain rfl := List.length_eq_zero_iff.mp hnil
      exact ⟨rfl, rfl⟩
  | succ count ih =>
    rw [NetplayInputBatchCodec.decodeFrames]
    simp only [bind_eq_ok, checked_eq_ok, exists_const, readBe_eq_ok Nat.two_pos,
      readInteger_eq_ok, takeBytes_eq_ok, Prod.exists, ih, pure, Except.pure, Except.ok.injEq,
      Prod.mk.injEq]
    constructor
    · rintro ⟨_, _, ⟨frame, rfl, hframe, hheld, hframe'⟩, _, ⟨hlen, hlen'⟩, input, ⟨rfl, hinput⟩,
        _, _, ⟨wires, rfl, hcount, hfits, hallHeld, hat', rfl⟩, rfl, rfl⟩
      refine ⟨⟨p, frame, input⟩ :: wires, rfl, congrArg _ hcount,
        List.forall_mem_cons.mpr ⟨⟨rfl, hframe, Nat.le_of_lt_succ hlen⟩, hfits⟩,
        List.forall_mem_cons.mpr ⟨hheld, hallHeld⟩, ?_⟩
      exact partAt_framesBytes_cons.mpr ⟨⟨hframe', hlen', hinput⟩, hat', rfl⟩
    · rintro ⟨wires, rfl, hcount, hfits, hheld, hat⟩
      cases wires with
      | nil => exact absurd hcount (by simp)
      | cons wire rest =>
        obtain ⟨⟨rfl, hframe, hlen⟩, hrest⟩ := List.forall_mem_cons.mp hfits
        obtain ⟨hheld, hrestHeld⟩ := List.forall_mem_cons.mp hheld
        obtain ⟨⟨hframe', hlen', hinput⟩, hat'⟩ := partAt_framesBytes_cons.mp hat
        exact ⟨frameHeader_le hlen', wire.frame, ⟨wire.frame, rfl, hframe, hheld, hframe'⟩, _,
          ⟨Nat.lt_succ_of_le hlen, hlen'⟩, wire.payload, ⟨rfl, hinput⟩, rest.map sdkFrame,
          finish, ⟨rest, rfl, Nat.succ.inj hcount, hrest, hrestHeld, hat'⟩, rfl, rfl⟩

/-- **The library's decoder returns what the string spells.** -/
theorem sdkDecode_eq_ok :
    codec.decode bytes = .ok sdk
      ↔ ∃ batch, sdk = sdkBatch batch ∧ LegacySpells batch bytes ∧ Holdable codec batch := by
  have hplayer : ∀ byte : UInt8, ((byte.toNat : Nat) : Int)
      = ((⟨byte.toNat⟩ : PlayerIndex).zeroBased : Int) := fun _ => rfl
  simp only [NetplayInputBatchCodec.decode, bind_eq_ok, checked_eq_ok, exists_const,
    readInteger_eq_ok, Prod.exists, pure, Except.pure, Except.ok.injEq]
  constructor
  · rintro ⟨⟨hheader, hsize⟩, hmagic, _, ⟨roomEpoch, rfl, hroom, hroomHeld, hroom'⟩, _,
      ⟨sessionEpoch, rfl, hsession, hsessionHeld, hsession'⟩, hsome, hmany, frames, finish, hloop,
      hend, rfl⟩
    rw [hplayer, decodeFrames_eq_ok] at hloop
    obtain ⟨wires, rfl, hcount, hfits, hheld, hat, hfinish⟩ := hloop
    have hpos : 0 < wires.length := by omega
    refine ⟨⟨roomEpoch, sessionEpoch, ⟨(bytes.getD 21 0).toNat⟩, wires⟩, rfl,
      ⟨⟨hroom, hsession, ?_, List.ne_nil_of_length_pos hpos, hcount ▸ hmany, hfits⟩, ?_, hsize⟩,
      ⟨hroomHeld, hsessionHeld, hheld⟩⟩
    · exact Nat.le_of_lt_succ (UInt8.toNat_lt _)
    refine (legacyBatchBytes_iff (hend.symm.trans hfinish)).mpr
      ⟨⟨hmagic, hroom', hsession', ?_, ?_⟩, hat⟩
    · exact UInt8.ofNat_toNat.symm
    · dsimp only
      rw [hcount, UInt8.ofNat_toNat]
  · rintro ⟨batch, rfl, ⟨hfits, hbytes, hsize⟩, hroomHeld, hsessionHeld, hheld⟩
    have hlength : bytes.length = legacyBatchHeaderBytes + (framesBytes batch.frames).length := by
      rw [hbytes, length_legacyBatchBytes]
    have hthere : legacyBatchHeaderBytes ≤ bytes.length := by omega
    obtain ⟨⟨hmagic, hroom, hsession, hp, hcount⟩, hat⟩ := (legacyBatchBytes_iff hlength).mp hbytes
    have hframes : (bytes.getD 22 0).toNat = batch.frames.length := by
      rw [hcount, countByte hfits.count]
    have hp : (bytes.getD 21 0).toNat = batch.playerIndex.zeroBased := by
      have hbyte := hfits.playerIndex
      rw [hp, UInt8.toNat_ofNat']
      omega
    rw [hframes, hp]
    refine ⟨⟨hthere, hsize⟩, hmagic, _, ⟨_, rfl, hfits.roomEpoch, hroomHeld, hroom⟩, _,
      ⟨_, rfl, hfits.sessionEpoch, hsessionHeld, hsession⟩, ?_, hfits.count,
      batch.frames.map sdkFrame, bytes.length, ?_, rfl, rfl⟩
    · exact List.length_pos_iff.mpr hfits.some
    · exact decodeFrames_eq_ok.mpr ⟨batch.frames, rfl, rfl, hfits.frames, hheld, hat, hlength⟩

/-! ## The three codecs -/

/-- A player of a room, and numbers that every platform can hold. -/
structure SafeBatch (batch : InputFrameBatch) : Prop where
  playerIndex : batch.playerIndex.zeroBased < 2
  roomEpoch : batch.roomEpoch ≤ maxSafeInteger
  sessionEpoch : batch.sessionEpoch ≤ maxSafeInteger
  frames : ∀ input ∈ batch.frames, input.frame ≤ maxSafeInteger

/-- The same for the client libraries. -/
def SafeSdkBatch (sdk : SdkInputBatch) : Prop :=
  sdk.playerIndex < 2 ∧ sdk.roomEpoch ≤ maxSafeInteger ∧ sdk.sessionEpoch ≤ maxSafeInteger
    ∧ ∀ input ∈ sdk.frames, input.frame ≤ maxSafeInteger

/-- All three decoders return the batch. -/
def AllDecode (bytes : Bytes) (batch : InputFrameBatch) : Prop :=
  decodeInputFrameBatch bytes = .ok batch ∧ typescriptCodec.decode bytes = .ok (sdkBatch batch)
    ∧ kotlinCodec.decode bytes = .ok (sdkBatch batch)

theorem maxSafeInteger_le_kotlin : (maxSafeInteger : Int) ≤ kotlinCodec.maxInteger := by decide

theorem SafeBatch.typescript (h : SafeBatch batch) : Holdable typescriptCodec batch :=
  ⟨Int.ofNat_le.mpr h.roomEpoch, Int.ofNat_le.mpr h.sessionEpoch,
    fun input hinput => Int.ofNat_le.mpr (h.frames input hinput)⟩

theorem SafeBatch.kotlin (h : SafeBatch batch) : Holdable kotlinCodec batch := by
  have hmax := maxSafeInteger_le_kotlin
  refine ⟨(h.typescript.roomEpoch).trans hmax, (h.typescript.sessionEpoch).trans hmax, ?_⟩
  exact fun input hinput => (h.typescript.frames input hinput).trans hmax

/-- What spells a safe batch is decoded by all. -/
theorem LegacySpells.allDecode (h : LegacySpells batch bytes) (hsafe : SafeBatch batch) :
    AllDecode bytes batch :=
  ⟨decodeInputFrameBatch_eq_ok.mpr ⟨hsafe.playerIndex, h⟩,
    sdkDecode_eq_ok.mpr ⟨batch, rfl, h, hsafe.typescript⟩,
    sdkDecode_eq_ok.mpr ⟨batch, rfl, h, hsafe.kotlin⟩⟩

theorem SafeBatch.spells (h : SafeBatch batch) (hbytes : encodeInputFrameBatch batch = .ok bytes) :
    LegacySpells batch bytes := by
  obtain ⟨hsome, hcount, hframes, hsize, hspelled⟩ := encodeInputFrameBatch_eq_ok.mp hbytes
  have hmax : maxSafeInteger ≤ u64Max := by decide
  refine ⟨⟨h.roomEpoch.trans hmax, h.sessionEpoch.trans hmax, ?_, hsome, hcount, ?_⟩, hspelled,
    hsize⟩
  · exact Nat.le_of_lt (Nat.lt_of_lt_of_le h.playerIndex (by decide))
  · intro input hinput
    exact ⟨(hframes input hinput).1, (h.frames input hinput).trans hmax, (hframes input hinput).2⟩

theorem SafeSdkBatch.safe (h : SafeSdkBatch (sdkBatch batch)) : SafeBatch batch := by
  obtain ⟨hp, hroom, hsession, hframes⟩ := h
  refine ⟨Int.ofNat_lt.mp hp, Int.ofNat_le.mp hroom, Int.ofNat_le.mp hsession, ?_⟩
  exact fun input hinput => Int.ofNat_le.mp (hframes (sdkFrame input) (List.mem_map_of_mem hinput))

theorem maxInteger_le {codec : NetplayInputBatchCodec}
    (h : codec ∈ [typescriptCodec, kotlinCodec]) : codec.maxInteger ≤ u64Max := by
  rcases List.mem_pair.mp h with rfl | rfl
  · decide
  · decide

/-- A library accepts a string of safe values exactly if the relay does. -/
theorem sdkDecode_isOk_iff {codec : NetplayInputBatchCodec}
    (hheld : ∀ batch, SafeBatch batch → Holdable codec batch)
    (hsafe : ∀ batch, LegacyFits batch → bytes = legacyBatchBytes batch → SafeBatch batch) :
    (codec.decode bytes).isOk ↔ (decodeInputFrameBatch bytes).isOk := by
  constructor
  · intro hok
    cases hdecoded : codec.decode bytes with
    | error error =>
      rw [hdecoded] at hok
      exact absurd hok (by simp [Except.isOk, Except.toBool])
    | ok sdk =>
      obtain ⟨batch, _, hspells, _⟩ := sdkDecode_eq_ok.mp hdecoded
      have hbatch := hsafe batch hspells.fits hspells.spelled
      rw [decodeInputFrameBatch_eq_ok.mpr ⟨hbatch.playerIndex, hspells⟩]
      rfl
  · intro hok
    cases hdecoded : decodeInputFrameBatch bytes with
    | error error =>
      rw [hdecoded] at hok
      exact absurd hok (by simp [Except.isOk, Except.toBool])
    | ok batch =>
      obtain ⟨_, hspells⟩ := decodeInputFrameBatch_eq_ok.mp hdecoded
      have hbatch := hsafe batch hspells.fits hspells.spelled
      rw [sdkDecode_eq_ok.mpr ⟨batch, rfl, hspells, hheld batch hbatch⟩]
      rfl

/-- One frame of a batch is no longer than the batch. -/
theorem length_framesBytes_le {input : InputFrame} {frames : List InputFrame} (h : input ∈ frames) :
    (framesBytes [input]).length ≤ (framesBytes frames).length := by
  obtain ⟨front, back, rfl⟩ := List.append_of_mem h
  simp only [framesBytes, List.map_append, List.map_cons, List.map_nil, List.flatten_append,
    List.flatten_cons, List.flatten_nil, List.length_append, List.length_nil]
  omega

/-- **The three codecs of the legacy lane agree.** On the values that all platforms can hold: what
one of the encoders writes all three decode to the same batch, and the decoders accept the same
strings. What is accepted is encoded to the same string again, and each frame of it can be relayed
alone. -/
theorem legacy_codecs_agree :
    (∀ batch bytes, SafeBatch batch → encodeInputFrameBatch batch = .ok bytes →
      AllDecode bytes batch)
    ∧ (∀ codec ∈ [typescriptCodec, kotlinCodec], ∀ sdk bytes, SafeSdkBatch sdk →
      codec.encode sdk = .ok bytes → ∃ batch, sdk = sdkBatch batch ∧ AllDecode bytes batch)
    ∧ (∀ bytes, (∀ batch, LegacyFits batch → bytes = legacyBatchBytes batch → SafeBatch batch) →
      ((typescriptCodec.decode bytes).isOk ↔ (decodeInputFrameBatch bytes).isOk)
        ∧ ((kotlinCodec.decode bytes).isOk ↔ (decodeInputFrameBatch bytes).isOk))
    ∧ (∀ bytes batch, decodeInputFrameBatch bytes = .ok batch →
      encodeInputFrameBatch batch = .ok bytes)
    ∧ (∀ codec ∈ [typescriptCodec, kotlinCodec], ∀ bytes sdk, codec.decode bytes = .ok sdk →
      codec.encode sdk = .ok bytes)
    ∧ ∀ bytes batch, decodeInputFrameBatch bytes = .ok batch →
      ∀ input ∈ batch.frames, ∀ roomEpoch sessionEpoch,
        (encodeInputFrameBatch ⟨roomEpoch, sessionEpoch, batch.playerIndex, [input]⟩).isOk := by
  have hreencode : ∀ {bytes batch}, LegacySpells batch bytes →
      encodeInputFrameBatch batch = .ok bytes := by
    intro bytes batch h
    refine encodeInputFrameBatch_eq_ok.mpr ⟨h.fits.some, h.fits.count, ?_, h.size, h.spelled⟩
    exact fun input hinput => ⟨(h.fits.frames input hinput).1, (h.fits.frames input hinput).2.2⟩
  refine ⟨?_, ?_, ?_, ?_, ?_, ?_⟩
  · intro batch bytes hsafe hbytes
    exact (hsafe.spells hbytes).allDecode hsafe
  · intro codec hcodec sdk bytes hsafe hbytes
    obtain ⟨batch, rfl, hspells, _⟩ := (sdkEncode_eq_ok (maxInteger_le hcodec)).mp hbytes
    exact ⟨batch, rfl, hspells.allDecode hsafe.safe⟩
  · intro bytes hsafe
    exact ⟨sdkDecode_isOk_iff (fun _ => SafeBatch.typescript) hsafe,
      sdkDecode_isOk_iff (fun _ => SafeBatch.kotlin) hsafe⟩
  · intro bytes batch hbatch
    exact hreencode (decodeInputFrameBatch_eq_ok.mp hbatch).2
  · intro codec hcodec bytes sdk hsdk
    exact (sdkEncode_eq_ok (maxInteger_le hcodec)).mpr (sdkDecode_eq_ok.mp hsdk)
  · intro bytes batch hbatch input hinput roomEpoch sessionEpoch
    obtain ⟨_, hspells⟩ := decodeInputFrameBatch_eq_ok.mp hbatch
    have hsize := hspells.size
    rw [hspells.spelled, length_legacyBatchBytes] at hsize
    have hframe := length_framesBytes_le hinput
    have hone : encodeInputFrameBatch ⟨roomEpoch, sessionEpoch, batch.playerIndex, [input]⟩
        = .ok (legacyBatchBytes ⟨roomEpoch, sessionEpoch, batch.playerIndex, [input]⟩) := by
      refine encodeInputFrameBatch_eq_ok.mpr ⟨by simp, by simp [maxInputBatchFrames], ?_, ?_, rfl⟩
      · intro other hother
        obtain rfl := List.mem_singleton.mp hother
        exact ⟨(hspells.fits.frames _ hinput).1, (hspells.fits.frames _ hinput).2.2⟩
      · rw [length_legacyBatchBytes]
        dsimp only
        omega
    rw [hone]
    rfl

/-- A batch of two frames goes through all three codecs. -/
theorem legacy_codecs_agree_pair :
    let batch : InputFrameBatch := ⟨1, 2, ⟨1⟩, [⟨⟨1⟩, 5, [7]⟩, ⟨⟨1⟩, 6, []⟩]⟩
    AllDecode (legacyBatchBytes batch) batch :=
  legacy_codecs_agree.1 _ _ ⟨by decide, by decide, by decide, by decide⟩ (by decide +kernel)

end NetplayRelay.Proof
