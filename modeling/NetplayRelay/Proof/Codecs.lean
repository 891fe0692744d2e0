import NetplayRelay.Protocol.StrictCodec
import NetplayRelay.Proof.LaneCases
import NetplayRelay.Proof.Seats

/-!
# The bytes of the input lane and what they mean

Each reader of the codec is described by the bytes it accepts: it returns a value if and only if
the bytes at its offset are what the encoder writes for that value. A decoder that returns a
message has then read, field by field, the bytes of that message's encoding, and `eq_flatten_iff`
turns the list of fields into the whole string. So for every message kind the decoder returns a
message exactly when the string is the message's encoding, and both round trips and the
disjointness of the decoders follow from that one statement.
-/

namespace NetplayRelay.Proof

open Lib Protocol Rooms Registry NetplayRoom

variable {payload bytes : Bytes} {offset : Nat} {u : Unit} {batch : StrictInputBatch}
  {release : ServerFrameReleaseV5} {message : LaneMessage}

/-! ## What the readers accept -/

theorem readBe_slice {width n : Nat} {error : StrictInputCodecError} (hwidth : 0 < width) :
    readBe error width payload offset = .ok n
      ↔ n < 256 ^ width ∧ slice payload offset width = toBeBytes width n := by
  rw [readBe_eq_ok hwidth, PartAt, length_toBeBytes]

theorem readU64_eq_ok {n : Nat} :
    readU64 payload offset = .ok n ↔ n ≤ u64Max ∧ slice payload offset 8 = toBeBytes 8 n := by
  rw [readU64, readBe_slice (by decide), show (256 : Nat) ^ 8 = u64Max + 1 from rfl,
    Nat.lt_succ_iff]

theorem slice_one_iff {byte : UInt8} :
    slice payload offset 1 = [byte] ↔ payload[offset]? = some byte := by
  constructor
  · intro h
    have hthere : offset + 1 ≤ payload.length := le_of_length_slice (by decide) (by rw [h]; rfl)
    rw [slice_one hthere, List.getD_eq_getElem?_getD] at h
    rw [List.getElem?_eq_getElem hthere] at h ⊢
    exact congrArg some (List.cons.inj h).1
  · intro h
    obtain ⟨hthere, _⟩ := List.getElem?_eq_some_iff.mp h
    rw [slice_one hthere, List.getD_eq_getElem?_getD, h, Option.getD_some]

theorem readPlayerIndex_eq_ok {p : PlayerIndex} :
    readPlayerIndex payload offset = .ok p
      ↔ p.zeroBased < mvpRoomCapacity ∧ slice payload offset 1 = [UInt8.ofNat p.zeroBased] := by
  rw [slice_one_iff]
  unfold readPlayerIndex PlayerIndex.new
  constructor
  · intro h
    split at h
    · exact absurd h (by simp)
    rename_i byte hbyte
    by_cases hin : byte.toNat < mvpRoomCapacity
    · simp only [if_pos hin] at h
      obtain rfl := Except.ok.inj h
      exact ⟨hin, hbyte.trans (congrArg some UInt8.ofNat_toNat.symm)⟩
    · simp only [if_neg hin] at h
      exact absurd h (by simp)
  · rintro ⟨hin, hbyte⟩
    have hback : (UInt8.ofNat p.zeroBased).toNat = p.zeroBased := by
      rw [UInt8.toNat_ofNat']
      rw [mvpRoomCapacity] at hin
      omega
    simp only [hbyte, hback, if_pos hin]

theorem validateMessageHeader_eq_ok {minimumBytes : Nat} {magic : Bytes} {messageType : UInt8}
    (hminimum : 5 ≤ minimumBytes) :
    validateMessageHeader payload minimumBytes magic messageType = .ok u
      ↔ minimumBytes ≤ payload.length ∧ slice payload 0 4 = magic
        ∧ slice payload 4 1 = [messageType] := by
  unfold validateMessageHeader
  split
  · rename_i hshort
    simp only [reduceCtorEq, false_iff]
    omega
  · rename_i hlong
    rw [slice_one (by omega : 4 < payload.length)]
    simp only [ne_eq, ite_eq_right_iff, reduceCtorEq, imp_false, not_or, not_not, List.cons.injEq,
      and_true, Nat.le_of_not_lt hlong, true_and]

theorem validateExactMessageHeader_eq_ok {expectedBytes : Nat} {magic : Bytes} {messageType : UInt8}
    (hminimum : 5 ≤ expectedBytes) :
    validateExactMessageHeader payload expectedBytes magic messageType = .ok u
      ↔ payload.length = expectedBytes ∧ slice payload 0 4 = magic
        ∧ slice payload 4 1 = [messageType] := by
  unfold validateExactMessageHeader
  split
  · rename_i hlength
    simp only [reduceCtorEq, false_iff]
    exact fun h => hlength h.1
  · rename_i hlength
    rw [not_not] at hlength
    rw [validateMessageHeader_eq_ok hminimum, hlength]
    simp

/-! ## Messages -/

/-- A message of the input lane. -/
inductive LaneMessage
  | inputBatch (batch : StrictInputBatch)
  | cursorAck (ack : InputCursorAck)
  | cursorNack (nack : InputCursorNack)
  | hostOpen (frameOpen : HostFrameOpen)
  | frameRelease (release : ServerFrameReleaseV5)
deriving DecidableEq

/-- The numbers fit their machine types and the players are among the two of a room. -/
def LaneMessage.InRange : LaneMessage → Prop
  | .inputBatch batch =>
    batch.roomEpoch ≤ u64Max ∧ batch.sessionEpoch ≤ u64Max
      ∧ batch.playerIndex.zeroBased < mvpRoomCapacity ∧ batch.startFrame ≤ u64Max
  | .cursorAck ack =>
    ack.roomEpoch ≤ u64Max ∧ ack.sessionEpoch ≤ u64Max
      ∧ ack.playerIndex.zeroBased < mvpRoomCapacity ∧ ack.nextExpectedFrame ≤ u64Max
  | .cursorNack nack =>
    nack.roomEpoch ≤ u64Max ∧ nack.sessionEpoch ≤ u64Max
      ∧ nack.playerIndex.zeroBased < mvpRoomCapacity
      ∧ nack.expectedFrame ≤ u64Max ∧ nack.receivedFrame ≤ u64Max
  | .hostOpen frameOpen =>
    frameOpen.roomEpoch ≤ u64Max ∧ frameOpen.sessionEpoch ≤ u64Max ∧ frameOpen.frame ≤ u64Max
  | .frameRelease release =>
    release.roomEpoch ≤ u64Max ∧ release.sessionEpoch ≤ u64Max
      ∧ release.releasedFrame ≤ u64Max ∧ release.nextHostFrame ≤ u64Max
      ∧ ∀ cursor ∈ release.acceptedInputs,
        cursor.playerIndex.zeroBased < mvpRoomCapacity ∧ cursor.nextExpectedFrame ≤ u64Max

theorem decodeInputCursorAck_eq_ok {ack : InputCursorAck} :
    decodeInputCursorAck payload = .ok ack
      ↔ LaneMessage.InRange (.cursorAck ack) ∧ payload = encodeInputCursorAck ack := by
  have hminimum : 5 ≤ ackBytes := by decide
  rw [encodeInputCursorAck, eq_flatten_iff]
  simp only [decodeInputCursorAck, bind_eq_ok, validateExactMessageHeader_eq_ok hminimum,
    readU64_eq_ok, readPlayerIndex_eq_ok, pure, Except.pure, Except.ok.injEq, LaneMessage.InRange,
    ackFields, writeHeader, List.cons_append, List.nil_append, List.map_cons, List.map_nil,
    fieldsAt, List.cons.injEq, length_toBeBytes, List.length_singleton]
  constructor
  · rintro ⟨_, ⟨hlength, hmagic, htype⟩, _, hroom, _, hsession, _, hplayer, _, hnext, rfl⟩
    exact ⟨⟨hroom.1, hsession.1, hplayer.1, hnext.1⟩, hlength, hmagic, htype, hroom.2, hsession.2,
      hplayer.2, hnext.2, trivial⟩
  · rintro ⟨⟨hroom, hsession, hplayer, hnext⟩, hlength, hmagic, htype, hroom', hsession', hplayer',
      hnext', _⟩
    exact ⟨(), ⟨hlength, hmagic, htype⟩, _, ⟨hroom, hroom'⟩, _, ⟨hsession, hsession'⟩, _,
      ⟨hplayer, hplayer'⟩, _, ⟨hnext, hnext'⟩, rfl⟩

theorem decodeHostFrameOpen_eq_ok {frameOpen : HostFrameOpen} :
    decodeHostFrameOpen payload = .ok frameOpen
      ↔ LaneMessage.InRange (.hostOpen frameOpen) ∧ payload = encodeHostFrameOpen frameOpen := by
  have hminimum : 5 ≤ hostOpenBytes := by decide
  rw [encodeHostFrameOpen, eq_flatten_iff]
  simp only [decodeHostFrameOpen, bind_eq_ok, validateExactMessageHeader_eq_ok hminimum,
    readU64_eq_ok, pure, Except.pure, Except.ok.injEq, LaneMessage.InRange,
    hostOpenFields, writeHeader, List.cons_append, List.nil_append, List.map_cons, List.map_nil,
    fieldsAt, List.cons.injEq, length_toBeBytes, List.length_singleton]
  constructor
  · rintro ⟨_, ⟨hlength, hmagic, htype⟩, _, hroom, _, hsession, _, hframe, rfl⟩
    exact ⟨⟨hroom.1, hsession.1, hframe.1⟩, hlength, hmagic, htype, hroom.2, hsession.2, hframe.2,
      trivial⟩
  · rintro ⟨⟨hroom, hsession, hframe⟩, hlength, hmagic, htype, hroom', hsession', hframe', _⟩
    exact ⟨(), ⟨hlength, hmagic, htype⟩, _, ⟨hroom, hroom'⟩, _, ⟨hsession, hsession'⟩, _,
      ⟨hframe, hframe'⟩, rfl⟩

theorem tryFrom_eq_ok {byte : UInt8} {reason : InputCursorNackReason} :
    InputCursorNackReason.tryFrom byte = .ok reason ↔ byte = reason.code := by
  unfold InputCursorNackReason.tryFrom
  constructor
  · intro h
    split at h
    · obtain rfl := Except.ok.inj h
      assumption
    split at h
    · obtain rfl := Except.ok.inj h
      assumption
    split at h
    · obtain rfl := Except.ok.inj h
      assumption
    · exact absurd h (by simp)
  · rintro rfl
    cases reason with
    | inputGap => rfl
    | futureFrameTooLarge => rfl
    | sessionState => rfl

theorem decodeInputCursorNack_eq_ok {nack : InputCursorNack} :
    decodeInputCursorNack payload = .ok nack
      ↔ LaneMessage.InRange (.cursorNack nack) ∧ payload = encodeInputCursorNack nack := by
  have hminimum : 5 ≤ nackBytes := by decide
  rw [encodeInputCursorNack, eq_flatten_iff]
  simp only [decodeInputCursorNack, bind_eq_ok, validateExactMessageHeader_eq_ok hminimum,
    readU64_eq_ok, readPlayerIndex_eq_ok, tryFrom_eq_ok, pure, Except.pure, Except.ok.injEq,
    LaneMessage.InRange, nackFields, writeHeader, List.cons_append, List.nil_append, List.map_cons,
    List.map_nil, fieldsAt, List.cons.injEq, length_toBeBytes, List.length_singleton]
  constructor
  · rintro ⟨_, ⟨hlength, hmagic, htype⟩, _, hroom, _, hsession, _, hplayer, _, hexpected, _,
      hreceived, _, hreason, rfl⟩
    have hlast : slice payload 38 1 = [payload.getD 38 0] := slice_one (by rw [hlength]; decide)
    exact ⟨⟨hroom.1, hsession.1, hplayer.1, hexpected.1, hreceived.1⟩, hlength, hmagic, htype,
      hroom.2, hsession.2, hplayer.2, hexpected.2, hreceived.2, hreason ▸ hlast, trivial⟩
  · rintro ⟨⟨hroom, hsession, hplayer, hexpected, hreceived⟩, hlength, hmagic, htype, hroom',
      hsession', hplayer', hexpected', hreceived', hreason, _⟩
    have hlast : slice payload 38 1 = [payload.getD 38 0] := slice_one (by rw [hlength]; decide)
    exact ⟨(), ⟨hlength, hmagic, htype⟩, _, ⟨hroom, hroom'⟩, _, ⟨hsession, hsession'⟩, _,
      ⟨hplayer, hplayer'⟩, _, ⟨hexpected, hexpected'⟩, _, ⟨hreceived, hreceived'⟩, _,
      (List.cons.inj (hlast.symm.trans hreason)).1, rfl⟩

/-! ## Messages of varying length -/

theorem validatePayloadCount_eq_ok {frameCount : Nat} :
    validatePayloadCount frameCount = .ok u
      ↔ 0 < frameCount ∧ frameCount ≤ maxInputBatchFrames := by
  unfold validatePayloadCount
  split
  · rename_i hzero
    simp [hzero]
  rename_i hsome
  split
  · rename_i hmany
    simp only [reduceCtorEq, false_iff]
    omega
  · rename_i hfew
    simp only [true_iff]
    omega

theorem ofChunk_toList (input : RetropadInputPayload) :
    RetropadInputPayload.ofChunk input.toList = input := by
  refine Vector.ext fun i hi => ?_
  simp [RetropadInputPayload.ofChunk]

theorem toList_ofChunk {chunk : Bytes} (h : chunk.length = v5RetropadInputBytes) :
    (RetropadInputPayload.ofChunk chunk).toList = chunk := by
  rw [v5RetropadInputBytes] at h
  refine List.ext_getElem ?_ fun i hi hi' => ?_
  · rw [Vector.length_toList, h]
  · simp [RetropadInputPayload.ofChunk, hi']

/-- The payloads of a string of whole chunks are the payloads that it is made of. -/
theorem payloads_of_chunks {payloads : List RetropadInputPayload}
    (h : v5RetropadInputBytes ∣ bytes.length) :
    payloads = (chunksExact v5RetropadInputBytes bytes).map RetropadInputPayload.ofChunk
      ↔ bytes = (payloads.map Vector.toList).flatten := by
  constructor
  · rintro rfl
    have hsame : (chunksExact v5RetropadInputBytes bytes).map
        (Vector.toList ∘ RetropadInputPayload.ofChunk) = chunksExact v5RetropadInputBytes bytes :=
      (List.map_congr_left fun chunk hchunk => toList_ofChunk
        (length_of_mem_chunksExact hchunk)).trans (List.map_id' _)
    rw [List.map_map, hsame, flatten_chunksExact h]
  · intro hbytes
    have hlengths : ∀ part ∈ payloads.map Vector.toList, part.length = v5RetropadInputBytes := by
      intro part hpart
      obtain ⟨input, _, rfl⟩ := List.mem_map.mp hpart
      exact Vector.length_toList
    have hsame : payloads.map (RetropadInputPayload.ofChunk ∘ Vector.toList) = payloads :=
      (List.map_congr_left fun input _ => ofChunk_toList input).trans (List.map_id' _)
    rw [hbytes, chunksExact_flatten (by decide) hlengths, List.map_map, hsame]

theorem length_payloads (payloads : List RetropadInputPayload) :
    (payloads.map Vector.toList).flatten.length = payloads.length * v5RetropadInputBytes := by
  induction payloads with
  | nil => rfl
  | cons input payloads ih =>
    rw [List.map_cons, List.flatten_cons, List.length_append, ih, Vector.length_toList,
      List.length_cons, Nat.succ_mul, Nat.add_comm]
    rfl

theorem encodeStrictInputBatch_eq_ok :
    encodeStrictInputBatch batch = .ok bytes
      ↔ (0 < batch.payloads.length ∧ batch.payloads.length ≤ maxInputBatchFrames)
        ∧ bytes = (inputBatchFields batch).flatten := by
  simp only [encodeStrictInputBatch, bind_eq_ok, validatePayloadCount_eq_ok, checked_eq_ok, pure,
    Except.pure, Except.ok.injEq, exists_const]
  constructor
  · rintro ⟨hcount, _, rfl⟩
    exact ⟨hcount, rfl⟩
  rintro ⟨hcount, rfl⟩
  refine ⟨hcount, ?_, rfl⟩
  rw [maxInputBatchFrames] at hcount
  simp only [inputBatchHeaderBytes, commonEpochHeaderBytes, v5RetropadInputBytes,
    maxInputBatchBytes]
  omega

theorem decodeStrictInputBatch_eq_ok :
    decodeStrictInputBatch payload = .ok batch
      ↔ LaneMessage.InRange (.inputBatch batch) ∧ encodeStrictInputBatch batch = .ok payload := by
  have hminimum : 5 ≤ inputBatchHeaderBytes := by decide
  have hheader : 22 < inputBatchHeaderBytes := by decide
  have hmagicBytes : inputBatchMagic.length = 4 := rfl
  have hwidths : ∀ width, [4, 1, 8, 8, 1, 1, 2, 8, width].sum = inputBatchHeaderBytes + width := by
    intro width
    simp only [List.sum_cons, List.sum_nil, inputBatchHeaderBytes, commonEpochHeaderBytes]
    omega
  rw [encodeStrictInputBatch_eq_ok, eq_flatten_iff]
  simp only [decodeStrictInputBatch, bind_eq_ok, validateMessageHeader_eq_ok hminimum,
    validatePayloadCount_eq_ok, checked_eq_ok, readU16, readBe_slice Nat.two_pos, readU64_eq_ok,
    readPlayerIndex_eq_ok, pure, Except.pure, Except.ok.injEq, LaneMessage.InRange,
    inputBatchFields, writeHeader, List.cons_append, List.nil_append, List.map_cons, List.map_nil,
    fieldsAt, List.cons.injEq, length_toBeBytes, List.length_singleton, exists_const, hmagicBytes,
    Nat.reduceAdd]
  constructor
  · rintro ⟨⟨_, hmagic, htype⟩, hsmall, hcount, _, ⟨_, hsize⟩, rfl, hlength, _, hroom, _, hsession,
      _, hplayer, _, hstart, rfl⟩
    -- the rest of the string is as many payloads as the count byte says
    have hrest : (payload.drop inputBatchHeaderBytes).length
        = (payload.getD 22 0).toNat * v5RetropadInputBytes := by
      rw [List.length_drop, hlength, Nat.add_sub_cancel_left]
    have hpayloads := (payloads_of_chunks ⟨_, hrest.trans (Nat.mul_comm _ _)⟩).mp rfl
    generalize (chunksExact v5RetropadInputBytes (payload.drop inputBatchHeaderBytes)).map
      RetropadInputPayload.ofChunk = payloads at hpayloads ⊢
    rw [hpayloads, length_payloads] at hrest
    have hsame : payloads.length = (payload.getD 22 0).toNat :=
      Nat.eq_of_mul_eq_mul_right (by decide) hrest
    have hlast : slice payload inputBatchHeaderBytes (payloads.map Vector.toList).flatten.length
        = (payloads.map Vector.toList).flatten := by
      rw [slice_eq_drop (by rw [length_payloads, hsame, hlength]), hpayloads]
    have hbyte : slice payload 22 1 = [UInt8.ofNat payloads.length] := by
      rw [slice_one (by omega), hsame, UInt8.ofNat_toNat]
    refine ⟨⟨hroom.1, hsession.1, hplayer.1, hstart.1⟩, hsame ▸ hcount, ?_, hmagic, htype,
      hroom.2, hsession.2, hplayer.2, hbyte, hsize, hstart.2, hlast, trivial⟩
    rw [hwidths, length_payloads, hsame, hlength]
  · rintro ⟨⟨hroom, hsession, hplayer, hstart⟩, hcount, hlength, hmagic, htype, hroom', hsession',
      hplayer', hcount', hsize, hstart', hpayloads, _⟩
    rw [hwidths, length_payloads] at hlength
    have hsame : (payload.getD 22 0).toNat = batch.payloads.length := by
      have hfew := hcount.2
      rw [maxInputBatchFrames] at hfew
      rw [slice_one (by omega)] at hcount'
      rw [(List.cons.inj hcount').1, UInt8.toNat_ofNat']
      omega
    have hrest :
        payload.drop inputBatchHeaderBytes = (batch.payloads.map Vector.toList).flatten := by
      rw [← hpayloads]
      exact (slice_eq_drop (by rw [length_payloads, hlength])).symm
    have hchunks := (payloads_of_chunks
      ⟨batch.payloads.length, by rw [hrest, length_payloads, Nat.mul_comm]⟩).mpr hrest
    refine ⟨⟨by omega, hmagic, htype⟩, ?_, hsame ▸ hcount, _, ⟨by decide, hsize⟩, rfl,
      hsame ▸ hlength, _, ⟨hroom, hroom'⟩, _, ⟨hsession, hsession'⟩, _, ⟨hplayer, hplayer'⟩, _,
      ⟨hstart, hstart'⟩, ?_⟩
    · have hfew := hcount.2
      simp only [maxInputBatchFrames, inputBatchHeaderBytes, commonEpochHeaderBytes,
        v5RetropadInputBytes, maxInputBatchBytes] at hlength hfew ⊢
      omega
    · rw [← hchunks]

theorem releaseMessageBytes_eq_ok {cursorCount totalBytes : Nat} :
    releaseMessageBytes cursorCount = .ok totalBytes
      ↔ cursorCount ≤ 255 ∧ totalBytes = releaseHeaderBytes + cursorCount * releaseCursorBytes := by
  unfold releaseMessageBytes
  split
  · rename_i hmany
    simp only [reduceCtorEq, false_iff]
    omega
  · rename_i hfew
    -- 255 cursors are far below the limit of a message
    have hsmall : releaseHeaderBytes + cursorCount * releaseCursorBytes ≤ maxInputBatchBytes := by
      simp only [releaseHeaderBytes, commonEpochHeaderBytes, releaseCursorBytes, maxInputBatchBytes]
      omega
    rw [if_pos hsmall, Except.ok.injEq, eq_comm]
    exact (and_iff_right (Nat.le_of_not_lt hfew)).symm

theorem cursorsBytes_cons (cursor : AcceptedInputCursor) (cursors : List AcceptedInputCursor) :
    cursorsBytes (cursor :: cursors)
      = [UInt8.ofNat cursor.playerIndex.zeroBased]
        ++ (toBeBytes 8 cursor.nextExpectedFrame ++ cursorsBytes cursors) := by
  simp [cursorsBytes, cursorFields]

theorem length_cursorsBytes (cursors : List AcceptedInputCursor) :
    (cursorsBytes cursors).length = cursors.length * releaseCursorBytes := by
  induction cursors with
  | nil => rfl
  | cons cursor cursors ih =>
    rw [cursorsBytes_cons, List.length_append, List.length_append, ih, length_toBeBytes,
      List.length_singleton, List.length_cons, Nat.succ_mul, releaseCursorBytes]
    omega

theorem readCursors_eq_ok {count : Nat} {cursors : List AcceptedInputCursor} :
    readCursors payload count offset = .ok cursors
      ↔ cursors.length = count
        ∧ (∀ cursor ∈ cursors,
          cursor.playerIndex.zeroBased < mvpRoomCapacity ∧ cursor.nextExpectedFrame ≤ u64Max)
        ∧ slice payload offset (count * releaseCursorBytes) = cursorsBytes cursors := by
  induction count generalizing offset cursors with
  | zero =>
    rw [readCursors, Except.ok.injEq, Nat.zero_mul]
    constructor
    · rintro rfl
      exact ⟨rfl, by simp, by simp [slice, cursorsBytes]⟩
    · rintro ⟨hlength, _⟩
      exact (List.eq_nil_of_length_eq_zero hlength).symm
  | succ count ih =>
    have hwidth : (count + 1) * releaseCursorBytes = 1 + (8 + count * releaseCursorBytes) := by
      rw [Nat.succ_mul, releaseCursorBytes]
      omega
    simp only [readCursors, bind_eq_ok, readPlayerIndex_eq_ok, readU64_eq_ok, ih, pure,
      Except.pure, Except.ok.injEq, hwidth]
    constructor
    · rintro ⟨p, hplayer, next, hnext, rest, ⟨hlength, hrange, hrest⟩, rfl⟩
      refine ⟨congrArg (· + 1) hlength, ?_, ?_⟩
      · intro cursor hcursor
        rcases List.mem_cons.mp hcursor with rfl | hlater
        · exact ⟨hplayer.1, hnext.1⟩
        · exact hrange cursor hlater
      · rw [cursorsBytes_cons, slice_add_eq_append List.length_singleton,
          slice_add_eq_append (length_toBeBytes _ _)]
        exact ⟨hplayer.2, hnext.2, hrest⟩
    · rintro ⟨hlength, hrange, hbytes⟩
      obtain ⟨cursor, rest, rfl⟩ := List.exists_cons_of_length_eq_add_one hlength
      have hfirst := hrange cursor List.mem_cons_self
      rw [cursorsBytes_cons, slice_add_eq_append List.length_singleton,
        slice_add_eq_append (length_toBeBytes _ _)] at hbytes
      obtain ⟨hplayer, hnext, hrest⟩ := hbytes
      exact ⟨_, ⟨hfirst.1, hplayer⟩, _, ⟨hfirst.2, hnext⟩, rest, ⟨Nat.succ.inj hlength,
        fun later hlater => hrange later (List.mem_cons_of_mem _ hlater), hrest⟩, rfl⟩

theorem encodeServerFrameReleaseV5_eq_ok :
    encodeServerFrameReleaseV5 release = .ok bytes
      ↔ validateReleaseCursors release.acceptedInputs = .ok ()
        ∧ release.acceptedInputs.length ≤ 255 ∧ bytes = (releaseFields release).flatten := by
  simp only [encodeServerFrameReleaseV5, bind_eq_ok, releaseMessageBytes_eq_ok, pure, Except.pure,
    Except.ok.injEq]
  constructor
  · rintro ⟨_, hcursors, _, ⟨hfew, _⟩, rfl⟩
    exact ⟨hcursors, hfew, rfl⟩
  · rintro ⟨hcursors, hfew, rfl⟩
    exact ⟨(), hcursors, _, ⟨hfew, rfl⟩, rfl⟩

theorem decodeServerFrameReleaseV5_eq_ok :
    decodeServerFrameReleaseV5 payload = .ok release
      ↔ LaneMessage.InRange (.frameRelease release)
        ∧ encodeServerFrameReleaseV5 release = .ok payload := by
  have hminimum : 5 ≤ releaseHeaderBytes := by decide
  have hheader : 37 < releaseHeaderBytes := by decide
  have hmagicBytes : releaseMagic.length = 4 := rfl
  have hwidths : ∀ width, [4, 1, 8, 8, 8, 8, 1, width].sum = releaseHeaderBytes + width := by
    intro width
    simp only [List.sum_cons, List.sum_nil, releaseHeaderBytes, commonEpochHeaderBytes]
    omega
  rw [encodeServerFrameReleaseV5_eq_ok, eq_flatten_iff]
  simp only [decodeServerFrameReleaseV5, bind_eq_ok, validateMessageHeader_eq_ok hminimum,
    releaseMessageBytes_eq_ok, checked_eq_ok, readCursors_eq_ok, readU64_eq_ok, pure, Except.pure,
    Except.ok.injEq, LaneMessage.InRange, releaseFields, writeHeader,
    List.cons_append, List.nil_append, List.map_cons, List.map_nil, fieldsAt, List.cons.injEq,
    length_toBeBytes, List.length_singleton, exists_const, hmagicBytes, Nat.reduceAdd]
  constructor
  · rintro ⟨⟨_, hmagic, htype⟩, _, ⟨hfew, rfl⟩, hlength, cursors, ⟨hcount, hrange, hcursors⟩,
      _, hsorted, _, hroom, _, hsession, _, hreleased, _, hnext, rfl⟩
    have hbyte : slice payload 37 1 = [UInt8.ofNat cursors.length] := by
      rw [slice_one (by omega), hcount, UInt8.ofNat_toNat]
    refine ⟨⟨hroom.1, hsession.1, hreleased.1, hnext.1, hrange⟩, hsorted, hcount ▸ hfew, ?_, hmagic,
      htype, hroom.2, hsession.2, hreleased.2, hnext.2, hbyte, ?_, trivial⟩
    · rw [hwidths, length_cursorsBytes, hcount, hlength]
    · rw [length_cursorsBytes, hcount]
      exact hcursors
  · rintro ⟨⟨hroom, hsession, hreleased, hnext, hrange⟩, hsorted, hfew, hlength, hmagic, htype,
      hroom', hsession', hreleased', hnext', hbyte, hcursors, _⟩
    rw [hwidths, length_cursorsBytes] at hlength
    rw [length_cursorsBytes] at hcursors
    have hcount : (payload.getD 37 0).toNat = release.acceptedInputs.length := by
      rw [slice_one (by omega)] at hbyte
      rw [(List.cons.inj hbyte).1, UInt8.toNat_ofNat']
      omega
    exact ⟨⟨by omega, hmagic, htype⟩, _, ⟨hcount ▸ hfew, rfl⟩, hcount ▸ hlength, _,
      ⟨hcount.symm, hrange, hcount ▸ hcursors⟩, (), hsorted, _, ⟨hroom, hroom'⟩, _,
      ⟨hsession, hsession'⟩, _, ⟨hreleased, hreleased'⟩, _, ⟨hnext, hnext'⟩, rfl⟩

/-! ## One codec -/

/-- The five messages. -/
inductive LaneKind
  | inputBatch | cursorAck | cursorNack | hostOpen | frameRelease
deriving DecidableEq

def LaneMessage.kind : LaneMessage → LaneKind
  | .inputBatch _ => .inputBatch
  | .cursorAck _ => .cursorAck
  | .cursorNack _ => .cursorNack
  | .hostOpen _ => .hostOpen
  | .frameRelease _ => .frameRelease

def LaneMessage.encode : LaneMessage → Coded Bytes
  | .inputBatch batch => encodeStrictInputBatch batch
  | .cursorAck ack => .ok (encodeInputCursorAck ack)
  | .cursorNack nack => .ok (encodeInputCursorNack nack)
  | .hostOpen frameOpen => .ok (encodeHostFrameOpen frameOpen)
  | .frameRelease release => encodeServerFrameReleaseV5 release

def LaneKind.decode (kind : LaneKind) (payload : Bytes) : Coded LaneMessage :=
  match kind with
  | .inputBatch => (decodeStrictInputBatch payload).map .inputBatch
  | .cursorAck => (decodeInputCursorAck payload).map .cursorAck
  | .cursorNack => (decodeInputCursorNack payload).map .cursorNack
  | .hostOpen => (decodeHostFrameOpen payload).map .hostOpen
  | .frameRelease => (decodeServerFrameReleaseV5 payload).map .frameRelease

theorem map_eq_ok {ε α β : Type} {x : Except ε α} {f : α → β} {b : β} :
    x.map f = .ok b ↔ ∃ a, x = .ok a ∧ f a = b := by
  cases x with
  | error e => simp [Except.map]
  | ok a => simp [Except.map]

/-- **What a decoder accepts is the encoding of what it returns.** -/
theorem encode_of_decode {kind : LaneKind} (h : kind.decode bytes = .ok message) :
    message.kind = kind ∧ message.InRange ∧ message.encode = .ok bytes := by
  cases kind with
  | inputBatch =>
    obtain ⟨batch, hbatch, rfl⟩ := map_eq_ok.mp h
    exact ⟨rfl, decodeStrictInputBatch_eq_ok.mp hbatch⟩
  | cursorAck =>
    obtain ⟨ack, hack, rfl⟩ := map_eq_ok.mp h
    obtain ⟨hrange, rfl⟩ := decodeInputCursorAck_eq_ok.mp hack
    exact ⟨rfl, hrange, rfl⟩
  | cursorNack =>
    obtain ⟨nack, hnack, rfl⟩ := map_eq_ok.mp h
    obtain ⟨hrange, rfl⟩ := decodeInputCursorNack_eq_ok.mp hnack
    exact ⟨rfl, hrange, rfl⟩
  | hostOpen =>
    obtain ⟨frameOpen, hopen, rfl⟩ := map_eq_ok.mp h
    obtain ⟨hrange, rfl⟩ := decodeHostFrameOpen_eq_ok.mp hopen
    exact ⟨rfl, hrange, rfl⟩
  | frameRelease =>
    obtain ⟨release, hrelease, rfl⟩ := map_eq_ok.mp h
    exact ⟨rfl, decodeServerFrameReleaseV5_eq_ok.mp hrelease⟩

/-- **What was encoded is decoded again.** -/
theorem decode_of_encode (hrange : message.InRange) (h : message.encode = .ok bytes) :
    message.kind.decode bytes = .ok message := by
  cases message with
  | inputBatch batch =>
    refine map_eq_ok.mpr ⟨batch, ?_, rfl⟩
    exact decodeStrictInputBatch_eq_ok.mpr ⟨hrange, h⟩
  | cursorAck ack =>
    refine map_eq_ok.mpr ⟨ack, ?_, rfl⟩
    exact decodeInputCursorAck_eq_ok.mpr ⟨hrange, (Except.ok.inj h).symm⟩
  | cursorNack nack =>
    refine map_eq_ok.mpr ⟨nack, ?_, rfl⟩
    exact decodeInputCursorNack_eq_ok.mpr ⟨hrange, (Except.ok.inj h).symm⟩
  | hostOpen frameOpen =>
    refine map_eq_ok.mpr ⟨frameOpen, ?_, rfl⟩
    exact decodeHostFrameOpen_eq_ok.mpr ⟨hrange, (Except.ok.inj h).symm⟩
  | frameRelease release =>
    refine map_eq_ok.mpr ⟨release, ?_, rfl⟩
    exact decodeServerFrameReleaseV5_eq_ok.mpr ⟨hrange, h⟩

def LaneKind.messageType : LaneKind → UInt8
  | .inputBatch => inputBatchType
  | .cursorAck => ackType
  | .cursorNack => nackType
  | .hostOpen => hostOpenType
  | .frameRelease => releaseType

theorem messageType_injective {kind kind' : LaneKind} (h : kind.messageType = kind'.messageType) :
    kind = kind' := by
  cases kind <;> cases kind' <;> first | rfl | exact absurd h (by decide)

/-- The fifth byte says which message it is. -/
theorem type_of_encode (h : message.encode = .ok bytes) :
    bytes[4]? = some message.kind.messageType := by
  cases message with
  | inputBatch batch =>
    obtain ⟨_, rfl⟩ := encodeStrictInputBatch_eq_ok.mp h
    rfl
  | cursorAck ack | cursorNack nack | hostOpen frameOpen =>
    obtain rfl := Except.ok.inj h
    rfl
  | frameRelease release =>
    obtain ⟨_, _, rfl⟩ := encodeServerFrameReleaseV5_eq_ok.mp h
    rfl

/-! ## What a room produces can be encoded -/

section

variable {relay : Relay} {r : NetplayRoom} {c : ConnectionId} {t : Nat}

/-- The cursors of a release stand in the order of the seats. -/
theorem room_cursors_sorted (h : r.players.map (·.playerIndex) = [.one, .two])
    (next : PlayerIndex → Nat) :
    let cursors := (r.players.filter (!·.isEmpty)).map fun slot =>
      AcceptedInputCursor.mk slot.playerIndex (next slot.playerIndex)
    validateReleaseCursors cursors = .ok () ∧ cursors.length ≤ 255 := by
  obtain ⟨host, rest, hplayers, hhost, hrest⟩ := List.map_eq_cons_iff.mp h
  obtain ⟨guest, none, rfl, hguest, hnone⟩ := List.map_eq_cons_iff.mp hrest
  obtain rfl := List.map_eq_nil_iff.mp hnone
  rw [hplayers]
  cases hempty : host.isEmpty <;> cases hempty' : guest.isEmpty <;>
    simp [hempty, hempty', hhost, hguest, validateReleaseCursors, PlayerIndex.one, PlayerIndex.two]

theorem release_encodes (h : r.players.map (·.playerIndex) = [.one, .two])
    {next : PlayerIndex → Nat}
    (hinputs : release.acceptedInputs = (r.players.filter (!·.isEmpty)).map fun slot =>
      ⟨slot.playerIndex, next slot.playerIndex⟩) :
    ∃ bytes, encodeServerFrameReleaseV5 release = .ok bytes := by
  obtain ⟨hsorted, hfew⟩ := room_cursors_sorted h next
  rw [← hinputs] at hsorted hfew
  exact ⟨_, encodeServerFrameReleaseV5_eq_ok.mpr ⟨hsorted, hfew, rfl⟩⟩

theorem enterPlaying_indices :
    r.enterPlaying.players.map (·.playerIndex) = r.players.map (·.playerIndex) := by
  have hsame : List.Forall₂ (fun slot slot' : PlayerSlot => slot'.playerIndex = slot.playerIndex)
      r.players r.enterPlaying.players :=
    forall₂_updateWhere (fun _ => rfl) fun _ _ _ => rfl
  exact map_eq_of_forall₂ hsame

theorem releaseV5HostFrame_encodes (h : r.players.map (·.playerIndex) = [.one, .two])
    (frame : Nat) :
    ∃ bytes, encodeServerFrameReleaseV5 (r.releaseV5HostFrame frame).1 = .ok bytes :=
  release_encodes (r := r.releaseFrame frame) h rfl

/-- **A release that is published can be encoded.** -/
theorem published_encodes {op : RoomOp} (h : r.players.map (·.playerIndex) = [.one, .two])
    (hrelease : .serverFrameV5 release ∈ publishedBy relay r op) :
    ∃ bytes, encodeServerFrameReleaseV5 release = .ok bytes := by
  have hlane : isLane op := by
    cases op with
    | relayStrictInputBatch | relayHostFrameOpen | releaseScheduledV5HostFrame => rfl
    | _ => exact absurd hrelease List.not_mem_nil
  have heffect := lane_effect relay r hlane
  generalize publishedBy relay r op = events, applyOp relay r op = r' at heffect hrelease
  cases heffect with
  | quiet | pauseHeld | pauseOpened | held | accepted => exact absurd hrelease (by simp)
  | opened | woken =>
    obtain rfl : release = _ := by simpa using hrelease
    exact releaseV5HostFrame_encodes (enterPlaying_indices.trans h) _
  | released =>
    obtain rfl : release = _ := by simpa using hrelease
    exact releaseV5HostFrame_encodes h _

/-- A duplicate answer repeats the last release. -/
theorem duplicate_repeats {frameOpen : HostFrameOpen}
    (h : (r.acceptHostFrameOpen c frameOpen t).1 = .ok (.duplicate release)) :
    r.currentV5Release = some release := by
  unfold acceptHostFrameOpen at h
  cases hsender : r.validateHostFrameSender c with
  | error error => exact absurd h (by simp [hsender])
  | ok _ =>
    simp only [hsender] at h
    by_cases hepochs : frameOpen.roomEpoch ≠ r.roomEpoch ∨ frameOpen.sessionEpoch ≠ r.sessionEpoch
    · rw [if_pos hepochs, duplicateOrIgnored] at h
      cases hcurrent : r.currentV5Release with
      | some current => simpa [hcurrent] using h
      | none => exact absurd h (by simp [hcurrent])
    rw [if_neg hepochs] at h
    by_cases hrepairing : r.status = .repairingState
    · rw [if_pos hrepairing] at h
      exact absurd h (by simp)
    rw [if_neg hrepairing] at h
    by_cases hbehind : frameOpen.frame < r.nextReleaseFrame
    · rw [if_pos hbehind] at h
      cases hcurrent : r.currentV5Release with
      | some current => simpa [hcurrent] using h
      | none => exact absurd h (by simp [hcurrent])
    rw [if_neg hbehind] at h
    -- from here on no answer is a duplicate
    by_cases hpause : r.pauseState.any fun pause => frameOpen.frame > pause.pauseAtFrame
    · rw [if_pos hpause] at h
      exact absurd h (by simp)
    rw [if_neg hpause] at h
    by_cases hearly : r.status = .startScheduled ∧ frameOpen.frame > r.nextReleaseFrame
    · rw [if_pos hearly] at h
      exact absurd h (by simp)
    rw [if_neg hearly] at h
    by_cases hidle : r.status ≠ .startScheduled ∧ r.status ≠ .playing
    · rw [if_pos hidle] at h
      exact absurd h (by simp)
    rw [if_neg hidle] at h
    by_cases hgap : frameOpen.frame > r.nextReleaseFrame ∨ !r.hostInputCovers frameOpen.frame
    · rw [if_pos hgap] at h
      exact absurd h (by simp)
    rw [if_neg hgap] at h
    by_cases hscheduled : r.status = .startScheduled
    · rw [if_pos hscheduled] at h
      cases hstart : r.scheduledStart with
      | none => exact absurd h (by simp [hstart])
      | some start =>
        simp only [hstart] at h
        by_cases hframe : frameOpen.frame ≠ start.startFrame
        · rw [if_pos hframe] at h
          exact absurd h (by simp)
        rw [if_neg hframe] at h
        by_cases hwait : t < start.serverTimeMs
        · exact absurd h (by simp [hwait])
        · exact absurd h (by simp [hwait, grantHostFrame])
    · rw [if_neg hscheduled] at h
      exact absurd h (by simp [grantHostFrame])

theorem currentV5Release_encodes (h : r.players.map (·.playerIndex) = [.one, .two])
    (hcurrent : r.currentV5Release = some release) :
    ∃ bytes, encodeServerFrameReleaseV5 release = .ok bytes := by
  obtain ⟨frame, _, rfl⟩ := Option.map_eq_some_iff.mp hcurrent
  exact release_encodes h rfl

/-- The new part of a batch has a frame, and no more than the batch. -/
theorem accepted_encodes {accepted : StrictInputBatch} {outcome : StrictInputBatchOutcome}
    (hdecoded : decodeStrictInputBatch bytes = .ok batch)
    (h : (r.acceptStrictInputBatch c batch).1 = .ok outcome)
    (haccepted : outcome.acceptedBatch = some accepted) :
    ∃ encoded, encodeStrictInputBatch accepted = .ok encoded := by
  obtain ⟨_, hencoded⟩ := decodeStrictInputBatch_eq_ok.mp hdecoded
  obtain ⟨⟨hsome, hfew⟩, _⟩ := encodeStrictInputBatch_eq_ok.mp hencoded
  have houtcome := acceptStrictInputBatch_outcome r c batch
  generalize r.acceptStrictInputBatch c batch = out at h houtcome
  cases houtcome with
  | refused error => exact absurd h (by simp)
  | nacked received reason =>
    obtain rfl := Except.ok.inj h
    exact absurd haccepted (by simp [strictInputNack])
  | duplicate howner hold =>
    obtain rfl := Except.ok.inj h
    exact absurd haccepted (by simp [strictInputAck])
  | accepted _ hbatch =>
    have hgap := hbatch.gap
    have hnew := hbatch.new
    have hbound := hbatch.bound
    obtain rfl := Except.ok.inj h
    obtain rfl := Option.some.inj haccepted
    refine ⟨_, encodeStrictInputBatch_eq_ok.mpr ⟨?_, rfl⟩⟩
    rw [batchFrom, List.length_drop]
    omega

end

/-- The room publishes the release to its input sockets, or repeats it to the host. -/
def Produces (relay : Relay) (r : NetplayRoom) (release : ServerFrameReleaseV5) : Prop :=
  (∃ op, .serverFrameV5 release ∈ publishedBy relay r op)
    ∨ ∃ c frameOpen t, (r.acceptHostFrameOpen c frameOpen t).1 = .ok (.duplicate release)

/-- **The codec of the input lane.** Encoding and decoding undo each other, the decoders accept
disjoint sets of strings, and what a room sends can be encoded. -/
theorem lane_codec :
    (∀ (message : LaneMessage) (bytes : Bytes), message.InRange → message.encode = .ok bytes →
        message.kind.decode bytes = .ok message)
      ∧ (∀ (kind : LaneKind) (bytes : Bytes) (message : LaneMessage),
        kind.decode bytes = .ok message → message.encode = .ok bytes)
      ∧ (∀ (kind kind' : LaneKind) (bytes : Bytes) (message message' : LaneMessage),
        kind.decode bytes = .ok message → kind'.decode bytes = .ok message' → kind = kind')
      ∧ ∀ (relay : Relay) (s : StoredRoom), Reachable relay s →
        (∀ release, Produces relay s.room release →
          ∃ bytes, (LaneMessage.frameRelease release).encode = .ok bytes)
        ∧ ∀ (c : ConnectionId) (bytes : Bytes) (batch : StrictInputBatch)
            (outcome : StrictInputBatchOutcome) (accepted : StrictInputBatch),
          decodeStrictInputBatch bytes = .ok batch →
          (s.room.acceptStrictInputBatch c batch).1 = .ok outcome →
          outcome.acceptedBatch = some accepted →
          ∃ encoded, (LaneMessage.inputBatch accepted).encode = .ok encoded := by
  refine ⟨fun _ _ => decode_of_encode, fun _ _ _ h => (encode_of_decode h).2.2, ?_, ?_⟩
  · intro kind kind' bytes message message' h h'
    obtain ⟨rfl, _, hencode⟩ := encode_of_decode h
    obtain ⟨rfl, _, hencode'⟩ := encode_of_decode h'
    exact messageType_injective
      (Option.some.inj ((type_of_encode hencode).symm.trans (type_of_encode hencode')))
  · intro relay s hs
    have hindices := (seats_reachable hs).indices
    refine ⟨?_, fun c bytes batch outcome accepted => accepted_encodes⟩
    rintro release (⟨op, hpublished⟩ | ⟨c, frameOpen, t, hduplicate⟩)
    · exact published_encodes hindices hpublished
    · exact currentV5Release_encodes hindices (duplicate_repeats hduplicate)

end NetplayRelay.Proof
