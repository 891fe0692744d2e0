import NetplayRelay.Proof.Histories

/-!
# Snapshot transfers

The relay passes the host's state on in chunks without keeping it. What it keeps is an account:
the next index, the number of bytes, a running checksum and one digest per chunk. This module says
what an offered chunk can do to the account, and from it what the account says after any number of
offers.

Two things go wrong at the edges. A transfer takes its identity from the first chunk it is offered,
before it has looked at the index, so a chunk that is turned away can leave a name behind; and the
chunk after the last index is counted before it is turned away.
-/

namespace NetplayRelay.Proof

open Lib Protocol Rooms Registry NetplayRoom

variable {sha256 : List UInt8 → List UInt8} {limits : SnapshotLimits}
  {t t' : SnapshotTransferState} {chunk : SnapshotChunk} {accepted chunks : List SnapshotChunk}

/-! ## What an offered chunk can do -/

/-- The largest chunk index. -/
def lastChunkIndex : Nat := 2 ^ 32 - 1

/-- The chunk has the identity of the transfer, or the transfer has none yet. -/
def Belongs (t : SnapshotTransferState) (chunk : SnapshotChunk) : Prop :=
  (t.snapshotId = none ∧ t.repairFrame = none)
    ∨ (t.snapshotId = some chunk.snapshotId ∧ t.repairFrame = some chunk.repairFrame)

instance (t : SnapshotTransferState) (chunk : SnapshotChunk) : Decidable (Belongs t chunk) :=
  inferInstanceAs (Decidable (_ ∨ _))

/-- The bytes of the chunk still fit into the transfer. -/
def Fits (limits : SnapshotLimits) (t : SnapshotTransferState) (chunk : SnapshotChunk) : Prop :=
  t.receivedBytes + chunk.bytes.length ≤ u64Max
    ∧ t.receivedBytes + chunk.bytes.length ≤ limits.maxTotalBytes

instance (limits : SnapshotLimits) (t : SnapshotTransferState) (chunk : SnapshotChunk) :
    Decidable (Fits limits t chunk) := inferInstanceAs (Decidable (_ ∧ _))

/-- The chunk has other bytes than the one before it with its index, or an index that is not due,
or too many bytes. -/
def OutOfPlace (sha256 : List UInt8 → List UInt8) (limits : SnapshotLimits)
    (t : SnapshotTransferState) (chunk : SnapshotChunk) : Prop :=
  (chunk.index < t.nextChunkIndex
      ∧ t.acceptedChunkDigests[chunk.index]? ≠ some (sha256 chunk.bytes))
    ∨ t.nextChunkIndex < chunk.index ∨ (chunk.index = t.nextChunkIndex ∧ ¬Fits limits t chunk)

theorem not_outOfPlace (hindex : chunk.index = t.nextChunkIndex) (hfits : Fits limits t chunk) :
    ¬OutOfPlace sha256 limits t chunk := by
  rintro (⟨hold, _⟩ | hahead | ⟨_, hbig⟩)
  · omega
  · omega
  · exact hbig hfits

/-- The transfer with the identity of the chunk. -/
def named (t : SnapshotTransferState) (chunk : SnapshotChunk) : SnapshotTransferState :=
  { t with snapshotId := some chunk.snapshotId, repairFrame := some chunk.repairFrame }

/-- The transfer with the bytes of the chunk counted and hashed. -/
def counted (sha256 : List UInt8 → List UInt8) (t : SnapshotTransferState) (chunk : SnapshotChunk) :
    SnapshotTransferState :=
  { named t chunk with
    hashed := t.hashed ++ chunk.bytes
    acceptedChunkDigests := t.acceptedChunkDigests ++ [sha256 chunk.bytes]
    receivedBytes := t.receivedBytes + chunk.bytes.length }

/-- What a transfer answers to a chunk, and what becomes of it. -/
inductive Offered (sha256 : List UInt8 → List UInt8) (limits : SnapshotLimits)
    (t : SnapshotTransferState) (chunk : SnapshotChunk) :
    Except RoomError Bool × SnapshotTransferState → Prop
  /-- A malformed chunk or one of another snapshot. -/
  | foreign (h : chunk.validate limits ≠ .ok () ∨ ¬Belongs t chunk) :
      Offered sha256 limits t chunk (.error .snapshotInvalid, t)
  | refused (hvalid : chunk.validate limits = .ok ()) (hbelongs : Belongs t chunk)
      (h : OutOfPlace sha256 limits t chunk) :
      Offered sha256 limits t chunk (.error .snapshotInvalid, named t chunk)
  | repeated (hvalid : chunk.validate limits = .ok ()) (hbelongs : Belongs t chunk)
      (hindex : chunk.index < t.nextChunkIndex)
      (hdigest : t.acceptedChunkDigests[chunk.index]? = some (sha256 chunk.bytes)) :
      Offered sha256 limits t chunk (.ok false, named t chunk)
  /-- The next chunk, but there is no index after it. -/
  | overflowed (hvalid : chunk.validate limits = .ok ()) (hbelongs : Belongs t chunk)
      (hindex : chunk.index = t.nextChunkIndex) (hfits : Fits limits t chunk)
      (hlast : lastChunkIndex ≤ t.nextChunkIndex) :
      Offered sha256 limits t chunk (.error .snapshotInvalid, counted sha256 t chunk)
  | appended (hvalid : chunk.validate limits = .ok ()) (hbelongs : Belongs t chunk)
      (hindex : chunk.index = t.nextChunkIndex) (hfits : Fits limits t chunk)
      (hlast : t.nextChunkIndex < lastChunkIndex) :
      Offered sha256 limits t chunk
        (.ok true, { counted sha256 t chunk with nextChunkIndex := t.nextChunkIndex + 1 })

theorem named_of_identity (hid : t.snapshotId = some chunk.snapshotId)
    (hframe : t.repairFrame = some chunk.repairFrame) : named t chunk = t := by
  rw [named, ← hid, ← hframe]

theorem bound_eq (t : SnapshotTransferState) (chunk : SnapshotChunk) :
    (match t.snapshotId, t.repairFrame with
      | some snapshotId, some repairFrame =>
        if snapshotId = chunk.snapshotId ∧ repairFrame = chunk.repairFrame then some t else none
      | none, none => some (named t chunk)
      | _, _ => none) = if Belongs t chunk then some (named t chunk) else none := by
  cases hid : t.snapshotId with
  | none =>
    cases hframe : t.repairFrame with
    | none => simp [Belongs, hid, hframe]
    | some frame => simp [Belongs, hid, hframe]
  | some id =>
    cases hframe : t.repairFrame with
    | none => simp [Belongs, hid, hframe]
    | some frame =>
      by_cases hsame : id = chunk.snapshotId ∧ frame = chunk.repairFrame
      · obtain ⟨rfl, rfl⟩ := hsame
        simp [Belongs, hid, hframe, named_of_identity hid hframe]
      · simp [Belongs, hid, hframe, hsame]

theorem acceptChunk_offered (sha256 : List UInt8 → List UInt8) (limits : SnapshotLimits)
    (t : SnapshotTransferState) (chunk : SnapshotChunk) :
    Offered sha256 limits t chunk (t.acceptChunk sha256 chunk limits) := by
  -- past the identity check the transfer is `named t chunk`
  have hnamed : ∀ {self : SnapshotTransferState},
      (if Belongs t chunk then some (named t chunk) else none) = some self →
        Belongs t chunk ∧ named t chunk = self := by
    intro self h
    rw [Option.ite_none_right_eq_some] at h
    exact ⟨h.1, Option.some.inj h.2⟩
  fun_cases SnapshotTransferState.acceptChunk sha256 t chunk limits with
  | case1 error hvalid => exact .foreign (.inl (by simp [hvalid]))
  | case2 hvalid bound hbound =>
    refine .foreign (.inr fun hbelongs => ?_)
    have hnone := (bound_eq t chunk).symm.trans hbound
    rw [if_pos hbelongs] at hnone
    exact absurd hnone (by simp)
  | case3 hvalid bound self hbound hold hdigest =>
    obtain ⟨hbelongs, rfl⟩ := hnamed ((bound_eq t chunk).symm.trans hbound)
    exact .repeated hvalid hbelongs hold hdigest
  | case4 hvalid bound self hbound hold hdigest =>
    obtain ⟨hbelongs, rfl⟩ := hnamed ((bound_eq t chunk).symm.trans hbound)
    exact .refused hvalid hbelongs (.inl ⟨hold, hdigest⟩)
  | case5 hvalid bound self hbound hold hindex =>
    obtain ⟨hbelongs, rfl⟩ := hnamed ((bound_eq t chunk).symm.trans hbound)
    have hahead : t.nextChunkIndex < chunk.index :=
      Nat.lt_of_le_of_ne (Nat.le_of_not_lt hold) hindex.symm
    exact .refused hvalid hbelongs (.inr (.inl hahead))
  | case6 hvalid bound self hbound hold hindex hmachine =>
    obtain ⟨hbelongs, rfl⟩ := hnamed ((bound_eq t chunk).symm.trans hbound)
    refine .refused hvalid hbelongs (.inr (.inr ⟨not_not.mp hindex, fun hfits => ?_⟩))
    exact absurd (hmachine.symm.trans (checkedAdd_eq_some.mpr ⟨hfits.1, rfl⟩)) (by simp)
  | case7 hvalid bound self hbound hold hindex total htotal hlimit =>
    obtain ⟨hbelongs, rfl⟩ := hnamed ((bound_eq t chunk).symm.trans hbound)
    obtain ⟨hmachine, rfl⟩ := checkedAdd_eq_some.mp htotal
    refine .refused hvalid hbelongs (.inr (.inr ⟨not_not.mp hindex, fun hfits => ?_⟩))
    exact absurd hfits.2 (Nat.not_le.mpr hlimit)
  | case8 hvalid bound self hbound hold hindex total htotal hlimit hashedSelf hlast =>
    obtain ⟨hbelongs, rfl⟩ := hnamed ((bound_eq t chunk).symm.trans hbound)
    obtain ⟨hmachine, rfl⟩ := checkedAdd_eq_some.mp htotal
    have hfits : Fits limits t chunk := ⟨hmachine, Nat.le_of_not_lt hlimit⟩
    refine .overflowed hvalid hbelongs (not_not.mp hindex) hfits (Nat.le_of_not_lt fun hspace => ?_)
    exact absurd (hlast.symm.trans (checkedAdd_eq_some.mpr ⟨hspace, rfl⟩)) (by simp)
  | case9 hvalid bound self hbound hold hindex total htotal hlimit hashedSelf next hnext =>
    obtain ⟨hbelongs, rfl⟩ := hnamed ((bound_eq t chunk).symm.trans hbound)
    obtain ⟨hmachine, rfl⟩ := checkedAdd_eq_some.mp htotal
    obtain ⟨hspace, rfl⟩ := checkedAdd_eq_some.mp hnext
    have hfits : Fits limits t chunk := ⟨hmachine, Nat.le_of_not_lt hlimit⟩
    exact .appended hvalid hbelongs (not_not.mp hindex) hfits hspace

theorem acceptChunk_next (hvalid : chunk.validate limits = .ok ()) (hbelongs : Belongs t chunk)
    (hindex : chunk.index = t.nextChunkIndex) (hfits : Fits limits t chunk) :
    t.acceptChunk sha256 chunk limits =
      if t.nextChunkIndex < lastChunkIndex then
        (.ok true, { counted sha256 t chunk with nextChunkIndex := t.nextChunkIndex + 1 })
      else (.error .snapshotInvalid, counted sha256 t chunk) := by
  have hcases := acceptChunk_offered sha256 limits t chunk
  generalize t.acceptChunk sha256 chunk limits = result at hcases ⊢
  cases hcases with
  | foreign h => exact absurd h (by simp [hvalid, hbelongs])
  | refused _ _ h => exact absurd h (not_outOfPlace hindex hfits)
  | repeated _ _ hold => omega
  | overflowed _ _ _ _ hlast => rw [if_neg (Nat.not_lt.mpr hlast)]
  | appended _ _ _ _ hlast => rw [if_pos hlast]

/-! ## Chunks that are turned away -/

/-- The transfer has an identity, be it in part. -/
def HasIdentity (t : SnapshotTransferState) : Prop := t.snapshotId.isSome ∨ t.repairFrame.isSome

/-- The chunk would be the next one, but its index is the last. -/
def Overflows (limits : SnapshotLimits) (t : SnapshotTransferState) (chunk : SnapshotChunk) :
    Prop :=
  Belongs t chunk ∧ chunk.index = t.nextChunkIndex ∧ lastChunkIndex ≤ t.nextChunkIndex
    ∧ Fits limits t chunk

theorem named_of_hasIdentity (hbelongs : Belongs t chunk) (h : HasIdentity t) :
    named t chunk = t := by
  rcases hbelongs with ⟨hid, hframe⟩ | ⟨hid, hframe⟩
  · rw [HasIdentity, hid, hframe] at h
    exact absurd h (by simp)
  · exact named_of_identity hid hframe

theorem hasIdentity_of_named (h : named t chunk = t) : HasIdentity t := by
  rw [← h]
  exact .inl rfl

theorem counted_ne : counted sha256 t chunk ≠ t := by
  intro h
  have hdigests := congrArg (·.acceptedChunkDigests) h
  simp [counted] at hdigests

theorem acceptChunk_of_invalid (h : chunk.validate limits ≠ .ok ()) :
    (t.acceptChunk sha256 chunk limits).2 = t := by
  have hcases := acceptChunk_offered sha256 limits t chunk
  generalize t.acceptChunk sha256 chunk limits = result at hcases ⊢
  cases hcases with
  | foreign => rfl
  | refused hvalid | repeated hvalid | overflowed hvalid | appended hvalid => exact absurd hvalid h

/-- A transfer that turns a valid chunk away stays as it is if it has an identity, unless it
counted the chunk first. -/
theorem acceptChunk_error_iff (hvalid : chunk.validate limits = .ok ())
    (herror : (t.acceptChunk sha256 chunk limits).1.isOk = false) :
    (t.acceptChunk sha256 chunk limits).2 = t ↔ HasIdentity t ∧ ¬Overflows limits t chunk := by
  have hcases := acceptChunk_offered sha256 limits t chunk
  generalize t.acceptChunk sha256 chunk limits = result at hcases herror ⊢
  cases hcases with
  | foreign h =>
    have hforeign : ¬Belongs t chunk := h.resolve_left (not_not_intro hvalid)
    refine iff_of_true rfl ⟨?_, fun hover => hforeign hover.1⟩
    by_contra hnone
    refine hforeign (.inl ?_)
    simpa [HasIdentity] using hnone
  | refused _ hbelongs h =>
    refine ⟨fun hsame => ⟨hasIdentity_of_named hsame, ?_⟩,
      fun h => named_of_hasIdentity hbelongs h.1⟩
    rintro ⟨_, hindex, _, hfits⟩
    exact not_outOfPlace hindex hfits h
  | repeated | appended => exact absurd herror (by simp [Except.isOk, Except.toBool])
  | overflowed _ hbelongs hindex hfits hlast =>
    exact iff_of_false counted_ne fun h => h.2 ⟨hbelongs, hindex, hlast, hfits⟩

theorem withTransfer_eq_iff {r : NetplayRoom} (h : r.snapshotTransfer = some t) :
    { r with snapshotTransfer := some t' } = r ↔ t' = t := by
  constructor
  · intro hsame
    have hsome := congrArg snapshotTransfer hsame
    exact Option.some.inj (hsome.trans h)
  · rintro rfl
    rw [← h]

/-- **When a refused chunk leaves no trace.** Before the transfer is reached it always does; after
that only a malformed chunk, or one offered to a transfer that has its identity already. -/
theorem refused_chunk_unchanged_iff (sha256 : List UInt8 → List UInt8) (r : NetplayRoom)
    (connectionId : ConnectionId) (chunk : SnapshotChunk) (limits : SnapshotLimits)
    (herror : (r.acceptSnapshotChunk sha256 connectionId chunk limits).1.isOk = false) :
    (r.acceptSnapshotChunk sha256 connectionId chunk limits).2 = r
      ↔ r.validateSnapshotChunkSender connectionId chunk ≠ .ok () ∨ r.hostSnapshotCompleted = true
        ∨ ∃ transfer, r.snapshotTransfer = some transfer
          ∧ (chunk.validate limits ≠ .ok ()
            ∨ HasIdentity transfer ∧ ¬Overflows limits transfer chunk) := by
  unfold acceptSnapshotChunk at herror ⊢
  cases hsender : r.validateSnapshotChunkSender connectionId chunk with
  | error error => exact iff_of_true rfl (.inl (by simp))
  | ok u =>
      rw [hsender] at herror
      dsimp only at herror ⊢
      by_cases hcompleted : r.hostSnapshotCompleted = true
      · rw [if_pos hcompleted]
        refine iff_of_true ?_ (.inr (.inl hcompleted))
        split
        · rfl
        · rfl
      rw [if_neg hcompleted] at herror ⊢
      rw [or_iff_right (not_not_intro rfl), or_iff_right hcompleted]
      cases htransfer : r.snapshotTransfer with
      | none =>
          refine iff_of_false (fun hsame => ?_) (fun ⟨_, h, _⟩ => absurd h (by simp))
          have hsome := congrArg snapshotTransfer hsame
          rw [htransfer] at hsome
          exact absurd hsome (by simp)
      | some transfer =>
          rw [htransfer, Option.getD_some] at herror
          rw [Option.getD_some]
          refine (withTransfer_eq_iff htransfer).trans
            ⟨fun hsame => ⟨transfer, rfl, ?_⟩, fun ⟨_, hsome, h⟩ => ?_⟩
          · by_cases hvalid : chunk.validate limits = .ok ()
            · exact .inr ((acceptChunk_error_iff hvalid herror).mp hsame)
            · exact .inl hvalid
          · obtain rfl := Option.some.inj hsome
            by_cases hvalid : chunk.validate limits = .ok ()
            · exact (acceptChunk_error_iff hvalid herror).mpr
                (h.resolve_left (not_not_intro hvalid))
            · exact acceptChunk_of_invalid hvalid

/-- Both players agree on the game, and the host may send its state. -/
def syncingRoom : StoredRoom :=
  after sampleRelay (sampleRoom 4) (seating false ++ (handshake 4 0).take 2)

theorem syncingRoom_reachable : Reachable sampleRelay syncingRoom :=
  reachable_after (by decide +kernel)

def sampleChunk (index : Nat) (bytes : List UInt8) : SnapshotChunk :=
  ⟨"snap".toList, 0, index, bytes⟩

/-- The same room after the first chunk of a snapshot. -/
def startedRoom : NetplayRoom :=
  (syncingRoom.room.acceptSnapshotChunk id hostSocket (sampleChunk 0 [1]) .default).2

/-- A second chunk that skips an index is refused without a trace. -/
theorem skipping_chunk_unchanged :
    (startedRoom.acceptSnapshotChunk id hostSocket (sampleChunk 2 [1]) .default).1.isOk = false
      ∧ (startedRoom.acceptSnapshotChunk id hostSocket (sampleChunk 2 [1]) .default).2
        = startedRoom := by
  have hfacts :
      (startedRoom.acceptSnapshotChunk id hostSocket (sampleChunk 2 [1]) .default).1.isOk = false
        ∧ ∃ t ∈ startedRoom.snapshotTransfer, t.snapshotId.isSome ∧ t.nextChunkIndex = 1 := by
    decide +kernel
  obtain ⟨herror, t, ht, hid, hnext⟩ := hfacts
  have hroom : ¬Overflows .default t (sampleChunk 2 [1]) := by
    rintro ⟨_, hindex, _⟩
    exact absurd (hindex.trans hnext) (by decide)
  refine ⟨herror, (refused_chunk_unchanged_iff _ _ _ _ _ herror).mpr ?_⟩
  exact .inr (.inr ⟨t, ht, .inr ⟨.inl hid, hroom⟩⟩)

/-- A first chunk that does not start at the beginning is refused, and the room can no longer send
its state through the file relay or under another name. -/
theorem refused_chunk_blocks_file_relay :
    let refused := syncingRoom.room.acceptSnapshotChunk id hostSocket (sampleChunk 1 [1]) .default
    let other : SnapshotChunk := ⟨"other".toList, 0, 0, [1]⟩
    Reachable sampleRelay syncingRoom ∧ refused.1.isOk = false
      ∧ (syncingRoom.room.prepareSnapshotFileRelayTransfer hostSocket (sampleManifest 0)
        .default).isOk = true
      ∧ (refused.2.prepareSnapshotFileRelayTransfer hostSocket (sampleManifest 0)
        .default).isOk = false
      ∧ (syncingRoom.room.acceptSnapshotChunk id hostSocket other .default).1.isOk = true
      ∧ (refused.2.acceptSnapshotChunk id hostSocket other .default).1.isOk = false := by
  refine ⟨syncingRoom_reachable, ?_⟩
  decide +kernel

/-! ## The account after any number of offers -/

/-- One offer of the host; the transfer goes on whatever it answers. -/
def offer (sha256 : List UInt8 → List UInt8) (limits : SnapshotLimits) (t : SnapshotTransferState)
    (chunk : SnapshotChunk) : Option SnapshotTransferState :=
  some (t.acceptChunk sha256 chunk limits).2

/-- The transfer takes the chunk as a new one. -/
def takesAsNew (sha256 : List UInt8 → List UInt8) (limits : SnapshotLimits)
    (t : SnapshotTransferState) (chunk : SnapshotChunk) : Bool :=
  (t.acceptChunk sha256 chunk limits).1.toOption = some true

/-- The chunks that were taken as new. -/
def acceptedAsNew (sha256 : List UInt8 → List UInt8) (limits : SnapshotLimits)
    (offers : List (SnapshotTransferState × SnapshotChunk)) : List SnapshotChunk :=
  (offers.filter fun visit => takesAsNew sha256 limits visit.1 visit.2).map (·.2)

theorem acceptedAsNew_append (past : List (SnapshotTransferState × SnapshotChunk)) :
    acceptedAsNew sha256 limits (past ++ [(t, chunk)])
      = acceptedAsNew sha256 limits past
        ++ if takesAsNew sha256 limits t chunk then [chunk] else [] := by
  rw [acceptedAsNew, List.filter_append, List.map_append, List.filter_singleton]
  by_cases hnew : takesAsNew sha256 limits t chunk
  · simp [acceptedAsNew, hnew]
  · simp [acceptedAsNew, hnew]

/-- All bytes of a list of chunks. -/
def content (chunks : List SnapshotChunk) : List UInt8 := chunks.flatMap (·.bytes)

/-- What the transfer stores about the chunks it took. -/
structure Booked (sha256 : List UInt8 → List UInt8) (limits : SnapshotLimits)
    (accepted : List SnapshotChunk) (t : SnapshotTransferState) : Prop where
  next : t.nextChunkIndex = accepted.length
  count : accepted.length ≤ lastChunkIndex
  received : t.receivedBytes = (content accepted).length
  bounded : t.receivedBytes ≤ limits.maxTotalBytes
  hashed : t.hashed = content accepted
  digests : t.acceptedChunkDigests = accepted.map fun chunk => sha256 chunk.bytes
  indexes : accepted.map (·.index) = List.range accepted.length
  valid : ∀ chunk ∈ accepted, chunk.validate limits = .ok ()
  /-- A transfer that took nothing has no identity. -/
  unnamed : accepted = [] → t.snapshotId = none ∧ t.repairFrame = none
  identity : ∀ chunk ∈ accepted,
    t.snapshotId = some chunk.snapshotId ∧ t.repairFrame = some chunk.repairFrame

theorem booked_new : Booked sha256 limits [] .new where
  next := rfl
  count := Nat.zero_le _
  received := rfl
  bounded := Nat.zero_le _
  hashed := rfl
  digests := rfl
  indexes := rfl
  valid := by simp
  unnamed := fun _ => ⟨rfl, rfl⟩
  identity := by simp

theorem Booked.named_eq (h : Booked sha256 limits accepted t) (hbelongs : Belongs t chunk)
    (hsome : accepted ≠ []) : named t chunk = t := by
  obtain ⟨first, hfirst⟩ := List.exists_mem_of_ne_nil accepted hsome
  exact named_of_hasIdentity hbelongs (.inl (by rw [(h.identity first hfirst).1]; rfl))

theorem Booked.append (h : Booked sha256 limits accepted t)
    (hvalid : chunk.validate limits = .ok ()) (hbelongs : Belongs t chunk)
    (hindex : chunk.index = t.nextChunkIndex) (hfits : Fits limits t chunk)
    (hlast : t.nextChunkIndex < lastChunkIndex) :
    Booked sha256 limits (accepted ++ [chunk])
      { counted sha256 t chunk with nextChunkIndex := t.nextChunkIndex + 1 } where
  next := by simp [h.next]
  count := by
    rw [List.length_append, ← h.next]
    exact hlast
  received := by simp [counted, content, h.received]
  bounded := hfits.2
  hashed := by simp [counted, named, content, h.hashed]
  digests := by simp [counted, h.digests]
  indexes := by simp [List.range_succ, h.indexes, hindex, h.next]
  valid := by
    intro c hc
    rcases List.mem_append.mp hc with hold | hnew
    · exact h.valid c hold
    · rw [List.mem_singleton.mp hnew]
      exact hvalid
  unnamed := by simp
  identity := by
    intro c hc
    rcases List.mem_append.mp hc with hold | hnew
    · -- an older chunk has the identity of the transfer, which this chunk must have had
      have hsame := h.named_eq hbelongs (List.ne_nil_of_mem hold)
      have hidentity := h.identity c hold
      rw [← hsame] at hidentity
      exact hidentity
    · rw [List.mem_singleton.mp hnew]
      exact ⟨rfl, rfl⟩

/-- The offers the account can cope with: no chunk has the last index, and a transfer without an
identity is only offered a chunk it will take or one that is malformed. -/
def Offerable (limits : SnapshotLimits) (t : SnapshotTransferState) (chunk : SnapshotChunk) :
    Prop :=
  chunk.index < lastChunkIndex
    ∧ (t.snapshotId = none → chunk.validate limits = .ok () →
      chunk.index = 0 ∧ Fits limits t chunk)

theorem booked_step (h : Booked sha256 limits accepted t) (hofferable : Offerable limits t chunk) :
    Booked sha256 limits
      (accepted ++ if takesAsNew sha256 limits t chunk then [chunk] else [])
      (t.acceptChunk sha256 chunk limits).2 := by
  have hcases := acceptChunk_offered sha256 limits t chunk
  unfold takesAsNew
  generalize t.acceptChunk sha256 chunk limits = result at hcases ⊢
  cases hcases with
  | foreign => simpa [Except.toOption] using h
  | refused hvalid hbelongs hwhy =>
    have hsome : accepted ≠ [] := by
      rintro rfl
      obtain ⟨hindex, hfits⟩ := hofferable.2 (h.unnamed rfl).1 hvalid
      exact not_outOfPlace (hindex.trans h.next.symm) hfits hwhy
    simpa [Except.toOption, h.named_eq hbelongs hsome] using h
  | repeated hvalid hbelongs hindex =>
    have hsome : accepted ≠ [] := by
      rintro rfl
      exact absurd (h.next ▸ hindex) (Nat.not_lt_zero _)
    simpa [Except.toOption, h.named_eq hbelongs hsome] using h
  | overflowed _ _ hindex _ hlast =>
    have := hofferable.1
    omega
  | appended hvalid hbelongs hindex hfits hlast =>
    simpa [Except.toOption] using h.append hvalid hbelongs hindex hfits hlast

theorem booked_run (hguarded : Guarded (offer sha256 limits) (Offerable limits) .new chunks)
    (hrun : run (offer sha256 limits) .new chunks = some t) :
    Booked sha256 limits
      (acceptedAsNew sha256 limits (visits (offer sha256 limits) .new chunks)) t := by
  have hkeep : ∀ past s chunk s', Booked sha256 limits (acceptedAsNew sha256 limits past) s →
      Offerable limits s chunk → offer sha256 limits s chunk = some s' →
      Booked sha256 limits (acceptedAsNew sha256 limits (past ++ [(s, chunk)])) s' := by
    intro past s chunk s' hs hofferable hoffer
    obtain rfl := Option.some.inj hoffer
    rw [acceptedAsNew_append]
    exact booked_step hs hofferable
  have hnew : Booked sha256 limits (acceptedAsNew sha256 limits []) .new := booked_new
  exact history_run hkeep hguarded.history hrun hnew

/-! ## What the account says -/

theorem complete_eq_ok (manifest : SnapshotManifest) :
    t.complete sha256 manifest limits = .ok ()
      ↔ manifest.validate limits = .ok () ∧ t.snapshotId = some manifest.snapshotId
        ∧ t.repairFrame = some manifest.repairFrame ∧ manifest.totalBytes = t.receivedBytes
        ∧ manifest.sha256 = hexDigest (sha256 t.hashed) := by
  unfold SnapshotTransferState.complete
  cases hvalid : manifest.validate limits with
  | error error => simp [Except.isOk, Except.toBool]
  | ok u =>
    simp only [Except.isOk, Except.toBool, Bool.not_true, Bool.false_eq_true, if_false, true_and]
    by_cases hidentity : t.snapshotId ≠ some manifest.snapshotId
        ∨ t.repairFrame ≠ some manifest.repairFrame
    · rw [if_pos hidentity]
      refine iff_of_false (by simp) fun h => ?_
      exact hidentity.elim (fun hid => hid h.1) fun hframe => hframe h.2.1
    rw [if_neg hidentity]
    obtain ⟨hid, hframe⟩ := not_or.mp hidentity
    simp only [not_not.mp hid, not_not.mp hframe, true_and]
    by_cases hsize : manifest.totalBytes = t.receivedBytes
    · simp only [hsize, ne_eq, not_true_eq_false, if_false, true_and]
      by_cases hdigest : hexDigest (sha256 t.hashed) = manifest.sha256
      · simp [hdigest]
      · simp [hdigest, Ne.symm hdigest]
    · simp [hsize]

theorem acceptChunk_eq_duplicate :
    (t.acceptChunk sha256 chunk limits).1 = .ok false
      ↔ chunk.validate limits = .ok () ∧ Belongs t chunk ∧ chunk.index < t.nextChunkIndex
        ∧ t.acceptedChunkDigests[chunk.index]? = some (sha256 chunk.bytes) := by
  have hcases := acceptChunk_offered sha256 limits t chunk
  generalize t.acceptChunk sha256 chunk limits = result at hcases ⊢
  cases hcases with
  | foreign h =>
    refine iff_of_false (by simp) fun hdup => ?_
    exact h.elim (fun hinvalid => hinvalid hdup.1) fun hforeign => hforeign hdup.2.1
  | refused _ _ h =>
    refine iff_of_false (by simp) fun hdup => ?_
    rcases h with ⟨_, hdigest⟩ | hahead | ⟨hindex, _⟩
    · exact hdigest hdup.2.2.2
    · omega
    · omega
  | repeated hvalid hbelongs hindex hdigest =>
    exact iff_of_true rfl ⟨hvalid, hbelongs, hindex, hdigest⟩
  | overflowed _ _ hindex | appended _ _ hindex => exact iff_of_false (by simp) fun hdup => by omega

/-- The account of a transfer, in terms of the chunks it took as new. -/
structure Accounts (sha256 : List UInt8 → List UInt8) (limits : SnapshotLimits)
    (accepted : List SnapshotChunk) (t : SnapshotTransferState) : Prop where
  /-- They are numbered from 0 on. -/
  indexes : accepted.map (·.index) = List.range accepted.length
  /-- They are chunks of one snapshot. -/
  oneSnapshot : ∀ c ∈ accepted, ∀ d ∈ accepted,
    c.snapshotId = d.snapshotId ∧ c.repairFrame = d.repairFrame
  received : t.receivedBytes = (accepted.map (·.bytes.length)).sum
  bounded : t.receivedBytes ≤ limits.maxTotalBytes
  /-- A chunk of the snapshot is a duplicate exactly if it has the bytes of the chunk with its
  index. -/
  duplicates : ∀ chunk, (t.acceptChunk sha256 chunk limits).1 = .ok false
    ↔ ∃ c, accepted[chunk.index]? = some c ∧ chunk.snapshotId = c.snapshotId
      ∧ chunk.repairFrame = c.repairFrame ∧ chunk.bytes = c.bytes
  /-- The manifests that complete the transfer. -/
  completes : ∀ manifest, t.complete sha256 manifest limits = .ok ()
    ↔ manifest.validate limits = .ok ()
      ∧ (∃ c ∈ accepted, manifest.snapshotId = c.snapshotId ∧ manifest.repairFrame = c.repairFrame)
      ∧ manifest.totalBytes = (content accepted).length
      ∧ manifest.sha256 = hexDigest (sha256 (content accepted))

theorem Booked.identity_iff (h : Booked sha256 limits accepted t) (id : Text) (frame : Nat) :
    t.snapshotId = some id ∧ t.repairFrame = some frame
      ↔ ∃ c ∈ accepted, id = c.snapshotId ∧ frame = c.repairFrame := by
  constructor
  · rintro ⟨hid, hframe⟩
    have hsome : accepted ≠ [] := fun hnil => absurd (hid.symm.trans (h.unnamed hnil).1) (by simp)
    obtain ⟨c, hc⟩ := List.exists_mem_of_ne_nil accepted hsome
    obtain ⟨hid', hframe'⟩ := h.identity c hc
    exact ⟨c, hc, Option.some.inj (hid.symm.trans hid'),
      Option.some.inj (hframe.symm.trans hframe')⟩
  · rintro ⟨c, hc, rfl, rfl⟩
    exact h.identity c hc

theorem Booked.duplicate_iff (hinj : Function.Injective sha256)
    (h : Booked sha256 limits accepted t) (chunk : SnapshotChunk) :
    (t.acceptChunk sha256 chunk limits).1 = .ok false
      ↔ ∃ c, accepted[chunk.index]? = some c ∧ chunk.snapshotId = c.snapshotId
        ∧ chunk.repairFrame = c.repairFrame ∧ chunk.bytes = c.bytes := by
  rw [acceptChunk_eq_duplicate, h.digests, List.getElem?_map, Option.map_eq_some_iff]
  constructor
  · rintro ⟨_, hbelongs, _, c, hc, hdigest⟩
    obtain ⟨hid, hframe⟩ := h.identity c (List.mem_of_getElem? hc)
    rcases hbelongs with ⟨hnone, _⟩ | ⟨hid', hframe'⟩
    · exact absurd (hnone.symm.trans hid) (by simp)
    · exact ⟨c, hc, Option.some.inj (hid'.symm.trans hid),
        Option.some.inj (hframe'.symm.trans hframe), (hinj hdigest).symm⟩
  · rintro ⟨c, hc, hid, hframe, hbytes⟩
    have hmem := List.mem_of_getElem? hc
    have hidentity := h.identity c hmem
    refine ⟨?_, .inr ⟨hid ▸ hidentity.1, hframe ▸ hidentity.2⟩, ?_, c, hc, by rw [hbytes]⟩
    · have hvalid := h.valid c hmem
      rw [SnapshotChunk.validate] at hvalid ⊢
      rw [hid, hbytes]
      exact hvalid
    · rw [h.next]
      exact (List.getElem?_eq_some_iff.mp hc).1

theorem Booked.accounts (hinj : Function.Injective sha256)
    (h : Booked sha256 limits accepted t) : Accounts sha256 limits accepted t where
  indexes := h.indexes
  oneSnapshot := by
    intro c hc d hd
    obtain ⟨hid, hframe⟩ := h.identity c hc
    obtain ⟨hid', hframe'⟩ := h.identity d hd
    exact ⟨Option.some.inj (hid.symm.trans hid'), Option.some.inj (hframe.symm.trans hframe')⟩
  received := by rw [h.received, content, List.length_flatMap]
  bounded := h.bounded
  duplicates := h.duplicate_iff hinj
  completes := by
    intro manifest
    rw [complete_eq_ok, h.received, h.hashed, ← h.identity_iff, and_assoc]

/-- **The account of a snapshot transfer.** -/
theorem transfer_accounts (hinj : Function.Injective sha256)
    (hguarded : Guarded (offer sha256 limits) (Offerable limits) .new chunks)
    (hrun : run (offer sha256 limits) .new chunks = some t) :
    Accounts sha256 limits
      (acceptedAsNew sha256 limits (visits (offer sha256 limits) .new chunks)) t := by
  exact (booked_run hguarded hrun).accounts hinj

/-- An injective digest with room for the hexadecimal text of a real one. -/
def paddedDigest (bytes : List UInt8) : List UInt8 := .replicate 32 0 ++ bytes

theorem paddedDigest_injective : Function.Injective paddedDigest :=
  List.append_right_injective _

/-- Two chunks, the first of them offered twice. -/
def sampleOffers : List SnapshotChunk :=
  [sampleChunk 0 [1, 2], sampleChunk 1 [3], sampleChunk 0 [1, 2]]

theorem sampleOffers_account :
    ∃ t, run (offer paddedDigest .default) .new sampleOffers = some t
      ∧ acceptedAsNew paddedDigest .default
          (visits (offer paddedDigest .default) .new sampleOffers) = sampleOffers.take 2
      ∧ Accounts paddedDigest .default (acceptedAsNew paddedDigest .default
          (visits (offer paddedDigest .default) .new sampleOffers)) t := by
  refine ⟨_, rfl, by decide +kernel, transfer_accounts paddedDigest_injective ?_ rfl⟩
  refine ⟨⟨by decide, fun _ _ => ⟨rfl, by decide⟩⟩, ⟨by decide, ?_⟩, ⟨by decide, ?_⟩, trivial⟩
  · intro hnone
    exact absurd hnone (by decide +kernel)
  · intro hnone
    exact absurd hnone (by decide +kernel)

/-- A chunk that was turned away names the transfer, and an empty snapshot of that name is complete
although no chunk was taken. -/
theorem empty_snapshot_completes :
    let refused := sampleChunk 1 [1]
    let empty : SnapshotManifest := ⟨"snap".toList, 0, 0, .replicate 64 '0'⟩
    Function.Injective paddedDigest
      ∧ acceptedAsNew paddedDigest .default (visits (offer paddedDigest .default) .new [refused])
        = []
      ∧ ∃ t ∈ run (offer paddedDigest .default) .new [refused],
        (t.complete paddedDigest empty .default).isOk = true := by
  refine ⟨paddedDigest_injective, ?_⟩
  decide +kernel

/-! ## A snapshot sent in order -/

/-- The host sends the next chunk and goes on if it was taken as new. -/
def send (sha256 : List UInt8 → List UInt8) (limits : SnapshotLimits) (t : SnapshotTransferState)
    (chunk : SnapshotChunk) : Option SnapshotTransferState :=
  match t.acceptChunk sha256 chunk limits with
  | (.ok true, t') => some t'
  | _ => none

theorem send_of_last (h : lastChunkIndex ≤ t.nextChunkIndex) :
    send sha256 limits t chunk = none := by
  have hcases := acceptChunk_offered sha256 limits t chunk
  unfold send
  generalize t.acceptChunk sha256 chunk limits = result at hcases ⊢
  cases hcases with
  | appended _ _ _ _ hlast => omega
  | foreign | refused | repeated | overflowed => rfl

/-- The chunks are those of one snapshot, numbered from `start` on. -/
structure InOrder (limits : SnapshotLimits) (id : Text) (frame start : Nat)
    (chunks : List SnapshotChunk) : Prop where
  indexes : chunks.map (·.index) = List.range' start chunks.length
  valid : ∀ chunk ∈ chunks, chunk.validate limits = .ok ()
  identity : ∀ chunk ∈ chunks, chunk.snapshotId = id ∧ chunk.repairFrame = frame

theorem InOrder.tail {id : Text} {frame start : Nat}
    (h : InOrder limits id frame start (chunk :: chunks)) :
    InOrder limits id frame (start + 1) chunks where
  indexes := (List.cons.inj h.indexes).2
  valid := fun c hc => h.valid c (List.mem_cons_of_mem _ hc)
  identity := fun c hc => h.identity c (List.mem_cons_of_mem _ hc)

theorem Booked.belongs (h : Booked sha256 limits accepted t)
    (hsame : ∀ c ∈ accepted, c.snapshotId = chunk.snapshotId ∧ c.repairFrame = chunk.repairFrame) :
    Belongs t chunk := by
  by_cases hnil : accepted = []
  · exact .inl (h.unnamed hnil)
  · obtain ⟨c, hc⟩ := List.exists_mem_of_ne_nil accepted hnil
    obtain ⟨hid, hframe⟩ := hsame c hc
    exact .inr ((h.identity_iff _ _).mpr ⟨c, hc, hid.symm, hframe.symm⟩)

/-- Chunks in order are all taken, as long as there are indexes for them. -/
theorem send_run {id : Text} {frame : Nat} (h : Booked sha256 limits accepted t)
    (hold : ∀ c ∈ accepted, c.snapshotId = id ∧ c.repairFrame = frame)
    (horder : InOrder limits id frame accepted.length chunks)
    (hmachine : (content (accepted ++ chunks)).length ≤ u64Max)
    (hlimit : (content (accepted ++ chunks)).length ≤ limits.maxTotalBytes) :
    (lastChunkIndex < (accepted ++ chunks).length ∧ run (send sha256 limits) t chunks = none)
      ∨ ∃ t', run (send sha256 limits) t chunks = some t'
        ∧ Booked sha256 limits (accepted ++ chunks) t' := by
  induction chunks generalizing accepted t with
  | nil => exact .inr ⟨t, rfl, by rwa [List.append_nil]⟩
  | cons chunk chunks ih =>
    rw [run]
    by_cases hlast : t.nextChunkIndex < lastChunkIndex
    · have hvalid := horder.valid chunk List.mem_cons_self
      obtain ⟨hid, hframe⟩ := horder.identity chunk List.mem_cons_self
      have hbelongs : Belongs t chunk := by
        refine h.belongs fun c hc => ?_
        rw [hid, hframe]
        exact hold c hc
      have hindex : chunk.index = t.nextChunkIndex := by
        rw [h.next]
        exact (List.cons.inj horder.indexes).1
      have hlength : (content (accepted ++ chunk :: chunks)).length
          = t.receivedBytes + chunk.bytes.length + (content chunks).length := by
        rw [h.received]
        simp [content]
        omega
      have hfits : Fits limits t chunk := by
        rw [hlength] at hmachine hlimit
        exact ⟨by omega, by omega⟩
      have hsend : send sha256 limits t chunk
          = some { counted sha256 t chunk with nextChunkIndex := t.nextChunkIndex + 1 } := by
        rw [send, acceptChunk_next hvalid hbelongs hindex hfits, if_pos hlast]
      rw [hsend]
      rw [List.append_cons] at hmachine hlimit ⊢
      refine ih (h.append hvalid hbelongs hindex hfits hlast) ?_ ?_ hmachine hlimit
      · intro c hc
        rcases List.mem_append.mp hc with hc | hc
        · exact hold c hc
        · rw [List.mem_singleton.mp hc]
          exact ⟨hid, hframe⟩
      · rw [List.length_append]
        exact horder.tail
    · rw [send_of_last (Nat.le_of_not_lt hlast)]
      refine .inl ⟨?_, rfl⟩
      rw [h.next] at hlast
      simp
      omega

theorem InOrder.init {id : Text} {frame start : Nat}
    (h : InOrder limits id frame start (chunks ++ [chunk])) :
    InOrder limits id frame start chunks where
  indexes := by
    have hall := h.indexes
    rw [List.map_append, List.length_append, ← List.range'_append_1] at hall
    exact (List.append_inj hall (by simp)).1
  valid := fun c hc => h.valid c (List.mem_append_left _ hc)
  identity := fun c hc => h.identity c (List.mem_append_left _ hc)

/-- The other way to lose the account: the chunk with the last index is refused, but its bytes are
counted and hashed all the same. -/
theorem last_chunk_counted {id : Text} {frame : Nat}
    (horder : InOrder limits id frame 0 (chunks ++ [chunk]))
    (hcount : chunks.length = lastChunkIndex)
    (hmachine : (content (chunks ++ [chunk])).length ≤ u64Max)
    (hlimit : (content (chunks ++ [chunk])).length ≤ limits.maxTotalBytes) :
    ∃ t, run (send sha256 limits) .new chunks = some t
      ∧ t.acceptChunk sha256 chunk limits = (.error .snapshotInvalid, counted sha256 t chunk) := by
  have hlength : (content (chunks ++ [chunk])).length
      = (content chunks).length + chunk.bytes.length := by simp [content]
  rw [hlength] at hmachine hlimit
  obtain ⟨hlong, _⟩ | ⟨t, hrun, hbooked⟩ := send_run booked_new (by simp) horder.init
    (Nat.le_trans (Nat.le_add_right _ _) hmachine) (Nat.le_trans (Nat.le_add_right _ _) hlimit)
  · exact absurd hcount (Nat.ne_of_gt hlong)
  rw [List.nil_append] at hbooked
  refine ⟨t, hrun, ?_⟩
  have hmem : chunk ∈ chunks ++ [chunk] := List.mem_append_right _ List.mem_cons_self
  have hindex : chunk.index = t.nextChunkIndex := by
    have hall := horder.indexes
    rw [List.map_append, List.length_append, ← List.range'_append_1] at hall
    rw [hbooked.next]
    simpa using (List.append_inj hall (by simp)).2
  have hfits : Fits limits t chunk := by
    rw [Fits, hbooked.received]
    exact ⟨hmachine, hlimit⟩
  have hbelongs : Belongs t chunk := by
    refine hbooked.belongs fun c hc => ?_
    obtain ⟨hid, hframe⟩ := horder.identity chunk hmem
    rw [hid, hframe]
    exact horder.identity c (List.mem_append_left _ hc)
  have hlast : ¬t.nextChunkIndex < lastChunkIndex := by
    rw [hbooked.next, hcount]
    exact Nat.lt_irrefl _
  rw [acceptChunk_next (horder.valid chunk hmem) hbelongs hindex hfits, if_neg hlast]

theorem manifest_size {manifest : SnapshotManifest} (h : manifest.validate limits = .ok ()) :
    manifest.totalBytes ≤ limits.maxTotalBytes := by
  by_contra hbig
  unfold SnapshotManifest.validate at h
  rw [if_pos (Nat.lt_of_not_le hbig)] at h
  split at h
  · exact absurd h (by simp)
  · exact absurd h (by simp)

theorem hexDigest_lower (digest : List UInt8) :
    (hexDigest digest).map Char.toLower = hexDigest digest := by
  have hdigit : ∀ n < 16, (Nat.digitChar n).toLower = Nat.digitChar n := by decide
  rw [hexDigest, List.map_flatMap]
  congr 1
  funext b
  have hb := b.toNat_lt
  rw [List.map_cons, List.map_cons, hdigit _ (by omega), hdigit _ (Nat.mod_lt _ (by omega)),
    List.map_nil]

/-- **When a snapshot sent in order arrives.** -/
theorem transfer_succeeds_iff (sha256 : List UInt8 → List UInt8) (limits : SnapshotLimits)
    (manifest : SnapshotManifest) (chunks : List SnapshotChunk)
    (hvalid : manifest.validate limits = .ok ()) (hmachine : manifest.totalBytes ≤ u64Max)
    (horder : InOrder limits manifest.snapshotId manifest.repairFrame 0 chunks)
    (hsize : manifest.totalBytes = (content chunks).length)
    (hdigest : manifest.sha256.map Char.toLower
      = (hexDigest (sha256 (content chunks))).map Char.toLower) :
    (∃ t, run (send sha256 limits) .new chunks = some t
        ∧ t.complete sha256 manifest limits = .ok ())
      ↔ chunks ≠ [] ∧ chunks.length ≤ lastChunkIndex
        ∧ ∀ c ∈ manifest.sha256, c.toLower = c := by
  have hmachine' : (content ([] ++ chunks)).length ≤ u64Max := hsize ▸ hmachine
  have hlimit : (content ([] ++ chunks)).length ≤ limits.maxTotalBytes :=
    hsize ▸ manifest_size hvalid
  rcases send_run booked_new (by simp) horder hmachine' hlimit with
    ⟨hlong, hnone⟩ | ⟨t, hrun, hbooked⟩
  · refine iff_of_false (fun ⟨t, ht, _⟩ => absurd (hnone.symm.trans ht) (by simp)) ?_
    rintro ⟨_, hcount, _⟩
    exact absurd hcount (Nat.not_le.mpr hlong)
  have hcomplete : (∃ t, run (send sha256 limits) .new chunks = some t
        ∧ t.complete sha256 manifest limits = .ok ())
      ↔ t.complete sha256 manifest limits = .ok () := by
    rw [hrun]
    simp
  rw [List.nil_append] at hbooked
  rw [hcomplete, complete_eq_ok, hbooked.received, hbooked.hashed]
  have hlower : manifest.sha256 = hexDigest (sha256 (content chunks))
      ↔ ∀ c ∈ manifest.sha256, c.toLower = c := by
    rw [hexDigest_lower] at hdigest
    rw [← hdigest, eq_comm]
    simpa using List.map_inj_left (f := Char.toLower) (g := id) (l := manifest.sha256)
  constructor
  · rintro ⟨_, hid, _, _, hsame⟩
    refine ⟨?_, hbooked.count, hlower.mp hsame⟩
    rintro rfl
    exact absurd (hid.symm.trans (hbooked.unnamed rfl).1) (by simp)
  · rintro ⟨hsome, _, hletters⟩
    obtain ⟨c, hc⟩ := List.exists_mem_of_ne_nil chunks hsome
    obtain ⟨hid, hframe⟩ := hbooked.identity c hc
    obtain ⟨hid', hframe'⟩ := horder.identity c hc
    exact ⟨hvalid, hid' ▸ hid, hframe' ▸ hframe, hsize, hlower.mpr hletters⟩

/-- A digest with letters in its hexadecimal text. -/
def letterDigest (_ : List UInt8) : List UInt8 := .replicate 32 171

/-- The manifest of a one-byte snapshot, its checksum written as `pattern`. -/
def letterManifest (pattern : List Char) : SnapshotManifest :=
  ⟨"snap".toList, 0, 1, (List.replicate 32 pattern).flatten⟩

theorem inOrder_single :
    InOrder .default (letterManifest ['a', 'b']).snapshotId 0 0 [sampleChunk 0 [1]] where
  indexes := rfl
  valid := by
    intro chunk hchunk
    rw [List.mem_singleton.mp hchunk]
    rfl
  identity := by
    intro chunk hchunk
    rw [List.mem_singleton.mp hchunk]
    exact ⟨rfl, rfl⟩

theorem lower_case_transfer_succeeds :
    ∃ t, run (send letterDigest .default) .new [sampleChunk 0 [1]] = some t
      ∧ t.complete letterDigest (letterManifest ['a', 'b']) .default = .ok () := by
  have hletters : ∀ c ∈ (letterManifest ['a', 'b']).sha256, c.toLower = c := by
    intro c hc
    obtain ⟨pattern, hpattern, hc⟩ := List.mem_flatten.mp hc
    rw [List.eq_of_mem_replicate hpattern, List.mem_pair] at hc
    rcases hc with rfl | rfl
    · rfl
    · rfl
  exact (transfer_succeeds_iff letterDigest .default (letterManifest ['a', 'b']) _ rfl (by decide)
    inOrder_single rfl (by decide +kernel)).mpr ⟨by simp, by decide, hletters⟩

/-- A manifest that is valid and right except that its checksum is in capitals. -/
theorem upper_case_transfer_fails :
    ((letterManifest ['A', 'B']).validate .default).isOk = true
      ∧ (letterManifest ['A', 'B']).sha256.map Char.toLower
        = hexDigest (letterDigest (content [sampleChunk 0 [1]]))
      ∧ ∃ t ∈ run (send letterDigest .default) .new [sampleChunk 0 [1]],
        (t.complete letterDigest (letterManifest ['A', 'B']) .default).isOk = false := by
  decide +kernel

end NetplayRelay.Proof
