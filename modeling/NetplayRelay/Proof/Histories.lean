import NetplayRelay.Registry.StoredRoom

/-!
# Histories of a room

A property that holds of a new room and that no admissible call can break holds in every
reachable room. The second half of the module writes down one ordinary history, from the creation
of a room to its first stretch of play, in pieces that can be put together: results about
particular rooms start from it.
-/

namespace NetplayRelay.Proof

open Lib Protocol Rooms Registry

variable {relay : Relay} {s t : StoredRoom} {ops : List RoomOp}

/-- The calls by which players pause and resume a session. -/
def isPauseCall : RoomOp → Bool
  | .requestSessionPause .. | .requestSessionResume .. | .markSessionPauseReached .. => true
  | _ => false

/-! ## The rule for reachable rooms -/

theorem step_room {op : RoomOp} (h : s.step relay op = some t) :
    t.room = applyOp relay s.room op := by
  unfold StoredRoom.step at h
  split at h
  · exact absurd h (by simp)
  · exact (congrArg (·.room) (Option.some.inj h)).symm

/-- A sweep that finds an overdue pin drops the room. -/
theorem step_sweep_pin {now : Instant} (h : s.step relay (.sweep now) = some t) :
    s.room.stateRecoveryPinExpired now = false := by
  by_contra hpin
  have hremoved : s.removedBy relay (.sweep now) := by
    simp [StoredRoom.removedBy, StoredRoom.sweepRemoves, NetplayRoom.closeExpiredStateRecovery,
      hpin]
  rw [StoredRoom.step, if_pos hremoved] at h
  exact absurd h (by simp)

/-- A reachable room stays reachable over further calls. -/
theorem reachable_run (h : Reachable relay s)
    (hguarded : Guarded (StoredRoom.step relay) (fun s op => Admissible s.room op) s ops)
    (hrun : run (StoredRoom.step relay) s ops = some t) : Reachable relay t := by
  obtain ⟨roomId, key, c, session, version, resume, input, now, voice, past, hpast, hreached⟩ := h
  refine ⟨roomId, key, c, session, version, resume, input, now, voice, past ++ ops, ?_, ?_⟩
  · exact (guarded_append hreached).mpr ⟨hpast, hguarded⟩
  · rw [run_append hreached, hrun]

theorem reachable_step {op : RoomOp} (h : Reachable relay s) (hadmissible : Admissible s.room op)
    (hstep : s.step relay op = some t) : Reachable relay t := by
  have hone : Guarded (StoredRoom.step relay) (fun s op => Admissible s.room op) s [op] := by
    rw [Guarded, hstep]
    exact ⟨hadmissible, trivial⟩
  exact reachable_run h hone (run_cons.mpr ⟨t, hstep, rfl⟩)

theorem reachable_createRoom {roomId key c session version resume input now voice} :
    Reachable relay (createRoom roomId key c session version resume input now voice) :=
  ⟨roomId, key, c, session, version, resume, input, now, voice, [], trivial, rfl⟩

/-- **Rule for reachable rooms.** What is known of reachable rooms may be used at each step. -/
theorem reachable_inv (Inv : NetplayRoom → Prop)
    (hnew : ∀ roomId key c session version resume input now voice,
      Inv (createRoom roomId key c session version resume input now voice).room)
    (hstep : ∀ s op, Reachable relay s → Inv s.room → Admissible s.room op →
      Inv (applyOp relay s.room op)) {s : StoredRoom} (h : Reachable relay s) : Inv s.room := by
  obtain ⟨roomId, key, c, session, version, resume, input, now, voice, ops, hguarded, hrun⟩ := h
  have hkeep : ∀ s op t, Reachable relay s ∧ Inv s.room → Admissible s.room op →
      s.step relay op = some t → Reachable relay t ∧ Inv t.room := by
    intro s op t hs hadmissible ht
    refine ⟨reachable_step hs.1 hadmissible ht, ?_⟩
    rw [step_room ht]
    exact hstep s op hs.1 hs.2 hadmissible
  exact (invariant_run hkeep hguarded hrun ⟨reachable_createRoom, hnew ..⟩).2

/-- The stored room after some calls; a room that was dropped on the way stays as it began. -/
def after (relay : Relay) (s : StoredRoom) (ops : List RoomOp) : StoredRoom :=
  (run (StoredRoom.step relay) s ops).getD s

/-- The calls are admissible one after the other and never drop the room. -/
def Possible (relay : Relay) (s : StoredRoom) (ops : List RoomOp) : Prop :=
  Guarded (StoredRoom.step relay) (fun s op => Admissible s.room op) s ops
    ∧ (run (StoredRoom.step relay) s ops).isSome

instance (relay : Relay) (s : StoredRoom) (ops : List RoomOp) : Decidable (Possible relay s ops) :=
  inferInstanceAs (Decidable (_ ∧ _))

theorem Possible.run_eq {s : StoredRoom} (h : Possible relay s ops) :
    run (StoredRoom.step relay) s ops = some (after relay s ops) := by
  obtain ⟨t, ht⟩ := Option.isSome_iff_exists.mp h.2
  rw [after, ht, Option.getD_some]

theorem reachable_after {roomId key c session version resume input now voice}
    (h : Possible relay (createRoom roomId key c session version resume input now voice) ops) :
    Reachable relay
      (after relay (createRoom roomId key c session version resume input now voice) ops) := by
  exact ⟨roomId, key, c, session, version, resume, input, now, voice, ops, h.1, h.run_eq⟩

/-! ## An ordinary history -/

def sampleRelay : Relay where
  recovery := .default
  joinTimeout := secs 600
  timeOrigin := 0
  sha256 := id

def sampleHash : Text := List.replicate 64 'a'

def sampleSession : NetplaySessionDescriptor where
  mode := .controllerNetplay
  game := ⟨"snes".toList, sampleHash⟩
  core := ⟨"snes9x".toList, none, none⟩
  controller := ⟨3⟩
  link := none
  romIdentity := some ⟨sampleHash, 512⟩
  romRelay := none

def sampleProfile : DeterminismProfileV5 where
  netplayCoreCompatibilityId := "core".toList
  localArtifactId := "build".toList
  platformClass := "desktop".toList
  coreOptionsDigest := sampleHash
  controllerProfileIds := ["pad".toList]
  inputCodecId := v5InputCodecId
  inputPayloadSize := v5RetropadInputBytes
  predictorId := v5InputPredictorId
  nominalFrameRateNumerator := 60
  nominalFrameRateDenominator := 1
  romSizeBytes := 512
  contentTransformationDigest := none
  startupStatePolicyId := "cold".toList
  replayOutputSuppressed := true
  digestMode := .authoritative
  digestAlgorithmId := some "sha256".toList

/-- A fingerprint that fits the sample session under protocol version `version`. -/
def sampleFingerprint (version : Nat) : CompatibilityFingerprint where
  protocolVersion := version
  systemId := "snes".toList
  coreId := "snes9x".toList
  coreBuild := "1".toList
  stateFormat := none
  contentHash := sampleHash
  settingsHash := sampleHash
  cheatsHash := sampleHash
  systemDataHash := none
  saveDataMode := "none".toList
  determinismV5 := some sampleProfile

def sampleRoom (version : Nat) : StoredRoom :=
  createRoom ⟨0⟩ "host".toList ⟨0⟩ sampleSession version [] [] 0 none

def hostSocket : ConnectionId := ⟨1⟩
def guestSocket : ConnectionId := ⟨2⟩
def hostInput : ConnectionId := ⟨3⟩
def guestInput : ConnectionId := ⟨4⟩

/-- The socket a player comes back on. -/
def newSocket : ConnectionId := ⟨9⟩

/-- Both players take their seats, with all four sockets. -/
def seating (scheduledStart : Bool) : List RoomOp :=
  let capabilities : ClientTransportCapabilities :=
    ⟨true, true, scheduledStart, scheduledStart, true⟩
  [.connectHost "host".toList hostSocket "hr".toList "hi".toList 0 capabilities,
    .joinGuest "guest".toList guestSocket "gr".toList "gi".toList 0 capabilities,
    .connectInputSocket .one 2 2 "hi".toList hostInput 0,
    .connectInputSocket .two 2 2 "gi".toList guestInput 0]

def sampleManifest (frame : Nat) : SnapshotManifest := ⟨"snap".toList, frame, 1, sampleHash⟩

/-- The handshake of a session that starts at `frame`: fingerprints, snapshot, readiness. -/
def handshake (version frame : Nat) : List RoomOp :=
  let grant : SnapshotFileRelayGrant := ⟨"t".toList, [], sampleManifest frame⟩
  [.setCompatibility .stored hostSocket (sampleFingerprint version),
    .setCompatibility .stored guestSocket (sampleFingerprint version),
    .grantSnapshotFileRelayUpload hostSocket (sampleManifest frame) ⟨grant, grant⟩,
    .relaySnapshotFileUploadComplete hostSocket "t".toList (sampleManifest frame),
    .markReady hostSocket none 0,
    .markReady guestSocket none 0]

/-- An answer to the first clock request of a session. -/
def clockSample (i : Nat) : ClockSyncSample := ⟨"clock-2-2-1".toList, i, 0, 0, 0⟩

/-- What fixes a start, up to the guest's last clock sample. -/
def almostScheduled : List RoomOp :=
  [.markDeterministicReady .stored hostSocket none 0,
    .markDeterministicReady .stored guestSocket none 0,
    .recordClockSyncSample .stored hostSocket (clockSample 0) 0,
    .recordClockSyncSample .stored hostSocket (clockSample 1) 0,
    .recordClockSyncSample .stored guestSocket (clockSample 0) 0]

/-- The two players report different states for `frame`. -/
def mismatchAt (frame : Nat) : List RoomOp :=
  [.recordStateHash .stored hostSocket ⟨frame, sampleHash⟩ 0,
    .recordStateHash .stored guestSocket ⟨frame, List.replicate 64 'b'⟩ 0]

/-- A fingerprint of another system: no sample session accepts it. -/
def strangeFingerprint (version : Nat) : CompatibilityFingerprint :=
  { sampleFingerprint version with systemId := "nes".toList }

/-- Two frames of input on the epochs of the first session. -/
def sampleBatch (player : PlayerIndex) (frame : Nat) : StrictInputBatch :=
  ⟨2, 2, player, frame, [.replicate 10 0, .replicate 10 1]⟩

/-- A session in full swing. -/
def playingRoom : StoredRoom := after sampleRelay (sampleRoom 5) (seating false ++ handshake 5 0)

/-- The guest armed a runner handoff before the handshake of a legacy session. -/
def handoffRoom : StoredRoom :=
  after sampleRelay (sampleRoom 4)
    (seating false ++ [.armRunnerHandoff guestSocket 0] ++ handshake 4 0)

/-- The players' states differ and the host has not pinned the repair state yet. -/
def repairingRoom : StoredRoom :=
  after sampleRelay (sampleRoom 5) (seating false ++ handshake 5 0 ++ mismatchAt 600)

theorem playingRoom_reachable : Reachable sampleRelay playingRoom :=
  reachable_after (by decide +kernel)

theorem handoffRoom_reachable : Reachable sampleRelay handoffRoom :=
  reachable_after (by decide +kernel)

theorem repairingRoom_reachable : Reachable sampleRelay repairingRoom :=
  reachable_after (by decide +kernel)

end NetplayRelay.Proof
