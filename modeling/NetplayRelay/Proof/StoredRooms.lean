import NetplayRelay.Proof.Deadlines
import NetplayRelay.Proof.Digests
import NetplayRelay.Proof.Rejoin
import NetplayRelay.Proof.Releases

/-!
# What holds of every stored room

A relay that has run for any time, with rooms created, called and swept in any order, stores only
rooms that fit the following description. It is what a maintainer may rely on when a new operation
is written: which fields go together, and which are empty in which status.
-/

namespace NetplayRelay.Proof

open Lib Protocol Rooms Registry

variable {relay : Relay} {registry : RoomRegistry} {key : Text} {s : StoredRoom}

/-! ## A registry with one room in it -/

/-- The first open of the host comes before the scheduled start. -/
def openHeld : List RoomOp :=
  seating true ++ handshake 5 0 ++ almostScheduled
    ++ [.recordClockSyncSample .stored guestSocket (clockSample 1) 0,
      .relayStrictInputBatch hostInput (sampleBatch .one 0),
      .relayHostFrameOpen hostInput ⟨2, 2, 0⟩ 0]

theorem sampleRegistry_stored (ops : List RoomOp) (test : NetplayRoom → Bool)
    (h : Guarded (fun registry op => some (RoomRegistry.apply sampleRelay registry op))
        RegistryAdmissible Intake.empty (storedHistory ops)
      ∧ ((sampleRegistry ops).stored.lookup sampleCode.normalized).any (test ·.room)) :
    ∃ s, RegistryReachable sampleRelay (sampleRegistry ops)
      ∧ (sampleRegistry ops).stored.lookup sampleCode.normalized = some s ∧ test s.room := by
  obtain ⟨s, hs, htest⟩ := (Option.any_eq_true _ _).mp h.2
  exact ⟨s, registry_reachable_foldl h.1, hs, htest⟩

/-! ## Every stored room -/

/-- **While a player is waited for, nothing of a session is left**: no clock request, pause, input,
start or repair. While the room recovers there are no votes and no clock samples either. -/
theorem stored_rooms_wait_idle (h : RegistryReachable relay registry)
    (hs : registry.stored.lookup key = some s) (hwaited : Waited s.room) :
    Idle (sessionCore s.room) ∧ (s.room.status = .recovering → Bare (sessionCore s.room)) := by
  have hreachable := registry_rooms_reachable h key s hs
  exact ⟨waited_reachable hreachable hwaited, bare_reachable hreachable⟩

theorem stored_rooms_wait_idle_lost :
    ∃ s : StoredRoom, s.room.status = .recovering ∧ Idle (sessionCore s.room)
      ∧ Bare (sessionCore s.room) := by
  obtain ⟨s, h, hs, htest⟩ :=
    sampleRegistry_stored hostLost (fun r => r.status = .recovering) (by decide +kernel)
  have hstatus := of_decide_eq_true htest
  obtain ⟨hidle, hbare⟩ := stored_rooms_wait_idle h hs (.inl hstatus)
  exact ⟨s, hstatus, hidle, hbare hstatus⟩

/-- **A held host open is the next one.** It is for the frame that is released next, with which the
scheduled start begins, and the host's input for it has been accepted. -/
theorem stored_rooms_hold_next {frame : Nat} (h : RegistryReachable relay registry)
    (hs : registry.stored.lookup key = some s) (hstrict : s.room.usesStrictControllerInput)
    (hheld : s.room.pendingHostFrameOpen = some frame) :
    frame = s.room.nextReleaseFrame
      ∧ (∃ start, s.room.scheduledStart = some start ∧ start.startFrame = frame)
      ∧ (s.room.status = .startScheduled → frame < s.room.expectedFrame .one) := by
  have hreachable := registry_rooms_reachable h key s hs
  obtain ⟨hnext, hstart⟩ := (frames_reachable hreachable).pending hstrict frame hheld
  exact ⟨hnext, hstart, fun hstatus => held_reachable hreachable hstrict hstatus frame hheld⟩

theorem stored_rooms_hold_next_scheduled :
    ∃ s : StoredRoom, s.room.pendingHostFrameOpen = some 0 ∧ 0 = s.room.nextReleaseFrame
      ∧ (∃ start, s.room.scheduledStart = some start ∧ start.startFrame = 0)
      ∧ (s.room.status = .startScheduled → 0 < s.room.expectedFrame .one) := by
  obtain ⟨s, h, hs, htest⟩ := sampleRegistry_stored openHeld
    (fun r => r.usesStrictControllerInput && r.pendingHostFrameOpen = some 0) (by decide +kernel)
  obtain ⟨hstrict, hheld⟩ := Bool.and_eq_true_iff.mp htest
  have hheld := of_decide_eq_true hheld
  exact ⟨s, hheld, stored_rooms_hold_next h hs hstrict hheld⟩

/-- **A repair stays with its epochs.** Only strict rooms are repaired, and under a number below the
next one. The room is frozen on the epochs on which the repair was opened; once the host's snapshot
is pinned it is on the next session epoch, and completes no other snapshot. -/
theorem stored_rooms_repair {transaction : StateRecoveryTransaction}
    (h : RegistryReachable relay registry) (hs : registry.stored.lookup key = some s)
    (hrepair : s.room.stateRecovery = some transaction) :
    s.room.usesStrictControllerInput
      ∧ (transaction.recoveryId < u64Max → transaction.recoveryId < s.room.nextStateRecoveryId)
      ∧ (s.room.status = .repairingState → s.room.roomEpoch = transaction.preparingRoomEpoch
        ∧ s.room.sessionEpoch = transaction.preparingSessionEpoch)
      ∧ ∀ manifest, transaction.pinnedSnapshot = some manifest →
        Committed (sessionCore s.room) transaction manifest := by
  have hreachable := registry_rooms_reachable h key s hs
  have hinv := repairs_reachable hreachable
  refine ⟨hinv.strict (Option.isSome_of_mem hrepair), ?_, hinv.repairing transaction hrepair,
    fun manifest => hinv.committed transaction manifest hrepair⟩
  exact (numbered_reachable hreachable).active transaction hrepair

theorem stored_rooms_repair_opened :
    ∃ (s : StoredRoom) (transaction : StateRecoveryTransaction),
      s.room.stateRecovery = some transaction ∧ s.room.usesStrictControllerInput
        ∧ s.room.roomEpoch = transaction.preparingRoomEpoch := by
  obtain ⟨s, h, hs, htest⟩ :=
    sampleRegistry_stored (seating false ++ handshake 5 0 ++ mismatchAt 600)
    (fun r => r.stateRecovery.isSome && r.status = .repairingState) (by decide +kernel)
  obtain ⟨hopen, hstatus⟩ := Bool.and_eq_true_iff.mp htest
  obtain ⟨transaction, hrepair⟩ := Option.isSome_iff_exists.mp hopen
  obtain ⟨hstrict, _, hepochs, _⟩ := stored_rooms_repair h hs hrepair
  exact ⟨s, transaction, hrepair, hstrict, (hepochs (of_decide_eq_true hstatus)).1⟩

/-- **Stored fingerprints are those of the two players, and each fits the session.** -/
theorem stored_rooms_fingerprints {p : PlayerIndex} {fp : CompatibilityFingerprint}
    (h : RegistryReachable relay registry) (hs : registry.stored.lookup key = some s)
    (hp : s.room.compatibility.lookup p = some fp) :
    (p = .one ∨ p = .two) ∧ s.room.fingerprintMatchesSession fp := by
  have hreachable := registry_rooms_reachable h key s hs
  exact ⟨keysSeated_reachable hreachable p (Option.isSome_of_mem hp),
    storedFit_reachable hreachable p fp hp⟩

theorem stored_rooms_fingerprints_playing :
    ∃ (s : StoredRoom) (fp : CompatibilityFingerprint), s.room.compatibility.lookup .one = some fp
      ∧ s.room.fingerprintMatchesSession fp := by
  obtain ⟨s, h, hs, htest⟩ := sampleRegistry_stored (seating false ++ handshake 5 0)
    (fun r => (r.compatibility.lookup .one).isSome) (by decide +kernel)
  obtain ⟨fp, hp⟩ := Option.isSome_iff_exists.mp htest
  exact ⟨s, fp, hp, (stored_rooms_fingerprints h hs hp).2⟩

end NetplayRelay.Proof
