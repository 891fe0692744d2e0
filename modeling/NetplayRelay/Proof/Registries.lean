import NetplayRelay.Proof.Histories
import NetplayRelay.Registry.RoomRegistry

/-!
# The rooms of a registry

A registry works on its rooms one by one. This holds of the sweep as well, although it walks over
all rooms before it removes any: what it leaves under a code is what `StoredRoom.step` makes of the
room that was there. So every stored room has a history of its own, and what is known of reachable
rooms is true of all rooms of a reachable registry.
-/

namespace NetplayRelay.Proof

open Lib Protocol Rooms Registry

variable {relay : Relay} {registry : RoomRegistry} {key : Text} {now : Instant}

/-- The two reasons for which a sweep removes a room. -/
theorem sweepRemoves_eq (relay : Relay) (s : StoredRoom) (now : Instant) :
    s.sweepRemoves relay now = (RoomRegistry.closedInSweep now s
      || RoomRegistry.isExpired relay now { s with room := sweepRoom relay s.room now }) := by
  simp only [StoredRoom.sweepRemoves, RoomRegistry.closedInSweep, RoomRegistry.isExpired,
    Bool.or_assoc]

/-- **A sweep works on each room alone.** -/
theorem sweepExpiredRooms_lookup (relay : Relay) (registry : RoomRegistry) (now : Instant)
    (key : Text) :
    (RoomRegistry.sweepExpiredRooms relay registry now).2.stored.lookup key
      = (registry.stored.lookup key).bind (·.step relay (.sweep now)) := by
  simp only [RoomRegistry.sweepExpiredRooms, Store.lookup_eraseAll, Store.lookup_mapValues,
    List.mem_dedup, List.mem_append, Store.mem_keysWhere]
  cases hstored : registry.stored.lookup key with
  | none => simp
  | some s =>
    have hremoved : s.removedBy relay (.sweep now) = s.sweepRemoves relay now := rfl
    simp only [Option.map_some, Option.some.injEq, exists_eq_left', Option.bind_some,
      StoredRoom.step, hremoved, sweepRemoves_eq, Bool.or_eq_true,
      or_comm (b := RoomRegistry.closedInSweep now s = true), publishedBy, List.append_nil]
    rfl

/-- Where a stored room comes from. -/
theorem apply_lookup {op : RegistryOp} {t : StoredRoom}
    (h : (RoomRegistry.apply relay registry op).stored.lookup key = some t)
    (hadmissible : RegistryAdmissible registry op) :
    registry.stored.lookup key = some t
      ∨ (∃ s roomOp, registry.stored.lookup key = some s ∧ Admissible s.room roomOp
          ∧ s.step relay roomOp = some t)
      ∨ ∃ draft voice, t = RoomDraft.complete draft voice := by
  cases op with
  | beginCreateRoom => exact .inl h
  | finishCreateRoom i voice =>
    rw [RoomRegistry.apply, RoomRegistry.finishCreateRoom, Intake.finish] at h
    split at h
    · exact .inl h
    rename_i key' draft _
    by_cases hkey : key = key'
    · subst hkey
      rw [AList.lookup_insert] at h
      exact .inr (.inr ⟨draft, voice, (Option.some.inj h).symm⟩)
    · rw [AList.lookup_insert_ne hkey] at h
      exact .inl h
  | call code roomOp =>
    rw [RoomRegistry.apply, RoomRegistry.call] at h
    split at h
    · exact .inl h
    rename_i s hs
    by_cases hkey : key = code.normalized
    · subst hkey
      split at h
      · rw [AList.lookup_erase] at h
        exact absurd h (by simp)
      · rename_i t' ht
        rw [AList.lookup_insert] at h
        exact .inr (.inl ⟨s, roomOp, hs, hadmissible.2 s hs, ht.trans h⟩)
    · split at h
      · rw [AList.lookup_erase_ne hkey] at h
        exact .inl h
      · rw [AList.lookup_insert_ne hkey] at h
        exact .inl h
  | sweepExpiredRooms now =>
    rw [RoomRegistry.apply, sweepExpiredRooms_lookup] at h
    obtain ⟨s, hs, ht⟩ := Option.bind_eq_some_iff.mp h
    exact .inr (.inl ⟨s, .sweep now, hs, rfl, ht⟩)

/-- What admissible operations make of an empty registry is reachable. -/
theorem registry_reachable_foldl {ops : List RegistryOp}
    (h : Guarded (fun registry op => some (RoomRegistry.apply relay registry op)) RegistryAdmissible
      Intake.empty ops) :
    RegistryReachable relay (ops.foldl (RoomRegistry.apply relay) Intake.empty) :=
  ⟨ops, h, run_some _ _ _⟩

/-- **Every room of a registry has a history.** -/
theorem registry_rooms_reachable (h : RegistryReachable relay registry) :
    ∀ key s, registry.stored.lookup key = some s → Reachable relay s := by
  obtain ⟨ops, hguarded, hrun⟩ := h
  have hstep : ∀ (registry : RoomRegistry) op registry',
      (∀ key s, registry.stored.lookup key = some s → Reachable relay s) →
      RegistryAdmissible registry op →
        some (RoomRegistry.apply relay registry op) = some registry' →
      ∀ key s, registry'.stored.lookup key = some s → Reachable relay s := by
    intro registry op registry' hinv hadmissible happly key t ht
    rw [← Option.some.inj happly] at ht
    rcases apply_lookup ht hadmissible with hold | ⟨s, roomOp, hs, hroom, hmade⟩
      | ⟨draft, voice, rfl⟩
    · exact hinv key t hold
    · exact reachable_step (hinv key s hs) hroom hmade
    · exact reachable_createRoom
  refine invariant_run hstep hguarded hrun ?_
  intro key s hs
  exact absurd hs (by simp [Intake.empty])

/-! ## A registry with one room -/

def sampleCode : InviteCode := .generate (.replicate 16 0)

def sampleDraft : RoomDraft := ⟨⟨0⟩, "host".toList, ⟨0⟩, sampleSession, 5, [], [], 0⟩

/-- The room is created and called. -/
def storedHistory (ops : List RoomOp) : List RegistryOp :=
  [.beginCreateRoom sampleCode sampleDraft, .finishCreateRoom 0 none] ++ ops.map (.call sampleCode)

/-! ## Rooms do not touch each other -/

/-- What an operation of the registry is to the room under `key`. -/
def roomCall (key : Text) : RegistryOp → Option RoomOp
  | .call code op => if code.normalized = key then some op else none
  | .sweepExpiredRooms now => some (.sweep now)
  | .beginCreateRoom .. | .finishCreateRoom .. => none

/-- A new room is stored under `key`. -/
def storesUnder (key : Text) (registry : RoomRegistry) : RegistryOp → Bool
  | .finishCreateRoom i _ => registry.awaited[i]?.any (·.1 = key)
  | _ => false

theorem apply_lookup_eq (op : RegistryOp) (h : storesUnder key registry op = false) :
    (RoomRegistry.apply relay registry op).stored.lookup key
      = (roomCall key op).elim (registry.stored.lookup key) fun roomOp =>
        (registry.stored.lookup key).bind (·.step relay roomOp) := by
  cases op with
  | beginCreateRoom => rfl
  | finishCreateRoom i voice =>
    simp only [roomCall, RoomRegistry.apply, RoomRegistry.finishCreateRoom, Intake.finish]
    split
    · rfl
    · rename_i key' draft hi
      have hkey : key' ≠ key := by simpa [storesUnder, hi] using h
      exact AList.lookup_insert_ne hkey.symm
  | call code roomOp =>
    simp only [RoomRegistry.apply, RoomRegistry.call, roomCall]
    by_cases hkey : code.normalized = key
    · subst hkey
      rw [if_pos rfl]
      cases hs : registry.stored.lookup code.normalized with
      | none => simp [hs]
      | some s => cases hstep : s.step relay roomOp <;> simp [hstep]
    · rw [if_neg hkey]
      split
      · rfl
      · split
        · exact AList.lookup_erase_ne (Ne.symm hkey)
        · exact AList.lookup_insert_ne (Ne.symm hkey)
  | sweepExpiredRooms now => exact sweepExpiredRooms_lookup relay registry now key

/-- **Rooms are independent.** As long as no room is stored under its code, what becomes of a room
is what the calls with its code and the sweeps make of it, in their order, whatever happens to other
rooms in between. -/
theorem rooms_independent (relay : Relay) (registry : RoomRegistry) (key : Text)
    (ops : List RegistryOp)
    (h : Guarded (fun registry op => some (RoomRegistry.apply relay registry op))
      (fun registry op => storesUnder key registry op = false) registry ops) :
    (ops.foldl (RoomRegistry.apply relay) registry).stored.lookup key
      = (registry.stored.lookup key).bind fun s =>
        run (StoredRoom.step relay) s (ops.filterMap (roomCall key)) :=
  part_run (·.stored.lookup key) (fun _ op h => apply_lookup_eq op h) h

/-- Another room is created between two calls. -/
theorem rooms_independent_creation :
    let registry := (storedHistory []).foldl (RoomRegistry.apply sampleRelay) Intake.empty
    let ops :=
      [.beginCreateRoom (.generate (.replicate 16 1)) sampleDraft, .finishCreateRoom 0 none,
      .call sampleCode (.disconnect ⟨0⟩ 1), .sweepExpiredRooms 2]
    (ops.foldl (RoomRegistry.apply sampleRelay) registry).stored.lookup sampleCode.normalized
      = (registry.stored.lookup sampleCode.normalized).bind fun s =>
        run (StoredRoom.step sampleRelay) s (ops.filterMap (roomCall sampleCode.normalized)) :=
  rooms_independent _ _ _ _ (by decide +kernel)

end NetplayRelay.Proof
