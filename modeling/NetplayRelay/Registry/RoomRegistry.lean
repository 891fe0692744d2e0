import NetplayRelay.Lib.Store
import NetplayRelay.Registry.StoredRoom
import NetplayRelay.Rooms.InviteCode

/-!
# The room registry

All rooms of a relay, under their invite codes. A call takes the write lock, finds its room and
works on it alone; the sweep works on every room.

Creating a room is not one step. The code is drawn and the room built before the voice broker is
asked, and the lock is taken only when its answer has come. Other calls, and other creations, run in
between.
-/

namespace NetplayRelay.Registry

open Lib Protocol Rooms

/-- A room that waits for the voice broker. -/
structure RoomDraft where
  roomId : RoomId
  identityKey : Text
  hostConnection : ConnectionId
  session : NetplaySessionDescriptor
  protocolVersion : Nat
  resumeTokenHash : ResumeTokenHash
  inputSocketTokenHash : ResumeTokenHash
  now : Instant

/-- The room of a draft. -/
def RoomDraft.complete (draft : RoomDraft) (voice : Option RoomVoiceState) : StoredRoom :=
  createRoom draft.roomId draft.identityKey draft.hostConnection draft.session
    draft.protocolVersion draft.resumeTokenHash draft.inputSocketTokenHash draft.now voice

/-- The stored rooms and those that are being created. -/
abbrev RoomRegistry := Intake Text RoomDraft StoredRoom

namespace RoomRegistry

variable (relay : Relay) (registry : RoomRegistry)

/-- The first half of `create_room_impl`, up to the call of the broker. -/
def beginCreateRoom (code : InviteCode) (draft : RoomDraft) : RoomRegistry :=
  registry.begin code.normalized draft

/-- The second half: the room is inserted under its code. -/
def finishCreateRoom (i : Nat) (voice : Option RoomVoiceState) : RoomRegistry :=
  registry.finish RoomDraft.complete i voice

/-- A call for the room with this code. -/
def call (code : InviteCode) (op : RoomOp) : RoomRegistry :=
  match registry.stored.lookup code.normalized with
  | none => registry
  | some stored =>
    match stored.step relay op with
    | none => { registry with stored := registry.stored.erase code.normalized }
    | some stored' => { registry with stored := registry.stored.insert code.normalized stored' }

/-- The sweep closed this room while it worked on it. -/
def closedInSweep (now : Instant) (stored : StoredRoom) : Bool :=
  (stored.room.closeExpiredStateRecovery now).1
    || (stored.room.expireRunnerHandoffs now).1 = some true

/-- The room is over: nobody came, nobody came back in time, or nobody is left. -/
def isExpired (now : Instant) (stored : StoredRoom) : Bool :=
  stored.isExpiredWaiting now relay.joinTimeout || stored.room.isRecoveryExpired now
    || stored.room.isIdleDisconnected now relay.recovery.roomIdle

/-- The sweep works on all rooms first and removes what is over afterwards. The result is the
number of rooms it removed. -/
def sweepExpiredRooms (now : Instant) : Nat × RoomRegistry :=
  let worked :=
    Store.mapValues (fun stored => { stored with room := sweepRoom relay stored.room now })
    registry.stored
  let expiredKeys := (Store.keysWhere (isExpired relay now) worked
    ++ Store.keysWhere (closedInSweep now) registry.stored).dedup
  (expiredKeys.length, { registry with stored := Store.eraseAll expiredKeys worked })

end RoomRegistry

/-- One thing that happens to a registry. -/
inductive RegistryOp
  | beginCreateRoom (code : InviteCode) (draft : RoomDraft)
  | finishCreateRoom (i : Nat) (voice : Option RoomVoiceState)
  | call (code : InviteCode) (op : RoomOp)
  | sweepExpiredRooms (now : Instant)

/-- One step. -/
def RoomRegistry.apply (relay : Relay) (registry : RoomRegistry) : RegistryOp → RoomRegistry
  | .beginCreateRoom code draft => RoomRegistry.beginCreateRoom registry code draft
  | .finishCreateRoom i voice => RoomRegistry.finishCreateRoom registry i voice
  | .call code op => RoomRegistry.call relay registry code op
  | .sweepExpiredRooms now => (RoomRegistry.sweepExpiredRooms relay registry now).2

/-- The call is a sweep. -/
def RoomOp.isSweep : RoomOp → Bool
  | .sweep _ => true
  | _ => false

/-- Calls keep what the transport guarantees; only the registry sweeps. -/
def RegistryAdmissible (registry : RoomRegistry) : RegistryOp → Prop
  | .call code op => op.isSweep = false
    ∧ ∀ stored ∈ registry.stored.lookup code.normalized, Admissible stored.room op
  | _ => True

instance (registry : RoomRegistry) (op : RegistryOp) : Decidable (RegistryAdmissible registry op) :=
  match op with
  | .call _ _ => inferInstanceAs (Decidable (_ ∧ _))
  | .beginCreateRoom _ _ | .finishCreateRoom _ _ | .sweepExpiredRooms _ => .isTrue trivial

/-- Some sequence of calls, creations and sweeps leads from an empty registry to this one. -/
def RegistryReachable (relay : Relay) (registry : RoomRegistry) : Prop :=
  ∃ ops, Guarded (fun registry op => some (RoomRegistry.apply relay registry op)) RegistryAdmissible
      Intake.empty ops
    ∧ run (fun registry op => some (RoomRegistry.apply relay registry op)) Intake.empty ops
      = some registry

end NetplayRelay.Registry
