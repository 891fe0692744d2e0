import NetplayRelay.Registry.StoredRoom

/-!
# What bookkeeping leaves alone

Most calls only touch data beside the session: health samples, transfers in progress, collected
votes, voice tokens. `SameSession` says so once: the part of the room that every later invariant
speaks about (`SessionCore`) is unchanged, and every slot keeps its seat.

The handoff marker and the epoch a player may reconnect with are not part of a seat: a connected
player's own calls change them, and the invariants ask about them where they decide which branch a
later call takes. Only for an absent player, whose terms of return they are, does bookkeeping leave
them alone.
-/

namespace NetplayRelay.Proof

open Lib Protocol Rooms Registry NetplayRoom

variable {p : PlayerIndex}

/-! ## Seats -/

/-- Who holds a slot, through which sockets and with which tokens, and until when a lost holder may
come back. -/
structure Seat where
  playerIndex : PlayerIndex
  role : PlayerRole
  connectionId : Option ConnectionId
  inputConnectionId : Option ConnectionId
  resumeTokenHash : Option ResumeTokenHash
  inputSocketTokenHash : Option ResumeTokenHash
  inputSocketControlConnectionId : Option ConnectionId
  reconnectDeadline : Option Instant

def seat (slot : PlayerSlot) : Seat where
  playerIndex := slot.playerIndex
  role := slot.role
  connectionId := slot.connectionId
  inputConnectionId := slot.inputConnectionId
  resumeTokenHash := slot.resumeTokenHash
  inputSocketTokenHash := slot.inputSocketTokenHash
  inputSocketControlConnectionId := slot.inputSocketControlConnectionId
  reconnectDeadline := slot.reconnectDeadline

/-- The slot has the same holder as before. -/
structure Keeps (slot slot' : PlayerSlot) : Prop where
  holder : seat slot' = seat slot
  /-- An absent holder without a handoff may return on the same terms. -/
  terms : slot.connectionId = none → slot.runnerHandoffDeadline = none →
    slot'.runnerHandoffDeadline = none ∧ slot'.reconnectRoomEpoch = slot.reconnectRoomEpoch
  occupied : slot.isEmpty = false → slot'.isEmpty = false
  subject : slot'.subjectKey = slot.subjectKey

namespace Keeps

variable {slot slot' slot'' : PlayerSlot}

theorem refl (slot : PlayerSlot) : Keeps slot slot := ⟨rfl, fun _ h => ⟨h, rfl⟩, id, rfl⟩

theorem playerIndex (h : Keeps slot slot') : slot'.playerIndex = slot.playerIndex :=
  congrArg Seat.playerIndex h.holder

theorem role (h : Keeps slot slot') : slot'.role = slot.role := congrArg Seat.role h.holder

theorem connectionId (h : Keeps slot slot') : slot'.connectionId = slot.connectionId :=
  congrArg Seat.connectionId h.holder

theorem inputConnectionId (h : Keeps slot slot') :
    slot'.inputConnectionId = slot.inputConnectionId := congrArg Seat.inputConnectionId h.holder

theorem resumeTokenHash (h : Keeps slot slot') : slot'.resumeTokenHash = slot.resumeTokenHash :=
  congrArg Seat.resumeTokenHash h.holder

theorem inputSocketTokenHash (h : Keeps slot slot') :
    slot'.inputSocketTokenHash = slot.inputSocketTokenHash :=
  congrArg Seat.inputSocketTokenHash h.holder

theorem inputSocketControlConnectionId (h : Keeps slot slot') :
    slot'.inputSocketControlConnectionId = slot.inputSocketControlConnectionId :=
  congrArg Seat.inputSocketControlConnectionId h.holder

theorem reconnectDeadline (h : Keeps slot slot') :
    slot'.reconnectDeadline = slot.reconnectDeadline := congrArg Seat.reconnectDeadline h.holder

theorem trans (h : Keeps slot slot') (h' : Keeps slot' slot'') : Keeps slot slot'' where
  holder := h'.holder.trans h.holder
  terms := by
    intro habsent hunarmed
    obtain ⟨hunarmed', hepoch⟩ := h.terms habsent hunarmed
    obtain ⟨hunarmed'', hepoch'⟩ := h'.terms (h.connectionId.trans habsent) hunarmed'
    exact ⟨hunarmed'', hepoch'.trans hepoch⟩
  occupied := fun ho => h'.occupied (h.occupied ho)
  subject := h'.subject.trans h.subject

theorem of_edit (hseat : seat slot' = seat slot)
    (hhandoff : slot'.runnerHandoffDeadline = slot.runnerHandoffDeadline)
    (hepoch : slot'.reconnectRoomEpoch = slot.reconnectRoomEpoch)
    (hstatus : slot'.status = slot.status)
    (hsubject : slot'.subjectKey = slot.subjectKey := by rfl) : Keeps slot slot' where
  holder := hseat
  terms := fun _ hunarmed => ⟨hhandoff.trans hunarmed, hepoch⟩
  occupied := by
    rw [PlayerSlot.isEmpty, PlayerSlot.isEmpty, hstatus]
    exact id
  subject := hsubject

theorem enter {status : PlayerStatus} {runtimeState : PlayerRuntimeState} (h : status ≠ .empty) :
    Keeps slot (slot.enter status runtimeState) where
  holder := rfl
  terms := fun _ hunarmed => ⟨hunarmed, rfl⟩
  occupied := fun _ => decide_eq_false h
  subject := rfl

/-- A connected player's handoff marker and epoch are its own. -/
theorem of_connected (hseat : seat slot' = seat slot) (hconnected : slot.connectionId ≠ none)
    (hstatus : slot.isEmpty = false → slot'.isEmpty = false)
    (hsubject : slot'.subjectKey = slot.subjectKey := by rfl) : Keeps slot slot' where
  holder := hseat
  terms := fun habsent => absurd habsent hconnected
  occupied := hstatus
  subject := hsubject

end Keeps

section

variable {r r' : NetplayRoom}

/-- Finding a slot by something that is part of its seat finds the same seat. -/
theorem find?_keeps {test : PlayerSlot → Bool} {ps ps' : List PlayerSlot}
    (h : List.Forall₂ Keeps ps ps') (htest : ∀ s s', Keeps s s' → test s' = test s) :
    (ps'.find? test).map seat = (ps.find? test).map seat :=
  find?_map_of_forall₂ h htest fun _ _ hs => hs.holder

theorem slotForConnection_keeps (h : List.Forall₂ Keeps r.players r'.players) (c : ConnectionId) :
    (r'.slotForConnection c).map seat = (r.slotForConnection c).map seat :=
  find?_keeps h fun _ _ hs => by rw [hs.connectionId]

theorem playerIndexForConnection_keeps (h : List.Forall₂ Keeps r.players r'.players)
    (c : ConnectionId) : r'.playerIndexForConnection c = r.playerIndexForConnection c := by
  have := congrArg (Option.map Seat.playerIndex) (slotForConnection_keeps h c)
  rwa [Option.map_map, Option.map_map] at this

theorem roleForConnection_keeps (h : List.Forall₂ Keeps r.players r'.players) (c : ConnectionId) :
    r'.roleForConnection c = r.roleForConnection c := by
  have := congrArg (Option.map Seat.role) (slotForConnection_keeps h c)
  rwa [Option.map_map, Option.map_map] at this

theorem connectedPlayerIndices_keeps (h : List.Forall₂ Keeps r.players r'.players) :
    r'.connectedPlayerIndices = r.connectedPlayerIndices := by
  unfold NetplayRoom.connectedPlayerIndices
  generalize r.players = ps, r'.players = ps' at h
  induction h with
  | nil => rfl
  | @cons s s' _ _ hs _ ih =>
    have hconn : s'.isConnected = s.isConnected := by
      rw [PlayerSlot.isConnected, PlayerSlot.isConnected, hs.connectionId]
    rw [List.filter_cons, List.filter_cons, hconn]
    split
    · rw [List.map_cons, List.map_cons, hs.playerIndex, ih]
    · exact ih

end

/-! ## Vacant seats -/

/-- Nobody sits here, and nobody can come back. -/
structure Vacant (slot : PlayerSlot) : Prop where
  status : slot.isEmpty
  control : slot.connectionId = none
  resume : slot.resumeTokenHash = none

/-- Vacant seats stay vacant, given that each seat has a number of its own. -/
def VacancyKept (r r' : NetplayRoom) : Prop :=
  (r.players.map (·.playerIndex)).Nodup →
    List.Forall₂ (fun slot slot' => Vacant slot → Vacant slot') r.players r'.players

namespace VacancyKept

variable {r r' r'' : NetplayRoom} {test : PlayerSlot → Bool} {edit : PlayerSlot → PlayerSlot}

theorem of_eq (h : r'.players = r.players) : VacancyKept r r' :=
  fun _ => h ▸ List.forall₂_same.mpr fun _ _ => id

theorem trans (h : VacancyKept r r') (hkeeps : List.Forall₂ Keeps r.players r'.players)
    (h' : VacancyKept r' r'') : VacancyKept r r'' := by
  intro hnodup
  have hindices : r'.players.map (·.playerIndex) = r.players.map (·.playerIndex) :=
    map_eq_of_forall₂ (hkeeps.imp fun _ _ hs => hs.playerIndex)
  exact forall₂_trans (fun hab hbc hvacant => hbc (hab hvacant)) (h hnodup)
    (h' (hindices ▸ hnodup))

theorem updateSlot (h : ∀ slot, r.players.find? test = some slot → Vacant slot →
    Vacant (edit slot)) : VacancyKept r (r.updateSlot test edit) :=
  fun _ => forall₂_updateFirst (fun _ => id) h

theorem updateWhere (h : ∀ slot, test slot → Vacant slot → Vacant (edit slot)) :
    VacancyKept r { r with players := updateWhere test edit r.players } :=
  fun _ => forall₂_updateWhere (fun _ => id) fun slot _ => h slot

/-- Whoever is connected has no vacant seat. -/
theorem updateConnected : VacancyKept r (r.updateConnected edit) := by
  refine updateWhere fun slot hslot hvacant => ?_
  rw [PlayerSlot.isConnected, hvacant.control] at hslot
  exact absurd hslot Bool.false_ne_true

/-- Nor has anybody who is counted among the occupants. -/
theorem updateOccupied : VacancyKept r (r.updateOccupied edit) := by
  refine updateWhere fun slot hslot hvacant => ?_
  rw [hvacant.status] at hslot
  exact absurd hslot Bool.false_ne_true

theorem setPlayerStatus {c : ConnectionId} {status : PlayerStatus}
    (hp : r.playerIndexForConnection c = some p) : VacancyKept r (r.setPlayerStatus p status) := by
  intro hnodup
  obtain ⟨speaker, hspeaker, rfl⟩ := Option.map_eq_some_iff.mp hp
  refine forall₂_updateFirst (fun _ => id) fun slot hslot hvacant => ?_
  have hfound := find?_key hnodup (List.mem_of_find?_eq_some hspeaker)
  obtain rfl := Option.some.inj (hfound.symm.trans hslot)
  have hsocket := List.find?_some hspeaker
  simp [hvacant.control] at hsocket

end VacancyKept

/-- What is left after an entry was dropped was there before. -/
theorem lookup_erase_some {α : Type} {m : PlayerMap α} {q : PlayerIndex} {a : α}
    (h : (m.erase p).lookup q = some a) : m.lookup q = some a := by
  by_cases hq : q = p
  · rw [hq, AList.lookup_erase] at h
    exact absurd h (by simp)
  · rwa [AList.lookup_erase_ne hq] at h

/-! ## The session -/

/-- The part of a room that the session's invariants speak about. -/
structure SessionCore where
  protocolVersion : Nat
  session : NetplaySessionDescriptor
  maxPlayers : Nat
  status : RoomStatus
  roomEpoch : Nat
  sessionEpoch : Nat
  compatibility : PlayerMap CompatibilityFingerprint
  readyPlayers : Finset PlayerIndex
  deterministicReadyPlayers : Finset PlayerIndex
  clockSyncRequest : Option ClockSyncSampleRequest
  clockSampleIndicesByPlayer : PlayerMap (Finset Nat)
  hostSnapshotCompleted : Bool
  completedSnapshotManifest : Option SnapshotManifest
  scheduledStart : Option ScheduledSessionStart
  pauseState : Option SessionPauseStateTracker
  nextInputFrames : PlayerMap Nat
  syncStartFrame : Nat
  roomFrame : Nat
  releasedFrame : Option Nat
  nextReleaseFrame : Nat
  pendingHostFrameOpen : Option Nat
  stateRecovery : Option StateRecoveryTransaction
  nextStateRecoveryId : Nat
  stateRecoveryStartedAt : List Instant

def sessionCore (r : NetplayRoom) : SessionCore where
  protocolVersion := r.protocolVersion
  session := r.session
  maxPlayers := r.maxPlayers
  status := r.status
  roomEpoch := r.roomEpoch
  sessionEpoch := r.sessionEpoch
  compatibility := r.compatibility
  readyPlayers := r.readyPlayers
  deterministicReadyPlayers := r.deterministicReadyPlayers
  clockSyncRequest := r.clockSyncRequest
  clockSampleIndicesByPlayer := r.clockSampleIndicesByPlayer
  hostSnapshotCompleted := r.hostSnapshotCompleted
  completedSnapshotManifest := r.completedSnapshotManifest
  scheduledStart := r.scheduledStart
  pauseState := r.pauseState
  nextInputFrames := r.nextInputFrames
  syncStartFrame := r.syncStartFrame
  roomFrame := r.roomFrame
  releasedFrame := r.releasedFrame
  nextReleaseFrame := r.nextReleaseFrame
  pendingHostFrameOpen := r.pendingHostFrameOpen
  stateRecovery := r.stateRecovery
  nextStateRecoveryId := r.nextStateRecoveryId
  stateRecoveryStartedAt := r.stateRecoveryStartedAt

/-- A pause is open. -/
def SessionCore.pausing (core : SessionCore) : Bool := core.pauseState.isSome

/-- The session starts over at `startFrame`, on the same epochs and in the same status. -/
def SessionCore.reset (core : SessionCore) (startFrame : Nat) : SessionCore :=
  { core with
    compatibility := ∅
    readyPlayers := ∅
    deterministicReadyPlayers := ∅
    clockSyncRequest := none
    clockSampleIndicesByPlayer := ∅
    hostSnapshotCompleted := false
    completedSnapshotManifest := none
    scheduledStart := none
    pauseState := none
    nextInputFrames := ∅
    syncStartFrame := startFrame
    roomFrame := startFrame
    releasedFrame := none
    nextReleaseFrame := startFrame
    pendingHostFrameOpen := none
    stateRecovery := none }

/-- Recovery has started: everything is forgotten and both epochs have moved on. -/
def SessionCore.recover (core : SessionCore) : SessionCore :=
  { core.reset 0 with
    status := .recovering
    roomEpoch := satAdd u64Max (core.reset 0).roomEpoch 1
    sessionEpoch := satAdd u64Max (core.reset 0).sessionEpoch 1 }

/-- What a room keeps beside the session: the link-cable reports and packet numbers, what goes
through the file relay, and the state hashes with the next checkpoint. -/
structure SideData where
  linkCable : LinkCableRoomState
  romRelayTransfer : Option RomRelayTransferState
  snapshotFileRelayTransfer : Option SnapshotFileRelayTransferState
  stateHashes : AList fun _ : Nat => PlayerMap Text
  nextAuthoritativeStateHashFrame : Nat

def sideData (r : NetplayRoom) : SideData where
  linkCable := r.linkCableState
  romRelayTransfer := r.romRelayTransfer
  snapshotFileRelayTransfer := r.snapshotFileRelayTransfer
  stateHashes := r.stateHashes
  nextAuthoritativeStateHashFrame := r.nextAuthoritativeStateHashFrame

/-- The side data of a session that starts over at `startFrame`. -/
def SideData.fresh (startFrame : Nat) : SideData where
  linkCable := .default
  romRelayTransfer := none
  snapshotFileRelayTransfer := none
  stateHashes := ∅
  nextAuthoritativeStateHashFrame := nextAuthoritativeCheckpointAfter startFrame

/-- Only bookkeeping differs between the two rooms. -/
structure SameSession (r r' : NetplayRoom) : Prop where
  core : sessionCore r' = sessionCore r
  players : List.Forall₂ Keeps r.players r'.players
  vacant : VacancyKept r r'

namespace SameSession

variable {r r' r'' : NetplayRoom}

theorem refl (r : NetplayRoom) : SameSession r r :=
  ⟨rfl, List.forall₂_same.mpr fun slot _ => Keeps.refl slot, .of_eq rfl⟩

theorem trans (h : SameSession r r') (h' : SameSession r' r'') : SameSession r r'' :=
  ⟨h'.core.trans h.core, forall₂_trans Keeps.trans h.players h'.players,
    h.vacant.trans h.players h'.vacant⟩

/-- The players are untouched and so is the session. -/
theorem of_core (hp : r'.players = r.players) (h : sessionCore r' = sessionCore r) :
    SameSession r r' :=
  ⟨h, hp ▸ (refl r).players, .of_eq hp⟩

theorem protocolVersion (h : SameSession r r') : r'.protocolVersion = r.protocolVersion :=
  congrArg (·.protocolVersion) h.core

theorem session (h : SameSession r r') : r'.session = r.session :=
  congrArg (·.session) h.core

theorem maxPlayers (h : SameSession r r') : r'.maxPlayers = r.maxPlayers :=
  congrArg (·.maxPlayers) h.core

theorem status (h : SameSession r r') : r'.status = r.status :=
  congrArg (·.status) h.core

theorem roomEpoch (h : SameSession r r') : r'.roomEpoch = r.roomEpoch :=
  congrArg (·.roomEpoch) h.core

theorem sessionEpoch (h : SameSession r r') : r'.sessionEpoch = r.sessionEpoch :=
  congrArg (·.sessionEpoch) h.core

theorem compatibility (h : SameSession r r') : r'.compatibility = r.compatibility :=
  congrArg (·.compatibility) h.core

theorem clockSyncRequest (h : SameSession r r') : r'.clockSyncRequest = r.clockSyncRequest :=
  congrArg (·.clockSyncRequest) h.core

theorem pauseState (h : SameSession r r') : r'.pauseState = r.pauseState :=
  congrArg (·.pauseState) h.core

theorem nextInputFrames (h : SameSession r r') : r'.nextInputFrames = r.nextInputFrames :=
  congrArg (·.nextInputFrames) h.core

theorem syncStartFrame (h : SameSession r r') : r'.syncStartFrame = r.syncStartFrame :=
  congrArg (·.syncStartFrame) h.core

theorem releasedFrame (h : SameSession r r') : r'.releasedFrame = r.releasedFrame :=
  congrArg (·.releasedFrame) h.core

theorem nextReleaseFrame (h : SameSession r r') : r'.nextReleaseFrame = r.nextReleaseFrame :=
  congrArg (·.nextReleaseFrame) h.core

theorem stateRecovery (h : SameSession r r') : r'.stateRecovery = r.stateRecovery :=
  congrArg (·.stateRecovery) h.core

theorem expectedFrame (h : SameSession r r') (p : PlayerIndex) :
    r'.expectedFrame p = r.expectedFrame p := by
  rw [NetplayRoom.expectedFrame, NetplayRoom.expectedFrame, h.nextInputFrames, h.syncStartFrame]

theorem usesStrictControllerInput (h : SameSession r r') :
    r'.usesStrictControllerInput = r.usesStrictControllerInput := by
  rw [NetplayRoom.usesStrictControllerInput, NetplayRoom.usesStrictControllerInput,
    h.protocolVersion, h.session]

/-- Editing slots without moving anybody is bookkeeping. -/
theorem updateSlot {test : PlayerSlot → Bool} {edit : PlayerSlot → PlayerSlot}
    (h : ∀ slot, test slot → Keeps slot (edit slot))
    (hvacant : ∀ slot, r.players.find? test = some slot → Vacant slot → Vacant (edit slot) := by
      exact fun _ _ h => ⟨h.status, h.control, h.resume⟩) :
    SameSession r (r.updateSlot test edit) :=
  ⟨rfl, forall₂_updateFirst Keeps.refl fun slot hslot => h slot (List.find?_some hslot),
    .updateSlot hvacant⟩

theorem updateWhere {test : PlayerSlot → Bool} {edit : PlayerSlot → PlayerSlot}
    (h : ∀ slot, Keeps slot (edit slot))
    (hvacant : ∀ slot, test slot → Vacant slot → Vacant (edit slot) := by
      exact fun _ _ h => ⟨h.status, h.control, h.resume⟩) :
    SameSession r { r with players := updateWhere test edit r.players } :=
  ⟨rfl, forall₂_updateWhere Keeps.refl fun slot _ _ => h slot, .updateWhere hvacant⟩

theorem recordNetworkReport {c : ConnectionId} {frame : Option Nat}
    {network : Option ClientNetworkQualityReport} {now : Instant} :
    SameSession r (r.recordNetworkReport c frame network now) :=
  updateSlot fun _ _ => .of_edit rfl rfl rfl rfl

end SameSession

/-- Bookkeeping, and an input delay that was negotiated on the way. -/
structure Negotiated (r r' : NetplayRoom) : Prop where
  core : ∃ delay, sessionCore r'
    = { sessionCore r with session := { r.session with controller := ⟨delay⟩ } }
  players : List.Forall₂ Keeps r.players r'.players
  vacant : VacancyKept r r'

namespace Negotiated

variable {r r' : NetplayRoom}

/-- Of the session's core only the delay may differ. -/
theorem read {α : Type} (part : SessionCore → α)
    (hpart : ∀ core session, part { core with session := session } = part core)
    (h : Negotiated r r') : part (sessionCore r') = part (sessionCore r) := by
  obtain ⟨_, hcore⟩ := h.core
  rw [hcore, hpart]

theorem sessionEpoch (h : Negotiated r r') : r'.sessionEpoch = r.sessionEpoch :=
  h.read SessionCore.sessionEpoch fun _ _ => rfl

theorem compatibility (h : Negotiated r r') : r'.compatibility = r.compatibility :=
  h.read SessionCore.compatibility fun _ _ => rfl

theorem nextInputFrames (h : Negotiated r r') : r'.nextInputFrames = r.nextInputFrames :=
  h.read SessionCore.nextInputFrames fun _ _ => rfl

theorem syncStartFrame (h : Negotiated r r') : r'.syncStartFrame = r.syncStartFrame :=
  h.read SessionCore.syncStartFrame fun _ _ => rfl

theorem nextReleaseFrame (h : Negotiated r r') : r'.nextReleaseFrame = r.nextReleaseFrame :=
  h.read SessionCore.nextReleaseFrame fun _ _ => rfl

theorem of_same (h : SameSession r r') : Negotiated r r' :=
  ⟨⟨r.session.controller.inputDelayFrames, h.core⟩, h.players, h.vacant⟩

theorem withInputDelay (h : SameSession r r') (delay : Nat) :
    Negotiated r (r'.withInputDelay delay) := by
  refine ⟨⟨delay, ?_⟩, h.players, h.vacant⟩
  rw [← h.core, ← h.session]
  rfl

theorem adaptive (h : SameSession r r') (now : Instant) :
    Negotiated r (r'.applyInitialAdaptiveInputDelay now) := by
  unfold applyInitialAdaptiveInputDelay
  split
  · exact withInputDelay h _
  · exact of_same h

theorem strict (h : SameSession r r') (order : HashOrder) (now : Instant) :
    Negotiated r (r'.applyInitialV5InputDelay order now) := by
  unfold applyInitialV5InputDelay
  split
  · exact of_same h
  dsimp only
  split
  · exact withInputDelay h _
  · exact of_same h

end Negotiated

/-- A status other than that of a vacant seat takes nothing from its holder. -/
theorem setPlayerStatus_keeps {status : PlayerStatus} (r : NetplayRoom) (h : status ≠ .empty) :
    List.Forall₂ Keeps r.players (r.setPlayerStatus p status).players :=
  forall₂_updateFirst Keeps.refl fun _ _ => .enter h

/-- A reset of the synchronisation data moves nobody. -/
theorem resetSyncStateTo_keeps (r : NetplayRoom) (startFrame : Nat) :
    List.Forall₂ Keeps r.players (r.resetSyncStateTo startFrame).players := by
  rw [resetSyncStateTo_players]
  split
  · refine List.forall₂_map_right_iff.mpr (List.forall₂_same.mpr fun _ _ => ?_)
    exact .of_edit rfl rfl rfl rfl
  · exact (SameSession.refl r).players

end NetplayRelay.Proof
