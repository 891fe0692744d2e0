import NetplayRelay.Proof.Controls
import NetplayRelay.Proof.Histories

/-!
# Whose transfers these are

A ROM that the host lends to the guest, and the host's snapshot on its way through the file relay,
are kept with the sockets they were granted to. Only these sockets may complete, fail or cancel the
transfer, so it can end only as long as they are still the control sockets of their seats.

Whatever starts the session over drops both transfers. Three kinds of calls put another socket on a
seat, or none, and do not: the host that comes back through its invite, a runner that takes over an
armed seat, and the loss of a second player while the first is waited for. `strandsTransfer` names
them.

Nothing else that a completed upload is checked against changes while the upload is stored either
(`Uploads`), so the sockets are all that it takes.
-/

namespace NetplayRelay.Proof

open Lib Protocol Rooms Registry NetplayRoom

variable {relay : Relay} {r r' : NetplayRoom} {c : ConnectionId} {op : RoomOp}

/-- Both participants are connected through the sockets of the transfer. -/
structure Participate (r : NetplayRoom) (transfer : RomRelayTransferState) : Prop where
  sender : controlOf r transfer.senderPlayerIndex = some transfer.senderConnection
  receiver : controlOf r transfer.receiverPlayerIndex = some transfer.receiverConnection

/-- Every transfer is in the hands of the players it was granted to. The snapshot is the host's. -/
structure TransfersHeld (r : NetplayRoom) : Prop where
  rom : ∀ transfer, r.romRelayTransfer = some transfer → Participate r transfer
  file : ∀ transfer, r.snapshotFileRelayTransfer = some transfer →
    controlOf r .one = some transfer.sourceConnection

/-- Player `p` takes part in a transfer. -/
def takesPart (r : NetplayRoom) (p : PlayerIndex) : Bool :=
  r.romRelayTransfer.any (fun transfer =>
      transfer.senderPlayerIndex = p || transfer.receiverPlayerIndex = p)
    || (p = .one && r.snapshotFileRelayTransfer.isSome)

/-- The calls that take a transfer out of its players' hands: the host comes back through its
invite, a runner takes over the armed seat of a player who takes part, or a control socket closes
while a player is waited for already. -/
def strandsTransfer (r : NetplayRoom) : RoomOp → Bool
  | .connectHost key .. => (r.players.find? (·.role = .host)).any fun slot =>
      slot.subjectKey = some key && takesPart r slot.playerIndex
  | .reconnectPlayer request => (r.slotForPlayer request.playerIndex).any fun slot =>
      slot.runnerHandoffDeadline.isSome && slot.resumeTokenHash = some request.resumeTokenHash
        && takesPart r request.playerIndex
  | .disconnect c now => r.status = .recovering && (r.slotForConnection c).any fun slot =>
      !handoffArmed slot now && takesPart r slot.playerIndex
  | .disconnectInputSocket c now => r.status = .recovering
    && (r.slotForInputConnection c).any fun slot =>
      !handoffArmed slot now && takesPart r slot.playerIndex
  | _ => false

/-! ## What keeps transfers attended -/

theorem TransfersHeld.of_fresh {frame : Nat} (h : sideData r = .fresh frame) : TransfersHeld r := by
  have hrom : r.romRelayTransfer = none := congrArg (·.romRelayTransfer) h
  have hfile : r.snapshotFileRelayTransfer = none :=
    congrArg (·.snapshotFileRelayTransfer) h
  constructor
  · intro transfer htransfer
    exact absurd (hrom.symm.trans htransfer) (by simp)
  · intro transfer htransfer
    exact absurd (hfile.symm.trans htransfer) (by simp)

theorem Participate.keep {transfer transfer' : RomRelayTransferState} (h : Participate r transfer)
    (hsame : SameRomTransfer transfer transfer')
    (hsender : controlOf r' transfer.senderPlayerIndex = controlOf r transfer.senderPlayerIndex)
    (hreceiver :
      controlOf r' transfer.receiverPlayerIndex = controlOf r transfer.receiverPlayerIndex) :
    Participate r' transfer' := by
  constructor
  · rw [hsame.sender.1, hsame.sender.2, hsender]
    exact h.sender
  · rw [hsame.receiver.1, hsame.receiver.2, hreceiver]
    exact h.receiver

/-- The transfers are the old ones or gone, and whoever takes part has the same control socket. -/
theorem TransfersHeld.carry (h : TransfersHeld r)
    (hrom : r'.romRelayTransfer = r.romRelayTransfer ∨ r'.romRelayTransfer = none)
    (hfile : r'.snapshotFileRelayTransfer = r.snapshotFileRelayTransfer
      ∨ r'.snapshotFileRelayTransfer = none)
    (hcontrol : ∀ p, takesPart r p → controlOf r' p = controlOf r p) : TransfersHeld r' := by
  constructor
  · intro transfer htransfer
    rcases hrom with hrom | hrom
    · have hold := hrom.symm.trans htransfer
      refine (h.rom transfer hold).keep ⟨⟨rfl, rfl⟩, rfl, rfl⟩ ?_ ?_
      · exact hcontrol _ (by simp [takesPart, hold])
      · exact hcontrol _ (by simp [takesPart, hold])
    · exact absurd (hrom.symm.trans htransfer) (by simp)
  · intro transfer htransfer
    rcases hfile with hfile | hfile
    · have hold := hfile.symm.trans htransfer
      rw [hcontrol _ (by simp [takesPart, hold])]
      exact h.file transfer hold
    · exact absurd (hfile.symm.trans htransfer) (by simp)

/-- Nobody changes sockets and the side data stays. -/
theorem TransfersHeld.keep (h : TransfersHeld r) (hside : sideData r' = sideData r)
    (hcontrol : ∀ p, controlOf r' p = controlOf r p) : TransfersHeld r' :=
  h.carry (.inl (congrArg (·.romRelayTransfer) hside))
    (.inl (congrArg (·.snapshotFileRelayTransfer) hside)) fun p _ => hcontrol p

/-! ## Grants -/

/-- What the room checks before a ROM transfer is asked for, and what it takes down. -/
structure RomIntent (r : NetplayRoom) (c : ConnectionId) (intent : RomRelayTransferIntent) :
    Prop where
  free : r.romRelayTransfer = none
  requester : r.playerIndexForConnection c = some intent.receiverPlayerIndex
  guest : intent.receiverPlayerIndex ≠ .one
  sender : ∃ slot, r.players.find? (·.role = .host) = some slot
    ∧ slot.playerIndex = intent.senderPlayerIndex ∧ slot.connectionId = some intent.senderConnection
  receiver : ∃ slot, r.slotForPlayer intent.receiverPlayerIndex = some slot
    ∧ slot.connectionId = some intent.receiverConnection
  epochs : intent.roomEpoch = r.roomEpoch ∧ intent.sessionEpoch = r.sessionEpoch
  rom : r.session.romIdentity = some intent.rom

theorem prepareRomRelayTransfer_intent {intent : RomRelayTransferIntent}
    (h : r.prepareRomRelayTransfer c = .ok intent) : RomIntent r c intent := by
  unfold prepareRomRelayTransfer at h
  simp only [bind, Except.bind, throw, throwThe, MonadExceptOf.throw, pure, Except.pure] at h
  split at h
  · rename_i p hp
    split at h
    · exact absurd h (by simp)
    rename_i hguest
    split at h
    · exact absurd h (by simp)
    rename_i hfree
    split at h
    · split at h
      · exact absurd h (by simp)
      split at h
      · rename_i rom hrom
        split at h
        · rename_i sender hsender
          split at h
          · rename_i receiver hreceiver
            split at h
            · exact absurd h (by simp)
            split at h
            · rename_i senderConnection hsenderConnection
              split at h
              · rename_i receiverConnection hreceiverConnection
                obtain rfl := Except.ok.inj h
                exact ⟨by simpa using hfree, hp, hguest, ⟨sender, hsender, rfl, hsenderConnection⟩,
                  ⟨receiver, hreceiver, hreceiverConnection⟩, ⟨rfl, rfl⟩, hrom⟩
              · exact absurd h (by simp)
            · exact absurd h (by simp)
          · exact absurd h (by simp)
        · exact absurd h (by simp)
      · exact absurd h (by simp)
    · exact absurd h (by simp)
  · exact absurd h (by simp)

/-- Both participants are connected through the sockets that were taken down. -/
theorem RomIntent.controls {intent : RomRelayTransferIntent} (hseats : Seats r)
    (h : RomIntent r c intent) :
    controlOf r intent.senderPlayerIndex = some intent.senderConnection
      ∧ controlOf r intent.receiverPlayerIndex = some intent.receiverConnection := by
  obtain ⟨sender, hsender, hindex, hsocket⟩ := h.sender
  obtain ⟨receiver, hreceiver, hsocket'⟩ := h.receiver
  constructor
  · rw [controlOf, ← hindex, hseats.slotForPlayer (List.mem_of_find?_eq_some hsender),
      Option.bind_some, hsocket]
  · rw [controlOf, hreceiver, Option.bind_some, hsocket']

/-- A snapshot comes from the host. -/
theorem validateHostSnapshotSender_host (h : r.validateHostSnapshotSender c = .ok ()) :
    ∃ slot ∈ r.players, slot.role = .host ∧ slot.connectionId = some c := by
  unfold validateHostSnapshotSender validateHostSnapshotIdentity at h
  split at h
  · exact absurd h (by simp [bind, Except.bind])
  cases hslot : r.slotForConnection c with
  | none =>
    rw [roleForConnection, hslot] at h
    exact absurd h (by simp [bind, Except.bind])
  | some slot =>
    refine ⟨slot, List.mem_of_find?_eq_some hslot, ?_, by simpa using List.find?_some hslot⟩
    rw [roleForConnection, hslot, Option.map_some] at h
    cases hrole : slot.role with
    | host => rfl
    | guest =>
      rw [hrole] at h
      exact absurd h (by simp [bind, Except.bind])

/-- The host speaks through the control socket of the first seat. -/
theorem validateHostSnapshotSender_control (hseats : Seats r)
    (h : r.validateHostSnapshotSender c = .ok ()) : controlOf r .one = some c := by
  obtain ⟨slot, hslot, hrole, hc⟩ := validateHostSnapshotSender_host h
  have hindex : slot.playerIndex = .one := (hseats.seated slot hslot).host hrole
  rw [controlOf, ← hindex, hseats.slotForPlayer hslot, Option.bind_some]
  exact hc

/-- The host's snapshot is taken at two stages of a controller session. -/
theorem validateHostSnapshotSender_stage (h : r.validateHostSnapshotSender c = .ok ()) :
    r.session.mode = .controllerNetplay ∧ (r.status = .syncingState ∨ r.status = .ready) := by
  unfold validateHostSnapshotSender validateHostSnapshotIdentity at h
  split at h
  · exact absurd h (by simp [bind, Except.bind])
  rename_i hmode
  refine ⟨not_not.mp hmode, ?_⟩
  by_contra hstage
  rw [not_or] at hstage
  cases hrole : r.roleForConnection c with
  | none => simp [hrole, bind, Except.bind] at h
  | some role => cases role <;> simp [hrole, hstage, bind, Except.bind] at h

/-- What the room checks before the host's snapshot goes through the file relay. -/
structure FileIntent (r : NetplayRoom) (c : ConnectionId) (manifest : SnapshotManifest)
    (intent : SnapshotFileRelayTransferIntent) : Prop where
  sender : r.validateHostSnapshotSender c = .ok ()
  frame : manifest.repairFrame = r.syncStartFrame
  pinned : r.validateV5RecoverySnapshot manifest = .ok ()
  valid : (manifest.validate .default).isOk
  receiver : ∃ slot ∈ r.players, slot.playerIndex = intent.receiverPlayerIndex
    ∧ slot.connectionId.isSome

theorem prepareSnapshotFileRelayTransfer_intent {manifest : SnapshotManifest}
    {intent : SnapshotFileRelayTransferIntent}
    (h : r.prepareSnapshotFileRelayTransfer c manifest .default = .ok intent) :
    FileIntent r c manifest intent := by
  unfold prepareSnapshotFileRelayTransfer at h
  simp only [bind, Except.bind, throw, throwThe, MonadExceptOf.throw, pure, Except.pure] at h
  split at h
  · exact absurd h (by simp)
  rename_i hsender
  split at h
  · exact absurd h (by simp)
  rename_i hframe
  split at h
  · exact absurd h (by simp)
  rename_i hpinned
  split at h
  · exact absurd h (by simp)
  rename_i hvalid
  split at h
  · exact absurd h (by simp)
  split at h
  · exact absurd h (by simp)
  split at h
  · exact absurd h (by simp)
  split at h
  · exact absurd h (by simp)
  rename_i receiver hreceiver
  split at h
  · exact absurd h (by simp)
  rename_i socket hsocket
  obtain rfl := Except.ok.inj h
  refine ⟨hsender, ?_, hpinned, by simpa using hvalid, receiver,
    List.mem_of_find?_eq_some hreceiver, rfl, by simp [hsocket]⟩
  unfold validateSnapshotRepairFrame at hframe
  split at hframe
  · assumption
  · exact absurd hframe (by simp)

theorem aside_transfers (hseats : Seats r) (hinv : TransfersHeld r) (hsame : SameSession r r')
    (h : Aside r op r') : TransfersHeld r' := by
  have hcontrol := controlOf_keeps hsame.players
  -- the file transfer is the old one
  have hfile : r'.snapshotFileRelayTransfer = r.snapshotFileRelayTransfer →
      ∀ transfer, r'.snapshotFileRelayTransfer = some transfer →
        controlOf r' .one = some transfer.sourceConnection := by
    intro hfile transfer htransfer
    rw [hcontrol]
    exact hinv.file transfer (hfile.symm.trans htransfer)
  cases h with
  | kept hside => exact hinv.keep hside hcontrol
  | @romGranted _ _ intent transfer _ hintent hsender hreceiver hside =>
    have hcontrols := (prepareRomRelayTransfer_intent hintent).controls hseats
    have hrom : r'.romRelayTransfer = some transfer := congrArg (·.romRelayTransfer) hside
    refine ⟨fun transfer' htransfer' => ?_,
      hfile (congrArg (·.snapshotFileRelayTransfer) hside)⟩
    obtain rfl := Option.some.inj (hrom.symm.trans htransfer')
    constructor
    · rw [hcontrol, hsender.1, hsender.2]
      exact hcontrols.1
    · rw [hcontrol, hreceiver.1, hreceiver.2]
      exact hcontrols.2
  | @romWentOn _ _ transfer transfer' _ htransfer hon hside =>
    have hrom : r'.romRelayTransfer = some transfer' := congrArg (·.romRelayTransfer) hside
    refine ⟨fun transfer'' htransfer'' => ?_,
      hfile (congrArg (·.snapshotFileRelayTransfer) hside)⟩
    obtain rfl := Option.some.inj (hrom.symm.trans htransfer'')
    exact (hinv.rom transfer htransfer).keep hon (hcontrol _) (hcontrol _)
  | romEnded hside =>
    exact hinv.carry (.inr (congrArg (·.romRelayTransfer) hside))
      (.inl (congrArg (·.snapshotFileRelayTransfer) hside)) fun p _ => hcontrol p
  | @fileGranted c manifest grants intent _ hintent hside =>
    have hrom : r'.romRelayTransfer = r.romRelayTransfer :=
      congrArg (·.romRelayTransfer) hside
    have hgranted : r'.snapshotFileRelayTransfer = some _ :=
      congrArg (·.snapshotFileRelayTransfer) hside
    constructor
    · intro transfer' htransfer'
      exact (hinv.rom transfer' (hrom.symm.trans htransfer')).keep ⟨⟨rfl, rfl⟩, rfl, rfl⟩
        (hcontrol _) (hcontrol _)
    · intro transfer' htransfer'
      obtain rfl := Option.some.inj (hgranted.symm.trans htransfer')
      rw [hcontrol]
      exact validateHostSnapshotSender_control hseats
        (prepareSnapshotFileRelayTransfer_intent hintent).sender
  | packetTaken hside | hashNoted hside =>
    exact hinv.carry (.inl (congrArg (·.romRelayTransfer) hside))
      (.inl (congrArg (·.snapshotFileRelayTransfer) hside)) fun p _ => hcontrol p

/-! ## Every call -/

theorem controlLoss_transfers {now : Instant} {grace : Duration} (hseats : Seats r)
    (hinv : TransfersHeld r)
    (hkept : (decide (r.status = .recovering) && (r.slotForConnection c).any fun slot =>
      !handoffArmed slot now && takesPart r slot.playerIndex) = false)
    (h : ControlLoss r c now grace r') : TransfersHeld r' := by
  cases h with
  | unknown _ hsame hside => exact hinv.keep hside (controlOf_keeps hsame.players)
  | handoffKept | recovery | hostGone | guestGone => exact .of_fresh rfl
  | @alsoLost r₁ slot₀ slot _ hr₁ hslot₀ hunarmed hslot hstatus hside =>
    have hindex : slot.playerIndex = slot₀.playerIndex := by
      have hseat := slotForConnection_keeps hr₁.players c
      rw [hslot, hslot₀] at hseat
      exact congrArg Seat.playerIndex (Option.some.inj hseat)
    have hapart : takesPart r slot₀.playerIndex = false := by
      simpa [hstatus, hslot₀, hunarmed] using hkept
    refine hinv.carry (.inl (congrArg (·.romRelayTransfer) hside))
      (.inl (congrArg (·.snapshotFileRelayTransfer) hside)) fun p hp => ?_
    rw [← controlOf_keeps hr₁.players p]
    refine controlOf_eq ?_
    rw [detachControl_markSlotReconnecting_players (hseats.keep hr₁.players hr₁.maxPlayers) hslot]
    refine forall₂_updateFirst (fun _ => ⟨rfl, fun _ => rfl⟩) fun slot' hslot' => ⟨rfl, ?_⟩
    intro hp'
    have hsame : slot'.playerIndex = slot.playerIndex := by simpa using List.find?_some hslot'
    rw [← hp', hsame, hindex, hapart] at hp
    exact absurd hp (by simp)

/-- **No other call takes a transfer out of its players' hands.** -/
theorem effect_transfers (hseats : Seats r) (hinv : TransfersHeld r)
    (hkept : strandsTransfer r op = false) (h : Effect relay r op r') : TransfersHeld r' := by
  have hchange := effect_seats hseats h
  cases h with
  | bookkeeping hsame haside => exact aside_transfers hseats hinv hsame haside
  | joined | reconnected | exited | resynced | pinned => exact .of_fresh rfl
  | @hostAttached key c resume input now capabilities slot _ hslot hkey =>
    refine hinv.carry (.inl rfl) (.inl rfl) fun p hp => controlOf_updateSlot hslot rfl ?_
    intro heq
    have hapart : takesPart r slot.playerIndex = false := by
      simpa [strandsTransfer, hslot, hkey] using hkept
    rw [← heq, hapart] at hp
    exact absurd hp (by simp)
  | @handoffReconnected request slot _ hreturns hhandoff =>
    have hfound : r.players.find? (·.playerIndex = request.playerIndex) = some slot :=
      hreturns.found
    have hindex : slot.playerIndex = request.playerIndex := by simpa using List.find?_some hfound
    refine hinv.carry (.inl rfl) (.inl rfl) fun p hp => controlOf_updateSlot hfound rfl ?_
    intro heq
    have hapart : takesPart r request.playerIndex = false := by
      simpa [strandsTransfer, hreturns.found, hreturns.token, hhandoff] using hkept
    rw [← heq, hindex, hapart] at hp
    exact absurd hp (by simp)
  | inputAttached hslot => exact hinv.keep rfl fun p => controlOf_updateSlot hslot rfl fun _ => rfl
  | controlLost hloss => exact controlLoss_transfers hseats hinv hkept hloss
  | inputLost => exact hinv.keep rfl fun p => controlOf_detachInputSocket r _ _ p _
  | @inputAndControlLost c control now slot _ hslot hstatus hcontrol hloss =>
    -- the input socket goes first, then the control socket of the same seat
    refine controlLoss_transfers ?_ ?_ ?_ hloss
    · exact hseats.detachInputSocket _
    · exact hinv.keep rfl fun p => controlOf_detachInputSocket r _ _ p _
    · rw [slotForConnection_detachInputSocket hseats hslot hcontrol]
      simp only [strandsTransfer, hslot] at hkept
      exact hkept
  | pinTimedOut =>
    exact hinv.keep rfl (controlOf_keeps (updateOccupied_keeps fun _ => .enter (by simp)))
  | handoffsLapsed _ _ hside => exact .of_fresh hside
  | heartbeatsStopped _ hdropped => exact .of_fresh hdropped.side
  | snapshotCompleted | pauseNoted => exact hinv.keep rfl (controlOf_keeps (keeps_refl _))
  | legacyInput hinput =>
    refine hinv.keep hinput.side (controlOf_keeps ?_)
    rw [hinput.players]
    exact keeps_refl _
  | fingerprintRejected =>
    exact hinv.carry (.inr rfl) (.inr rfl) fun p _ => controlOf_keeps (hchange.stays rfl rfl) p
  | restartedByLast | restarted =>
    exact hinv.carry (.inl rfl) (.inr rfl) fun p _ => controlOf_keeps (hchange.stays rfl rfl) p
  | linkRejected | linkStored | linksDiffer | linksAgree =>
    exact hinv.carry (.inl rfl) (.inl rfl) fun p _ => controlOf_keeps (hchange.stays rfl rfl) p
  | becameReady _ hready => exact hinv.keep hready.side (controlOf_keeps (hchange.stays rfl rfl))
  | startedNow _ _ _ _ _ _ hside | startFixedBySample _ _ _ _ _ hside
  | startFixedByVote _ _ _ _ _ _ hside =>
    exact hinv.keep hside (controlOf_keeps (hchange.stays rfl rfl))
  | legacyTick _ htick => exact hinv.keep htick.side (controlOf_keeps (hchange.stays rfl rfl))
  | recoveryPrepared _ _ _ _ _ _ hside | recoveryLimited _ _ _ _ _ _ hside =>
    exact hinv.carry (.inl (congrArg (·.romRelayTransfer) hside))
      (.inl (congrArg (·.snapshotFileRelayTransfer) hside))
      fun p _ => controlOf_keeps (hchange.stays rfl rfl) p
  | _ => exact hinv.keep rfl (controlOf_keeps (hchange.stays rfl rfl))

/-! ## Uploads that can be completed -/

/-- The seat goes on, with its player if there is one. -/
structure Stays (slot slot' : PlayerSlot) : Prop where
  playerIndex : slot'.playerIndex = slot.playerIndex
  role : slot'.role = slot.role
  connected : slot.connectionId.isSome → slot'.connectionId.isSome

theorem Keeps.stays {slot slot' : PlayerSlot} (h : Keeps slot slot') : Stays slot slot' := by
  refine ⟨h.playerIndex, h.role, ?_⟩
  rw [h.connectionId]
  exact id

/-- The host sits on the first seat. -/
def hostSits (r : NetplayRoom) : Bool :=
  r.players.any fun slot => slot.playerIndex = .one && slot.role = .host

/-- What the room asks of a completed upload beside its sender still holds of the transfer. -/
structure UploadFits (r : NetplayRoom) (transfer : SnapshotFileRelayTransferState) : Prop where
  mode : r.session.mode = .controllerNetplay
  frame : transfer.manifest.repairFrame = r.syncStartFrame
  pinned : ∀ manifest, r.stateRecovery.bind (·.pinnedSnapshot) = some manifest →
    manifest = transfer.manifest
  valid : (transfer.manifest.validate .default).isOk
  host : hostSits r
  receiver : (controlOf r transfer.receiverPlayerIndex).isSome

/-- No upload outlives its session: while a player is waited for there is none. -/
structure Uploads (r : NetplayRoom) : Prop where
  fits : ∀ transfer, r.snapshotFileRelayTransfer = some transfer → UploadFits r transfer
  idle : r.status = .recovering → r.snapshotFileRelayTransfer = none

theorem Uploads.of_none (h : r.snapshotFileRelayTransfer = none) : Uploads r :=
  ⟨fun _ htransfer => absurd (h.symm.trans htransfer) (by simp), fun _ => h⟩

theorem Uploads.of_fresh {frame : Nat} (h : sideData r = .fresh frame) : Uploads r :=
  .of_none (congrArg (·.snapshotFileRelayTransfer) h)

/-- The session goes on, nobody loses its control socket and nothing new is pinned. -/
theorem Uploads.keep (h : Uploads r)
    (hfile : r'.snapshotFileRelayTransfer = r.snapshotFileRelayTransfer)
    (hstatus : r'.status = .recovering → r.status = .recovering)
    (hmode : r'.session.mode = r.session.mode) (hframe : r'.syncStartFrame = r.syncStartFrame)
    (hpinned : r'.stateRecovery.bind (·.pinnedSnapshot) = none
      ∨ r'.stateRecovery = r.stateRecovery)
    (hstays : List.Forall₂ Stays r.players r'.players) : Uploads r' := by
  refine ⟨fun transfer htransfer => ?_, fun hother => hfile.trans (h.idle (hstatus hother))⟩
  have hfits := h.fits transfer (hfile.symm.trans htransfer)
  refine ⟨hmode.trans hfits.mode, hfits.frame.trans hframe.symm, fun manifest hmanifest => ?_,
    hfits.valid, ?_, ?_⟩
  rotate_left
  · rw [hostSits, any_of_forall₂ hstays fun _ _ hs => by rw [hs.playerIndex, hs.role]]
    exact hfits.host
  · exact isSome_controlOf (hstays.imp fun _ _ hs => ⟨hs.playerIndex, hs.connected⟩) hfits.receiver
  rcases hpinned with hpinned | hpinned
  · exact absurd (hpinned.symm.trans hmanifest) (by simp)
  · rw [hpinned] at hmanifest
    exact hfits.pinned manifest hmanifest

/-- The same, read off the core of the session. -/
theorem Uploads.of_core {core : SessionCore} (h : Uploads r) (hcore : sessionCore r' = core)
    (hfile : r'.snapshotFileRelayTransfer = r.snapshotFileRelayTransfer)
    (hstatus : core.status = .recovering → r.status = .recovering)
    (hmode : core.session.mode = r.session.mode) (hframe : core.syncStartFrame = r.syncStartFrame)
    (hrecovery : core.stateRecovery = r.stateRecovery)
    (hstays : List.Forall₂ Stays r.players r'.players) : Uploads r' := by
  subst hcore
  exact h.keep hfile hstatus hmode hframe (.inr hrecovery) hstays

/-- Only bookkeeping and side data other than the upload differ. -/
theorem Uploads.same (h : Uploads r) (hsame : SameSession r r')
    (hfile : r'.snapshotFileRelayTransfer = r.snapshotFileRelayTransfer) : Uploads r' := by
  exact h.of_core hsame.core hfile id rfl rfl rfl (hsame.players.imp fun _ _ => Keeps.stays)

theorem Uploads.detached (h : Uploads r) (c : ConnectionId) (p : PlayerIndex) (now : Instant) :
    Uploads (r.detachInputSocket c p now) := by
  refine h.keep rfl id rfl rfl (.inr rfl) ?_
  exact forall₂_updateFirst (fun _ => ⟨rfl, rfl, id⟩) fun _ _ => ⟨rfl, rfl, id⟩

theorem aside_uploads (hseats : Seats r) (hinv : Uploads r) (hsame : SameSession r r')
    (h : Aside r op r') : Uploads r' := by
  cases h with
  | @fileGranted c manifest grants intent _ hintent hside =>
    have hfile := prepareSnapshotFileRelayTransfer_intent hintent
    have hgranted : r'.snapshotFileRelayTransfer = some _ :=
      congrArg (·.snapshotFileRelayTransfer) hside
    have hstage := validateHostSnapshotSender_stage hfile.sender
    obtain ⟨slot, hslot, hindex, hconnected⟩ := hfile.receiver
    constructor
    · intro transfer htransfer
      obtain rfl := Option.some.inj (hgranted.symm.trans htransfer)
      refine ⟨?_, ?_, fun pinned hpinned => ?_, hfile.valid, ?_, ?_⟩
      · rw [hsame.session]
        exact hstage.1
      · rw [hsame.syncStartFrame]
        exact hfile.frame
      · have hvalid := hfile.pinned
        have hrecovery : r'.stateRecovery = r.stateRecovery :=
          congrArg (·.stateRecovery) hsame.core
        rw [hrecovery] at hpinned
        rw [validateV5RecoverySnapshot, hpinned] at hvalid
        by_contra hother
        simp [hother] at hvalid
      · obtain ⟨host, hhost, hrole, _⟩ := validateHostSnapshotSender_host hfile.sender
        rw [hostSits, any_of_forall₂ hsame.players fun _ _ hs => by rw [hs.playerIndex, hs.role]]
        exact List.any_eq_true.mpr
          ⟨host, hhost, by simp [hrole, (hseats.seated host hhost).host hrole]⟩
      · rw [controlOf_keeps hsame.players, ← hindex, controlOf, hseats.slotForPlayer hslot,
          Option.bind_some]
        exact hconnected
    · intro hrecovering
      have hstatus := hsame.status.symm.trans hrecovering
      rw [hstatus] at hstage
      exact absurd hstage.2 (by simp)
  | kept hside | romGranted _ _ _ hside | romWentOn _ _ hside | romEnded hside | packetTaken hside
  | hashNoted hside =>
    exact hinv.same hsame (congrArg (·.snapshotFileRelayTransfer) hside)

theorem controlLoss_uploads {now : Instant} {grace : Duration} (hinv : Uploads r)
    (h : ControlLoss r c now grace r') : Uploads r' := by
  cases h with
  | unknown _ hsame hside =>
    exact hinv.same hsame (congrArg (·.snapshotFileRelayTransfer) hside)
  | handoffKept | recovery | hostGone | guestGone => exact .of_fresh rfl
  | alsoLost _ _ _ _ hstatus hside =>
    exact .of_none
      ((congrArg (·.snapshotFileRelayTransfer) hside).trans (hinv.idle hstatus))

/-- **No call makes a stored upload one that its sender cannot complete.** -/
theorem effect_uploads (hseats : Seats r) (hinv : Uploads r) (h : Effect relay r op r') :
    Uploads r' := by
  have hchange := effect_seats hseats h
  -- whoever is connected stays so where nobody takes or leaves a seat
  have hstays : attaches op = none → leaves op = false →
      List.Forall₂ Stays r.players r'.players := by
    intro hattaches hleaves
    exact (hchange.stays hattaches hleaves).imp fun _ _ => Keeps.stays
  cases h with
  | bookkeeping hsame haside => exact aside_uploads hseats hinv hsame haside
  | joined | reconnected | exited | resynced | pinned => exact .of_fresh rfl
  | fingerprintRejected | restartedByLast | restarted => exact .of_none rfl
  | hostAttached | handoffReconnected =>
    refine hinv.keep rfl id rfl rfl (.inr rfl) ?_
    exact forall₂_updateFirst (fun _ => ⟨rfl, rfl, id⟩) fun _ _ => ⟨rfl, rfl, fun _ => rfl⟩
  | inputAttached =>
    refine hinv.keep rfl id rfl rfl (.inr rfl) ?_
    exact forall₂_updateFirst (fun _ => ⟨rfl, rfl, id⟩) fun _ _ => ⟨rfl, rfl, id⟩
  | controlLost hloss => exact controlLoss_uploads hinv hloss
  | inputLost => exact hinv.detached _ _ _
  | inputAndControlLost _ _ _ hloss => exact controlLoss_uploads (hinv.detached _ _ _) hloss
  | pinTimedOut =>
    refine hinv.keep rfl (fun hclosed => absurd hclosed (by simp)) rfl rfl (.inr rfl) ?_
    exact (updateOccupied_keeps fun _ => .enter (by simp)).imp fun _ _ => Keeps.stays
  | handoffsLapsed _ _ hside => exact .of_fresh hside
  | heartbeatsStopped _ hdropped => exact .of_fresh hdropped.side
  | snapshotCompleted | pauseNoted =>
    exact hinv.keep rfl id rfl rfl (.inr rfl) ((keeps_refl _).imp fun _ _ => Keeps.stays)
  | fingerprintStored | linkStored | sampleStored | voteCounted | pauseOpened | inputAccepted
  | openHeld | frameReleased => exact hinv.keep rfl id rfl rfl (.inr rfl) (hstays rfl rfl)
  | fingerprintsDiffer | fingerprintsAgree | linkRejected | linksDiffer | linksAgree
  | paused | pauseEndedByLast | pauseEnded =>
    exact hinv.keep rfl (fun hother => absurd hother (by simp)) rfl rfl (.inr rfl)
      (hstays rfl rfl)
  | openedByHost | openedByTimer =>
    exact hinv.keep rfl (fun hother => absurd hother (by simp)) rfl rfl (.inl rfl)
      (hstays rfl rfl)
  | becameReady hstatus hready =>
    obtain ⟨_, hcore⟩ := hready.core
    exact hinv.of_core hcore (congrArg (·.snapshotFileRelayTransfer) hready.side)
      (fun hother => absurd hother (by simp)) rfl rfl rfl (hstays rfl rfl)
  | startedNow _ hr₁ _ _ _ _ hside =>
    obtain ⟨_, hcore⟩ := hr₁.core
    exact hinv.keep (congrArg (·.snapshotFileRelayTransfer) hside)
      (fun hother => absurd hother (by simp)) (congrArg (·.session.mode) hcore)
      hr₁.syncStartFrame (.inl rfl) (hstays rfl rfl)
  | startFixedBySample hr₁ _ _ _ _ hside | startFixedByVote hr₁ _ _ _ _ _ hside =>
    obtain ⟨_, hcore⟩ := hr₁.core
    exact hinv.keep (congrArg (·.snapshotFileRelayTransfer) hside)
      (fun hother => absurd hother (by simp [scheduleStart]))
      (congrArg (·.session.mode) hcore) hr₁.syncStartFrame
      (.inr (congrArg (·.stateRecovery) hcore)) (hstays rfl rfl)
  | legacyInput hinput =>
    refine hinv.of_core hinput.core (congrArg (·.snapshotFileRelayTransfer) hinput.side) id rfl
      rfl rfl ?_
    rw [hinput.players]
    exact (keeps_refl _).imp fun _ _ => Keeps.stays
  | legacyTick _ htick =>
    exact hinv.of_core htick.core (congrArg (·.snapshotFileRelayTransfer) htick.side)
      (fun hother => absurd hother (by simp)) rfl rfl rfl (hstays rfl rfl)
  | recoveryPrepared hr₁ _ _ _ _ _ hside | recoveryLimited hr₁ _ _ _ _ _ hside =>
    exact hinv.keep (congrArg (·.snapshotFileRelayTransfer) hside)
      (fun hother => absurd hother (by simp))
      (congrArg (·.mode) hr₁.session) hr₁.syncStartFrame (.inl rfl)
      (hstays rfl rfl)

/-! ## Who can end a transfer -/

/-- Player `p` is connected and may report the failure of a ROM transfer or cancel it. -/
def canEndRom (r : NetplayRoom) (p : PlayerIndex) : Bool :=
  (controlOf r p).any fun c =>
    (r.acceptRomRelayFailure c none).1.isOk && (r.acceptRomRelayCancelled c none).1.isOk

/-- The host is connected and may complete the upload of its snapshot. -/
def canCompleteUpload (r : NetplayRoom) (transfer : SnapshotFileRelayTransferState) : Bool :=
  (controlOf r .one).any fun c => (r.acceptSnapshotFileRelayUploadComplete c
    transfer.downloadGrant.transferId transfer.manifest .default).1.isOk

theorem Participate.canEnd {transfer : RomRelayTransferState} (h : Participate r transfer)
    (htransfer : r.romRelayTransfer = some transfer) :
    canEndRom r transfer.senderPlayerIndex ∧ canEndRom r transfer.receiverPlayerIndex := by
  have hend : ∀ c, c = transfer.senderConnection ∨ c = transfer.receiverConnection →
      (r.endRomRelayTransfer c none).1.isOk := by
    intro c hc
    rw [endRomRelayTransfer, ensureRomRelayParticipant, htransfer]
    simp [hc, Except.isOk, Except.toBool]
  constructor
  · rw [canEndRom, h.sender, Option.any_some]
    exact Bool.and_eq_true_iff.mpr ⟨hend _ (.inl rfl), hend _ (.inl rfl)⟩
  · rw [canEndRom, h.receiver, Option.any_some]
    exact Bool.and_eq_true_iff.mpr ⟨hend _ (.inr rfl), hend _ (.inr rfl)⟩

theorem UploadFits.canComplete {transfer : SnapshotFileRelayTransferState} (hseats : Seats r)
    (h : UploadFits r transfer) (htransfer : r.snapshotFileRelayTransfer = some transfer)
    (hsource : controlOf r .one = some transfer.sourceConnection)
    (hopen : r.hostSnapshotCompleted = false)
    (hstage : r.status = .syncingState ∨ r.status = .ready) : canCompleteUpload r transfer := by
  have hrole : r.roleForConnection transfer.sourceConnection = some .host := by
    obtain ⟨host, hhost, hsits⟩ := List.any_eq_true.mp h.host
    have hsits : host.playerIndex = .one ∧ host.role = .host := by simpa using hsits
    rw [controlOf, ← hsits.1, hseats.slotForPlayer hhost, Option.bind_some] at hsource
    rw [roleForConnection, hseats.slotForConnection hhost hsource, Option.map_some, hsits.2]
  have hsender : r.validateSnapshotManifestSender transfer.sourceConnection transfer.manifest
      = .ok () := by
    have hpinned : r.validateV5RecoverySnapshot transfer.manifest = .ok () := by
      unfold validateV5RecoverySnapshot
      split
      · rfl
      · rename_i pinned hpinned
        rw [if_pos (h.pinned pinned hpinned)]
    have hstage : ¬(r.status ≠ .syncingState ∧ r.status ≠ .ready) := by tauto
    simp [validateSnapshotManifestSender, validateHostSnapshotSender,
      validateHostSnapshotIdentity, validateSnapshotRepairFrame, hopen,
      h.mode, hrole, hstage, h.frame, hpinned, bind, Except.bind]
  obtain ⟨receiver, hreceiver⟩ := Option.isSome_iff_exists.mp h.receiver
  have haccepted : r.acceptSnapshotFileRelayUploadComplete transfer.sourceConnection
        transfer.downloadGrant.transferId transfer.manifest .default
      = (.ok (some (receiver, transfer.downloadGrant)),
        r.completeHostSnapshot transfer.manifest) := by
    rw [controlOf] at hreceiver
    simp [acceptSnapshotFileRelayUploadComplete, hopen, hsender, h.valid, htransfer, hreceiver]
  rw [canCompleteUpload, hsource, Option.any_some, haccepted]
  rfl

/-! ## Whole histories -/

/-- Every transfer is in its players' hands, and they can end it: both participants can call off a
ROM transfer, and the host can complete its upload as long as the room takes the snapshot. -/
structure InHand (r : NetplayRoom) : Prop extends TransfersHeld r where
  romEnds : ∀ transfer, r.romRelayTransfer = some transfer →
    canEndRom r transfer.senderPlayerIndex ∧ canEndRom r transfer.receiverPlayerIndex
  uploadEnds : ∀ transfer, r.snapshotFileRelayTransfer = some transfer →
    r.hostSnapshotCompleted = false → r.status = .syncingState ∨ r.status = .ready →
    canCompleteUpload r transfer

/-- **In every history in which no call strands a transfer, every transfer names the control sockets
of its participants, and they can end it.** -/
theorem transfers_in_hand {roomId key c session version resume input now voice ops s}
    (hguarded : Guarded (StoredRoom.step relay)
      (fun s op => Admissible s.room op ∧ strandsTransfer s.room op = false)
      (createRoom roomId key c session version resume input now voice) ops)
    (hrun : run (StoredRoom.step relay)
      (createRoom roomId key c session version resume input now voice) ops = some s) :
    InHand s.room := by
  let Inv : StoredRoom → Prop := fun s =>
    Reachable relay s ∧ TransfersHeld s.room ∧ Uploads s.room
  have hkeep : ∀ s op t, Inv s → Admissible s.room op ∧ strandsTransfer s.room op = false →
      s.step relay op = some t → Inv t := by
    intro s op t hs hcall hstep
    have hseats := seats_reachable hs.1
    have heffect := applyOp_effect relay s.room op
    refine ⟨reachable_step hs.1 hcall.1 hstep, ?_⟩
    rw [step_room hstep]
    exact ⟨effect_transfers hseats hs.2.1 hcall.2 heffect, effect_uploads hseats hs.2.2 heffect⟩
  have hnew : Inv (createRoom roomId key c session version resume input now voice) := by
    refine ⟨reachable_createRoom, ?_⟩
    have hfresh :
        sideData (createRoom roomId key c session version resume input now voice).room
          = .fresh 0 := by
      cases voice <;> rfl
    exact ⟨.of_fresh hfresh, .of_fresh hfresh⟩
  obtain ⟨hreachable, hheld, huploads⟩ := invariant_run hkeep hguarded hrun hnew
  refine ⟨hheld, fun transfer htransfer => ?_, fun transfer htransfer hopen hstage => ?_⟩
  · exact (hheld.rom transfer htransfer).canEnd htransfer
  · exact (huploads.fits transfer htransfer).canComplete (seats_reachable hreachable) htransfer
      (hheld.file transfer htransfer) hopen hstage

/-- A room whose host lends its ROM. -/
def lendingRoom : StoredRoom :=
  createRoom ⟨0⟩ "host".toList ⟨0⟩ { sampleSession with romRelay := some ⟨true, none⟩ } 5 [] [] 0
    none

def sampleRomGrants : RomRelayGrantPair := ⟨⟨"rom".toList, []⟩, ⟨"rom".toList, []⟩⟩

/-- The room synchronises, the host uploads its snapshot and lends its ROM. -/
def lending : List RoomOp :=
  seating true ++ (handshake 5 0).take 3 ++ [.grantRomRelayUpload guestSocket sampleRomGrants]

/-- Both kinds of transfers are on their way. -/
theorem transfers_in_hand_lending :
    ∃ s, run (StoredRoom.step sampleRelay) lendingRoom lending = some s
      ∧ s.room.romRelayTransfer.isSome ∧ s.room.snapshotFileRelayTransfer.isSome
      ∧ InHand s.room := by
  have hfacts : Guarded (StoredRoom.step sampleRelay)
        (fun s op => Admissible s.room op ∧ strandsTransfer s.room op = false) lendingRoom lending
      ∧ ∃ s ∈ run (StoredRoom.step sampleRelay) lendingRoom lending,
        s.room.romRelayTransfer.isSome ∧ s.room.snapshotFileRelayTransfer.isSome := by
    decide +kernel
  obtain ⟨hguarded, s, hs, hrom, hfile⟩ := hfacts
  exact ⟨s, hs, hrom, hfile, transfers_in_hand hguarded hs⟩

/-- The host comes back through its invite while it uploads and lends. -/
def lenderComesBack : List RoomOp :=
  lending ++ [.connectHost "host".toList newSocket "hr".toList "hi".toList 1
    ⟨true, true, true, true, true⟩]

/-- The guest's runner takes over while the guest borrows. -/
def borrowerTakenOver : List RoomOp :=
  seating true ++ [.armRunnerHandoff guestSocket 0,
    .grantRomRelayUpload guestSocket sampleRomGrants,
    .reconnectPlayer ⟨.two, "gr".toList, "gr2".toList, "gi2".toList, 2, newSocket, 1,
      ⟨true, true, true, true, true⟩⟩]

/-- The host is lost and comes back through its invite, the guest borrows, and is lost too. -/
def borrowerLost : List RoomOp :=
  seating false ++ handshake 5 0 ++ [.disconnect hostSocket 1,
    .connectHost "host".toList newSocket "hr".toList "hi".toList 1 ⟨true, true, true, true, true⟩,
    .grantRomRelayUpload guestSocket sampleRomGrants, .disconnect guestSocket 2]

/-- After each of the three histories a transfer names a socket that no longer has its seat. Nobody
can complete the upload of the host that came back. -/
theorem transfers_stranded :
    let attached := after sampleRelay lendingRoom lenderComesBack
    let takenOver := after sampleRelay lendingRoom borrowerTakenOver
    let lost := after sampleRelay lendingRoom borrowerLost
    (Reachable sampleRelay attached ∧ controlOf attached.room .one = some newSocket
        ∧ attached.room.romRelayTransfer.map (·.senderConnection) = some hostSocket
        ∧ ∃ transfer ∈ attached.room.snapshotFileRelayTransfer,
          transfer.sourceConnection = hostSocket ∧ canCompleteUpload attached.room transfer = false)
      ∧ (Reachable sampleRelay takenOver ∧ controlOf takenOver.room .two = some newSocket
        ∧ takenOver.room.romRelayTransfer.map (·.receiverConnection) = some guestSocket)
      ∧ Reachable sampleRelay lost ∧ controlOf lost.room .two = none
        ∧ lost.room.romRelayTransfer.map (·.receiverConnection) = some guestSocket := by
  refine ⟨⟨reachable_after ?_, ?_⟩, ⟨reachable_after ?_, ?_⟩, reachable_after ?_, ?_⟩ <;>
    decide +kernel

end NetplayRelay.Proof
