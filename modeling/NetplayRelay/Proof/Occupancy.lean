import NetplayRelay.Proof.SeatSteps

/-!
# Who owns a seat

`Seats` is about sockets. Here the seat's owner comes in: a seat is empty exactly if it has no
subject, and then nothing is left of whoever sat there; a pending input token was issued to the
control socket that is attached; and the first seat has the host as its owner for as long as the
room exists.

The operations write these fields one by one, so the invariant is proved seat by seat. Most calls
move nobody (`Unmoved`). The others take a seat, or take sockets from a seat whose player was
connected; nothing is ever given to an empty seat except by a join.
-/

namespace NetplayRelay.Proof

open Lib Protocol Rooms Registry NetplayRoom

variable {relay : Relay} {r r' r'' : NetplayRoom} {slot slot' slot'' : PlayerSlot}
  {edit : PlayerSlot → PlayerSlot} {status : PlayerStatus} {c : ConnectionId}

/-- What holds of the owner of a seat. -/
structure Occupancy (slot : PlayerSlot) : Prop where
  /-- Empty seats are those without a subject. -/
  vacant : slot.isEmpty ↔ slot.subjectKey = none
  /-- Nothing is left on an empty seat. -/
  bare : slot.subjectKey = none →
    slot.connectionId = none ∧ slot.resumeTokenHash = none ∧ slot.inputSocketTokenHash = none
  /-- A pending input token is for the player who is connected. -/
  issuer : slot.inputSocketTokenHash.isSome →
    slot.connectionId.isSome ∧ slot.inputSocketControlConnectionId = slot.connectionId
  /-- The first seat is the host's. -/
  first : slot.playerIndex = .one → slot.role = .host
  /-- The host's seat has an owner. -/
  owned : slot.role = .host → slot.subjectKey ≠ none

namespace Occupancy

/-- Who is connected is somebody. -/
theorem subject_of_connected (h : Occupancy slot) (hconnected : slot.connectionId ≠ none) :
    slot.subjectKey ≠ none :=
  fun hnone => hconnected (h.bare hnone).1

theorem subject_of_resume (h : Occupancy slot) (hresume : slot.resumeTokenHash ≠ none) :
    slot.subjectKey ≠ none :=
  fun hnone => hresume (h.bare hnone).2.1

theorem subject_of_status (h : Occupancy slot) (hstatus : slot.isEmpty = false) :
    slot.subjectKey ≠ none := by
  intro hnone
  rw [h.vacant.mpr hnone] at hstatus
  exact absurd hstatus (by simp)

theorem of_owned (hsubject : slot.subjectKey ≠ none) (hstatus : slot.isEmpty = false)
    (hissuer : slot.inputSocketTokenHash.isSome →
      slot.connectionId.isSome ∧ slot.inputSocketControlConnectionId = slot.connectionId)
    (hfirst : slot.playerIndex = .one → slot.role = .host) : Occupancy slot where
  vacant := by
    rw [hstatus]
    exact iff_of_false Bool.false_ne_true hsubject
  bare := fun hnone => absurd hnone hsubject
  issuer := hissuer
  first := hfirst
  owned := fun _ => hsubject

/-- The owner of a seat stays, without a pending input token. -/
theorem shed (h : Occupancy slot) (hsubject : slot.subjectKey ≠ none)
    (hsame : slot'.subjectKey = slot.subjectKey) (hstatus : slot'.isEmpty = false)
    (hinput : slot'.inputSocketTokenHash = none) (hindex : slot'.playerIndex = slot.playerIndex)
    (hrole : slot'.role = slot.role) : Occupancy slot' := by
  refine of_owned ?_ hstatus ?_ ?_
  · rw [hsame]
    exact hsubject
  · rw [hinput]
    exact fun hsome => absurd hsome Bool.false_ne_true
  · rw [hindex, hrole]
    exact h.first

theorem keeps (hs : Keeps slot slot') (hvacant : Vacant slot → Vacant slot') (h : Occupancy slot) :
    Occupancy slot' where
  vacant := by
    rw [hs.subject, ← h.vacant]
    constructor
    · intro hempty
      by_contra hoccupied
      exact absurd hempty (by simp [hs.occupied (by simpa using hoccupied)])
    · intro hempty
      obtain ⟨hcontrol, hresume, _⟩ := h.bare (h.vacant.mp hempty)
      exact (hvacant ⟨hempty, hcontrol, hresume⟩).status
  bare := by
    rw [hs.subject, hs.connectionId, hs.resumeTokenHash, hs.inputSocketTokenHash]
    exact h.bare
  issuer := by
    rw [hs.inputSocketTokenHash, hs.connectionId, hs.inputSocketControlConnectionId]
    exact h.issuer
  first := by
    rw [hs.playerIndex, hs.role]
    exact h.first
  owned := by
    rw [hs.role, hs.subject]
    exact h.owned

end Occupancy

/-- Every seat is in order. -/
def AllOccupied (r : NetplayRoom) : Prop := ∀ slot ∈ r.players, Occupancy slot

theorem AllOccupied.updateFirst {test : PlayerSlot → Bool} (h : AllOccupied r)
    (hedit : ∀ slot, r.players.find? test = some slot → Occupancy slot → Occupancy (edit slot)) :
    AllOccupied (r.updateSlot test edit) := by
  have hsteps : List.Forall₂ (fun slot slot' => Occupancy slot → Occupancy slot') r.players
      (r.updateSlot test edit).players := forall₂_updateFirst (fun _ => id) hedit
  intro slot' hslot'
  obtain ⟨slot, hslot, hstep⟩ := forall₂_mem hsteps hslot'
  exact hstep (h slot hslot)

/-! ## Calls that move nobody -/

/-- Nobody sits down, and nobody gets up. -/
structure Unmoved (r r' : NetplayRoom) : Prop where
  keeps : List.Forall₂ Keeps r.players r'.players
  vacant : VacancyKept r r'

namespace Unmoved

theorem of_eq (h : r'.players = r.players) : Unmoved r r' :=
  ⟨h ▸ keeps_refl _, .of_eq h⟩

theorem of_same (h : SameSession r r') : Unmoved r r' := ⟨h.players, h.vacant⟩

theorem trans (h : Unmoved r r') (h' : Unmoved r' r'') : Unmoved r r'' :=
  ⟨keeps_trans h.keeps h'.keeps, h.vacant.trans h.keeps h'.vacant⟩

theorem enterConnected {state : PlayerRuntimeState} (h : status ≠ .empty)
    (hplayers : r'.players = (r.updateConnected (·.enter status state)).players) : Unmoved r r' :=
  Unmoved.trans ⟨updateConnected_keeps fun _ => .enter h, .updateConnected⟩ (.of_eq hplayers)

theorem enterOccupied {state : PlayerRuntimeState} (h : status ≠ .empty)
    (hplayers : r'.players = (r.updateOccupied (·.enter status state)).players) : Unmoved r r' :=
  Unmoved.trans ⟨updateOccupied_keeps fun _ => .enter h, .updateOccupied⟩ (.of_eq hplayers)

theorem setPlayerStatus {p : PlayerIndex} (hp : r.playerIndexForConnection c = some p)
    (h : status ≠ .empty) (hplayers : r'.players = (r.setPlayerStatus p status).players) :
    Unmoved r r' :=
  Unmoved.trans ⟨setPlayerStatus_keeps r h, .setPlayerStatus hp⟩ (.of_eq hplayers)

theorem resetSyncStateTo (r : NetplayRoom) (startFrame : Nat) :
    Unmoved r (r.resetSyncStateTo startFrame) := by
  refine ⟨resetSyncStateTo_keeps r startFrame, fun _ => ?_⟩
  rw [resetSyncStateTo_players]
  split
  · refine List.forall₂_map_right_iff.mpr (List.forall₂_same.mpr fun _ _ hvacant => ?_)
    exact ⟨hvacant.status, hvacant.control, hvacant.resume⟩
  · exact List.forall₂_same.mpr fun _ _ => id

theorem restoreChecking (r : NetplayRoom) :
    Unmoved r r.restoreCheckingCompatibilityAfterRecovery := by
  refine ⟨restoreChecking_keeps r, ?_⟩
  have hchecking : VacancyKept r.resetSyncState r.restoreCheckingCompatibilityAfterRecovery := by
    refine .updateWhere fun slot hslot hvacant => ?_
    rw [hvacant.status] at hslot
    exact absurd hslot Bool.false_ne_true
  exact (resetSyncStateTo r 0).vacant.trans (resetSyncStateTo r 0).keeps hchecking

theorem enterRecoveryState (r : NetplayRoom) (epoch : Nat) :
    Unmoved r (r.enterRecoveryState epoch) := by
  refine ⟨enterRecoveryState_keeps r epoch, ?_⟩
  have hwaiting : VacancyKept r.resetSyncState (r.enterRecoveryState epoch) := .updateConnected
  exact (resetSyncStateTo r 0).vacant.trans (resetSyncStateTo r 0).keeps hwaiting

theorem occupied (h : Unmoved r r') (hnodup : (r.players.map (·.playerIndex)).Nodup)
    (hocc : AllOccupied r) : AllOccupied r' := by
  have hsteps : List.Forall₂ (fun slot slot' => Occupancy slot → Occupancy slot') r.players
      r'.players := by
    have hboth := h.vacant hnodup
    have hkeeps := h.keeps
    generalize r.players = ps, r'.players = ps' at hboth hkeeps
    induction hkeeps with
    | nil => exact .nil
    | cons hs _ ih =>
      obtain ⟨hvacant, hrest⟩ := List.forall₂_cons.mp hboth
      exact .cons (.keeps hs hvacant) (ih hrest)
  intro slot' hslot'
  obtain ⟨slot, hslot, hstep⟩ := forall₂_mem hsteps hslot'
  exact hstep (hocc slot hslot)

end Unmoved

/-! ## Losses -/

/-- A guest's seat is given up; nobody is connected there any more. -/
theorem Occupancy.vacated (hfirst : slot.playerIndex = .one → slot.role = .host)
    (hguest : slot.role ≠ .host) (habsent : slot.connectionId = none) :
    Occupancy (slot.clearDisconnected false) where
  vacant := iff_of_true rfl rfl
  bare := fun _ => ⟨habsent, rfl, rfl⟩
  issuer := fun hsome => absurd hsome Bool.false_ne_true
  first := hfirst
  owned := fun hhost => absurd hhost hguest

/-- A seat is given up. Only the host's keeps its owner. -/
theorem Occupancy.cleared {isHost : Bool} (h : Occupancy slot) (hhost : isHost ↔ slot.role = .host)
    (habsent : slot.connectionId = none) : Occupancy (slot.clearDisconnected isHost) := by
  cases isHost with
  | true => exact h.shed (h.owned (hhost.mp rfl)) rfl rfl rfl rfl rfl
  | false => exact .vacated h.first (fun hrole => Bool.false_ne_true (hhost.mpr hrole)) habsent

theorem indices_updateSlot {test : PlayerSlot → Bool}
    (h : ∀ slot, (edit slot).playerIndex = slot.playerIndex) :
    (r.updateSlot test edit).players.map (·.playerIndex) = r.players.map (·.playerIndex) :=
  map_eq_of_forall₂ (forall₂_updateFirst (fun _ => rfl) fun slot _ => h slot)

/-- The seat of a socket is edited: its player was connected. -/
theorem AllOccupied.updateConnection (h : AllOccupied r) (hseats : Seats r)
    (hslot : r.slotForConnection c = some slot)
    (hedit : Occupancy slot → slot.subjectKey ≠ none → Occupancy (edit slot)) :
    AllOccupied (r.updateSlot (·.playerIndex = slot.playerIndex) edit) := by
  refine h.updateFirst fun slot' hslot' hocc => ?_
  have hfound := hseats.slotForPlayer (List.mem_of_find?_eq_some hslot)
  obtain rfl := Option.some.inj (hfound.symm.trans hslot')
  have hconnected : slot.connectionId ≠ none :=
    Option.isSome_iff_ne_none.mp (isConnected_of_slotForConnection hslot)
  exact hedit hocc (hocc.subject_of_connected hconnected)

theorem controlLoss_occupied {now : Instant} {grace : Duration} (hseats : Seats r)
    (hocc : AllOccupied r) (h : ControlLoss r c now grace r') : AllOccupied r' := by
  -- the player is waited for
  have hmark : ∀ {r₁ : NetplayRoom} {slot : PlayerSlot} (epoch : Nat), SameSession r r₁ →
      r₁.slotForConnection c = some slot →
      AllOccupied ((detachControl r₁ c slot.playerIndex now).markSlotReconnecting slot.playerIndex
        now grace epoch) := by
    intro r₁ slot epoch hr₁ hslot
    have hseats₁ : Seats r₁ := hseats.keep hr₁.players hr₁.maxPlayers
    have hocc₁ : AllOccupied r₁ := (Unmoved.of_same hr₁).occupied hseats.nodup hocc
    have hmarked : AllOccupied (r₁.updateSlot (·.playerIndex = slot.playerIndex)
        fun slot => (slot.dropTransport now).markReconnecting now grace epoch) :=
      hocc₁.updateConnection hseats₁ hslot fun hslot hsubject =>
        hslot.shed hsubject rfl rfl rfl rfl rfl
    rw [AllOccupied, detachControl_markSlotReconnecting_players hseats₁ hslot]
    exact hmarked
  -- the seat is given up
  have hclear : ∀ {r₁ : NetplayRoom} {slot : PlayerSlot} {isHost : Bool}, SameSession r r₁ →
      r₁.slotForConnection c = some slot → (isHost ↔ slot.role = .host) →
      AllOccupied ((detachControl r₁ c slot.playerIndex now).clearDisconnectedSlot slot.playerIndex
        isHost) := by
    intro r₁ slot isHost hr₁ hslot hhost
    have hseats₁ : Seats r₁ := hseats.keep hr₁.players hr₁.maxPlayers
    have hocc₁ : AllOccupied r₁ := (Unmoved.of_same hr₁).occupied hseats.nodup hocc
    have hedited : AllOccupied (r₁.updateSlot (·.playerIndex = slot.playerIndex)
        fun slot => (slot.dropTransport now).clearDisconnected isHost) := by
      refine hocc₁.updateConnection hseats₁ hslot fun hslot hsubject => ?_
      cases isHost with
      | true => exact hslot.shed hsubject rfl rfl rfl rfl rfl
      | false =>
        exact .vacated hslot.first (fun hrole => Bool.false_ne_true (hhost.mpr hrole)) rfl
    have hcleared : AllOccupied ((detachControl r₁ c slot.playerIndex now).updateSlot
        (·.playerIndex = slot.playerIndex) (·.clearDisconnected isHost)) := by
      rw [AllOccupied, detachControl_clearDisconnected_players hseats₁ hslot]
      exact hedited
    have hindices : ((detachControl r₁ c slot.playerIndex now).updateSlot
        (·.playerIndex = slot.playerIndex) (·.clearDisconnected isHost)).players.map
          (·.playerIndex) = r₁.players.map (·.playerIndex) := by
      rw [detachControl_clearDisconnected_players hseats₁ hslot]
      exact indices_updateSlot (r := r₁) fun slot => by cases isHost <;> rfl
    exact (Unmoved.resetSyncStateTo _ 0).occupied (hindices ▸ hseats₁.nodup) hcleared
  cases h with
  | unknown _ h => exact (Unmoved.of_same h).occupied hseats.nodup hocc
  | @handoffKept slot hslot =>
    have hkept : AllOccupied (r.updateSlot (·.connectionId = some c)
        (·.preserveHandoff now r.roomEpoch)) := by
      refine hocc.updateFirst fun slot' hslot' hocc' => ?_
      have hconnected := isConnected_of_slotForConnection hslot'
      have hsubject := hocc'.subject_of_connected (Option.isSome_iff_ne_none.mp hconnected)
      exact hocc'.shed hsubject rfl rfl rfl rfl rfl
    have hindices : (r.updateSlot (·.connectionId = some c)
        (·.preserveHandoff now r.roomEpoch)).players.map (·.playerIndex)
        = r.players.map (·.playerIndex) := indices_updateSlot fun _ => rfl
    exact (Unmoved.resetSyncStateTo _ 0).occupied (hindices ▸ hseats.nodup) hkept
  | alsoLost hr₁ _ _ hslot => exact hmark _ hr₁ hslot
  | @recovery r₁ _ slot epoch hr₁ _ _ hslot =>
    have hseats₁ : Seats r₁ := hseats.keep hr₁.players hr₁.maxPlayers
    have hindices : ((detachControl r₁ c slot.playerIndex now).markSlotReconnecting
        slot.playerIndex now grace epoch).players.map (·.playerIndex)
        = r₁.players.map (·.playerIndex) := by
      rw [detachControl_markSlotReconnecting_players hseats₁ hslot]
      exact indices_updateSlot (r := r₁) fun _ => rfl
    exact (Unmoved.enterRecoveryState _ _).occupied (hindices ▸ hseats₁.nodup) (hmark _ hr₁ hslot)
  | hostGone hr₁ _ _ hslot hhost => exact hclear hr₁ hslot (iff_of_true rfl hhost)
  | guestGone hr₁ _ _ hslot hguest =>
    exact hclear hr₁ hslot (iff_of_false Bool.false_ne_true hguest)

/-- The loop over expired handoffs gives up seats of absent players only. The list was taken before
the loop; what it says about sockets and roles stays true. -/
theorem expireRunnerHandoffsLoop_occupied (expired : List PlayerSlot) :
    ∀ {r : NetplayRoom} {guestCleared : Bool}, (r.players.map (·.playerIndex)).Nodup →
      AllOccupied r →
      (∀ listed ∈ expired, ∀ slot ∈ r.players, slot.playerIndex = listed.playerIndex →
        slot.connectionId = listed.connectionId ∧ slot.role = listed.role) →
      AllOccupied (expireRunnerHandoffsLoop r guestCleared expired).2 := by
  induction expired with
  | nil =>
    intro r guestCleared _ hocc _
    cases guestCleared <;> exact hocc
  | cons first rest ih =>
    intro r guestCleared hnodup hocc hlisted
    -- sockets and roles after the first seat was looked at
    have hround : ∀ {r₁ : NetplayRoom}, List.Forall₂ (fun slot slot' : PlayerSlot =>
          slot'.playerIndex = slot.playerIndex ∧ slot'.connectionId = slot.connectionId
            ∧ slot'.role = slot.role) r.players r₁.players → AllOccupied r₁ →
        ∀ {guestCleared : Bool},
          AllOccupied (expireRunnerHandoffsLoop r₁ guestCleared rest).2 := by
      intro r₁ hsame hocc₁ guestCleared
      have hindices : r₁.players.map (·.playerIndex) = r.players.map (·.playerIndex) :=
        map_eq_of_forall₂ (hsame.imp fun _ _ hs => hs.1)
      refine ih (hindices ▸ hnodup) hocc₁ fun listed hmem slot' hslot' hindex => ?_
      obtain ⟨slot, hslot, hsame⟩ := forall₂_mem hsame hslot'
      rw [hsame.2.1, hsame.2.2]
      exact hlisted listed (List.mem_cons_of_mem _ hmem) slot hslot (hsame.1 ▸ hindex)
    rw [expireRunnerHandoffsLoop]
    split
    · have hsame : SameSession r (r.updateSlot (·.playerIndex = first.playerIndex)
          fun slot => { slot with runnerHandoffDeadline := none }) :=
        .updateSlot fun _ _ => ⟨rfl, fun _ _ => ⟨rfl, rfl⟩, id, rfl⟩
      refine hround ?_ ((Unmoved.of_same hsame).occupied hnodup hocc)
      exact hsame.players.imp fun _ _ hs => ⟨hs.playerIndex, hs.connectionId, hs.role⟩
    · rename_i habsent
      have hcleared :
          AllOccupied (r.clearDisconnectedSlot first.playerIndex (first.role = .host)) := by
        have hedited : AllOccupied (r.updateSlot (·.playerIndex = first.playerIndex)
            (·.clearDisconnected (first.role = .host))) := by
          refine hocc.updateFirst fun slot hslot hocc' => ?_
          obtain ⟨hcontrol, hrole⟩ := hlisted first List.mem_cons_self slot
            (List.mem_of_find?_eq_some hslot) (by simpa using List.find?_some hslot)
          refine hocc'.cleared ?_ ?_
          · rw [hrole, decide_eq_true_eq]
          · rw [hcontrol]
            simpa [PlayerSlot.isConnected] using habsent
        have hindices : (r.updateSlot (·.playerIndex = first.playerIndex)
            (·.clearDisconnected (first.role = .host))).players.map (·.playerIndex)
            = r.players.map (·.playerIndex) := by
          refine indices_updateSlot fun slot => ?_
          cases decide (first.role = .host) <;> rfl
        exact (Unmoved.resetSyncStateTo _ 0).occupied (hindices ▸ hnodup) hedited
      have hseats : List.Forall₂ (fun slot slot' : PlayerSlot =>
          slot'.playerIndex = slot.playerIndex ∧ slot'.connectionId = slot.connectionId
            ∧ slot'.role = slot.role) r.players
          (r.clearDisconnectedSlot first.playerIndex (first.role = .host)).players := by
        refine (SeatsCleared.clearDisconnectedSlot r first.playerIndex _).players.imp ?_
        rintro slot slot' (hs | ⟨_, _, hs⟩)
        · exact ⟨hs.playerIndex, hs.connectionId, hs.role⟩
        · exact ⟨congrArg Seat.playerIndex hs, congrArg Seat.connectionId hs, congrArg Seat.role hs⟩
      dsimp only
      split
      · exact hcleared
      · exact hround hseats hcleared

theorem expireRunnerHandoffs_occupied (hseats : Seats r) (hocc : AllOccupied r) (now : Instant) :
    AllOccupied (r.expireRunnerHandoffs now).2 := by
  refine expireRunnerHandoffsLoop_occupied _ hseats.nodup hocc ?_
  intro listed hmem slot hslot hindex
  have hfound := hseats.slotForPlayer (List.mem_of_mem_filter hmem)
  rw [← hindex, hseats.slotForPlayer hslot] at hfound
  obtain rfl := Option.some.inj hfound
  exact ⟨rfl, rfl⟩

theorem sweepRoom_occupied (relay : Relay) (hseats : Seats r) (hocc : AllOccupied r)
    (now : Instant) : AllOccupied (sweepRoom relay r now) := by
  unfold sweepRoom closeExpiredStateRecovery
  by_cases hpin : r.stateRecoveryPinExpired now
  · simp only [hpin, Bool.not_true, Bool.false_eq_true, if_false]
    exact (Unmoved.enterOccupied (by simp) rfl).occupied hseats.nodup hocc
  simp only [hpin, Bool.not_false, if_true]
  have hindices := map_eq_of_forall₂ ((expireRunnerHandoffs_seats hseats now).imp fun _ _ hs => by
    rcases hs with hs | ⟨_, hs⟩
    · exact hs.playerIndex
    · exact hs.playerIndex)
  have hexpired := expireRunnerHandoffs_occupied hseats hocc now
  have hnodup : ((r.expireRunnerHandoffs now).2.players.map (·.playerIndex)).Nodup :=
    hindices ▸ hseats.nodup
  generalize (r.expireRunnerHandoffs now).2 = r₁ at hexpired hnodup ⊢
  have hmarked : SameSession r₁ (r₁.markStaleConnections now relay.recovery.heartbeatStale
      relay.recovery.heartbeatDisconnect).2 := by
    unfold markStaleConnections
    split
    · exact .refl _
    · exact .updateWhere fun _ => .of_edit rfl rfl rfl rfl
  generalize (r₁.markStaleConnections now relay.recovery.heartbeatStale
    relay.recovery.heartbeatDisconnect).2 = r₂ at hmarked ⊢
  have hocc₂ : AllOccupied r₂ := (Unmoved.of_same hmarked).occupied hnodup hexpired
  have hindices₂ : r₂.players.map (·.playerIndex) = r₁.players.map (·.playerIndex) :=
    map_eq_of_forall₂ (hmarked.players.imp fun _ _ hs => hs.playerIndex)
  have hnodup₂ : (r₂.players.map (·.playerIndex)).Nodup := hindices₂ ▸ hnodup
  rcases recoverStaleConnections_players now relay.recovery.heartbeatDisconnect
    relay.recovery.reconnectGrace hnodup₂ with hsame | ⟨_, dropped, hplayers, hdropped⟩
  · rw [hsame]
    exact hocc₂
  have hsteps : List.Forall₂ (fun slot slot' : PlayerSlot => (Occupancy slot → Occupancy slot')
      ∧ slot'.playerIndex = slot.playerIndex) r₂.players dropped.players := by
    rw [hplayers]
    refine forall₂_updateWhere (fun _ => ⟨id, rfl⟩) fun slot _ hsilent => ⟨fun h => ?_, rfl⟩
    have hconnected : slot.isConnected := (Bool.and_eq_true_iff.mp hsilent).1
    have hsubject := h.subject_of_connected (Option.isSome_iff_ne_none.mp hconnected)
    exact h.shed hsubject rfl rfl rfl rfl rfl
  have hindices₃ : dropped.players.map (·.playerIndex) = r₂.players.map (·.playerIndex) :=
    map_eq_of_forall₂ (hsteps.imp fun _ _ hs => hs.2)
  have hocc₃ : AllOccupied dropped := by
    intro slot' hslot'
    obtain ⟨slot, hslot, hstep⟩ := forall₂_mem hsteps hslot'
    exact hstep.1 (hocc₂ slot hslot)
  rw [hdropped]
  exact (Unmoved.enterRecoveryState _ _).occupied (hindices₃ ▸ hnodup₂) hocc₃

/-! ## Every call -/

/-- Whoever comes in is the owner of the seat from then on, and the input token is theirs. -/
theorem Occupancy.held (hsubject : slot'.subjectKey ≠ none) (hstatus : slot'.isEmpty = false)
    (hcontrol : slot'.connectionId = some c)
    (hissuer : slot'.inputSocketControlConnectionId = some c)
    (hfirst : slot'.playerIndex = .one → slot'.role = .host) : Occupancy slot' := by
  refine of_owned hsubject hstatus (fun _ => ⟨?_, ?_⟩) hfirst
  · rw [hcontrol]
    rfl
  · rw [hissuer, hcontrol]

/-- The first seat is never up for a guest. -/
theorem Occupancy.second_of_empty (h : Occupancy slot) (hempty : slot.isEmpty) :
    slot.playerIndex ≠ .one :=
  fun hone => h.owned (h.first hone) (h.vacant.mp hempty)

/-- Who comes back to a seat has a token for it, so the seat has an owner. -/
theorem Returns.occupied {request : PlayerReconnectRequest} (hocc : AllOccupied r)
    (h : Returns r request slot) :
    AllOccupied (r.updateSlot (·.playerIndex = request.playerIndex) (·.reconnect request)) := by
  refine hocc.updateFirst fun slot' hslot' hocc' => ?_
  obtain rfl := Option.some.inj (h.found.symm.trans hslot')
  have hsubject := hocc'.subject_of_resume (by simp [h.token])
  exact .held hsubject rfl rfl rfl hocc'.first

theorem detachInputSocket_occupied {now : Instant} (hseats : Seats r) (hocc : AllOccupied r)
    (p : PlayerIndex) : AllOccupied (r.detachInputSocket c p now) := by
  refine hocc.updateFirst fun slot hslot hocc' => ?_
  have hconnected : slot.isConnected := hseats.controlOfInput hslot
  have hsubject := hocc'.subject_of_connected (Option.isSome_iff_ne_none.mp hconnected)
  have hstatus : slot.isEmpty = false := by
    by_contra hempty
    exact hsubject (hocc'.vacant.mp (by simpa using hempty))
  exact hocc'.shed hsubject rfl hstatus rfl rfl rfl

theorem effect_occupied {op : RoomOp} (hseats : Seats r) (hocc : AllOccupied r)
    (h : Effect relay r op r') (hop : ∀ now, op ≠ .sweep now) : AllOccupied r' := by
  have hunmoved : ∀ {r' : NetplayRoom}, Unmoved r r' → AllOccupied r' :=
    fun h => h.occupied hseats.nodup hocc
  cases h with
  | bookkeeping h => exact hunmoved (.of_same h)
  | @joined key c resume input now capabilities =>
    have hseated : AllOccupied (r.updateSlot (·.isEmpty)
        (·.occupyGuest key c resume input now capabilities)) := by
      refine hocc.updateFirst fun slot hslot hocc' => ?_
      have hsecond := hocc'.second_of_empty (by simpa using List.find?_some hslot)
      exact .held (by simp [PlayerSlot.occupyGuest]) rfl rfl rfl fun hone => absurd hone hsecond
    have hindices : (r.updateSlot (·.isEmpty)
        (·.occupyGuest key c resume input now capabilities)).players.map (·.playerIndex)
        = r.players.map (·.playerIndex) := indices_updateSlot fun _ => rfl
    have hbumped : AllOccupied ((r.updateSlot (·.isEmpty)
        (·.occupyGuest key c resume input now capabilities)).bumpRoomEpoch.bumpSessionEpoch) :=
      hseated
    exact (Unmoved.restoreChecking _).occupied (hindices ▸ hseats.nodup) hbumped
  | @hostAttached key c resume input now capabilities slot =>
    have hattached : AllOccupied (r.updateSlot (·.role = .host)
        (·.attachHost c resume input now capabilities)) := by
      refine hocc.updateFirst fun slot' hslot' hocc' => ?_
      have hhost : slot'.role = .host := by simpa using List.find?_some hslot'
      exact .held (hocc'.owned hhost) rfl rfl rfl hocc'.first
    exact hattached
  | handoffReconnected _ hreturns => exact hreturns.occupied hocc
  | @reconnected request _ _ hreturns =>
    have hindices : (r.updateSlot (·.playerIndex = request.playerIndex)
        (·.reconnect request)).players.map (·.playerIndex) = r.players.map (·.playerIndex) :=
      indices_updateSlot fun _ => rfl
    exact (Unmoved.restoreChecking _).occupied (hindices ▸ hseats.nodup) (hreturns.occupied hocc)
  | @inputAttached p _ _ _ _ _ slot hslot hcontrol =>
    refine hocc.updateFirst fun slot' hslot' hocc' => ?_
    obtain rfl := Option.some.inj (hslot.symm.trans hslot')
    have hsubject := hocc'.subject_of_connected (Option.isSome_iff_ne_none.mp hcontrol)
    have hstatus : slot.isEmpty = false := by
      by_contra hempty
      exact hsubject (hocc'.vacant.mp (by simpa using hempty))
    exact hocc'.shed hsubject rfl hstatus rfl rfl rfl
  | @exited c now =>
    have hreset := (Unmoved.resetSyncStateTo { r with status := .closed } 0).occupied
      hseats.nodup hocc
    have hsteps : List.Forall₂ (fun slot slot' : PlayerSlot => Occupancy slot → Occupancy slot')
        ({ r with status := .closed }.resetSyncState).players
        (({ r with status := .closed }.resetSyncState).updateOccupied (·.exit now)).players := by
      refine forall₂_updateWhere (fun _ => id) fun slot _ hslot h => ?_
      exact h.shed (h.subject_of_status (by simpa using hslot)) rfl rfl rfl rfl rfl
    intro slot' hslot'
    obtain ⟨slot, hslot, hstep⟩ := forall₂_mem hsteps hslot'
    exact hstep (hreset slot hslot)
  | controlLost h => exact controlLoss_occupied hseats hocc h
  | inputLost => exact detachInputSocket_occupied hseats hocc _
  | inputAndControlLost _ _ _ h =>
    exact controlLoss_occupied (hseats.detachInputSocket _)
      (detachInputSocket_occupied hseats hocc _) h
  | pinTimedOut | handoffsLapsed | heartbeatsStopped => exact absurd rfl (hop _)
  | fingerprintRejected _ _ hp | fingerprintStored _ _ hp
  | linkRejected _ _ _ hp | linkStored _ _ _ hp =>
    exact hunmoved (.setPlayerStatus hp (by simp) rfl)
  | @fingerprintsDiffer _ _ fp p _ _ hp =>
    have hset : Unmoved r (r.storeFingerprint p fp) := .setPlayerStatus hp (by simp) rfl
    exact hunmoved (hset.trans (.enterOccupied (by simp) rfl))
  | @linksDiffer _ _ _ p state _ _ _ hp =>
    have hset : Unmoved r (r.storeLinkCompatibility p state) :=
      .setPlayerStatus hp (by simp) rfl
    exact hunmoved (hset.trans (.enterOccupied (by simp) rfl))
  | @fingerprintsAgree _ _ fp p _ _ hp =>
    have hset : Unmoved r (r.storeFingerprint p fp) := .setPlayerStatus hp (by simp) rfl
    exact hunmoved (hset.trans (.enterConnected (by simp) rfl))
  | @linksAgree _ _ _ p state _ _ _ _ hp =>
    have hset : Unmoved r (r.storeLinkCompatibility p state) :=
      .setPlayerStatus hp (by simp) rfl
    exact hunmoved (hset.trans (.enterConnected (by simp) rfl))
  | becameReady _ h | legacyTick _ h => exact hunmoved ⟨h.players, h.vacant⟩
  | @startedNow _ _ _ _ r₁ _ hr₁ =>
    have hnegotiated : Unmoved r r₁ := ⟨hr₁.players, hr₁.vacant⟩
    exact hunmoved (hnegotiated.trans (.enterConnected (by simp) rfl))
  | startFixedBySample hr₁ | startFixedByVote hr₁ => exact hunmoved ⟨hr₁.players, hr₁.vacant⟩
  | @voteCounted _ c network now p =>
    have hcounts := withVote_counts (r := r) c p network now
    exact hunmoved ⟨hcounts.players, hcounts.vacant⟩
  | snapshotCompleted | sampleStored | pauseOpened | pauseNoted
  | inputAccepted | openHeld | frameReleased => exact hunmoved (.of_eq rfl)
  | paused | pauseEndedByLast | pauseEnded | restartedByLast | restarted
  | openedByHost | openedByTimer => exact hunmoved (.enterConnected (by simp) rfl)
  | legacyInput h => exact hunmoved (.of_eq h.players)
  | @resynced _ _ report _ _ hr₁ =>
    exact hunmoved (((Unmoved.of_same hr₁).trans (.resetSyncStateTo _ report.frame)).trans
      (.enterConnected (by simp) rfl))
  | recoveryPrepared hr₁ =>
    exact hunmoved ((Unmoved.of_same hr₁).trans (.enterConnected (by simp) rfl))
  | recoveryLimited hr₁ =>
    exact hunmoved ((Unmoved.of_same hr₁).trans (.enterOccupied (by simp) rfl))
  | @pinned _ _ _ _ transaction =>
    exact hunmoved ((Unmoved.resetSyncStateTo _ transaction.repairFrame).trans
      (.enterConnected (by simp) rfl))

theorem occupied_reachable {s : StoredRoom} (h : Reachable relay s) : AllOccupied s.room := by
  refine reachable_inv AllOccupied ?_ ?_ h
  · intro roomId key c session version resume input now voice
    have hnew : AllOccupied (newWithProtocolAndResume roomId key c session version
        resume input now) := by
      intro slot hslot
      simp only [newWithProtocolAndResume, List.mem_cons, List.not_mem_nil, or_false] at hslot
      rcases hslot with rfl | rfl
      · exact .held (by simp [PlayerSlot.host]) rfl rfl rfl fun _ => rfl
      refine ⟨iff_of_true rfl rfl, fun _ => ⟨rfl, rfl, rfl⟩, ?_, ?_, ?_⟩
      · exact fun hsome => absurd hsome Bool.false_ne_true
      · exact fun hone => absurd hone (by decide)
      · exact fun hhost => absurd hhost (by simp [PlayerSlot.empty])
    cases voice <;> exact hnew
  · intro s op hreach hocc _
    have hseats := seats_reachable hreach
    by_cases hsweep : ∃ now, op = .sweep now
    · obtain ⟨now, rfl⟩ := hsweep
      exact sweepRoom_occupied relay hseats hocc now
    · exact effect_occupied hseats hocc (applyOp_effect relay s.room op) fun now hop =>
        hsweep ⟨now, hop⟩

/-! ## The slots of a room -/

/-- What the fields of a slot say about each other. -/
structure SlotInOrder (slot : PlayerSlot) : Prop where
  vacant : slot.status = .empty ↔ slot.subjectKey = none
  bare : slot.status = .empty → slot.connectionId = none ∧ slot.inputConnectionId = none
    ∧ slot.resumeTokenHash = none ∧ slot.inputSocketTokenHash = none
  input : slot.inputConnectionId.isSome → slot.connectionId.isSome
  issuer : slot.inputSocketTokenHash.isSome →
    slot.connectionId.isSome ∧ slot.inputSocketControlConnectionId = slot.connectionId
  awaited : slot.reconnectDeadline.isSome → slot.connectionId = none

/-- The sockets a slot is reached through. -/
def slotSockets (slot : PlayerSlot) : List ConnectionId :=
  slot.connectionId.toList ++ slot.inputConnectionId.toList

/-- The sockets a room is reached through, those for control and those for input. -/
def roomSockets (r : NetplayRoom) : List ConnectionId := r.players.flatMap slotSockets

theorem mem_slotSockets : c ∈ slotSockets slot ↔ Holds slot c := by
  simp [slotSockets, Holds]

theorem Occupancy.inOrder (h : Occupancy slot) (hseated : WellSeated slot) : SlotInOrder slot where
  vacant := by
    rw [← h.vacant, PlayerSlot.isEmpty, decide_eq_true_eq]
  bare := by
    intro hempty
    have hnone := h.vacant.mp (by simpa [PlayerSlot.isEmpty] using hempty)
    obtain ⟨hcontrol, hresume, htoken⟩ := h.bare hnone
    refine ⟨hcontrol, ?_, hresume, htoken⟩
    -- input without control is no seat
    by_contra hinput
    have hsome := hseated.input (Option.isSome_iff_ne_none.mpr hinput)
    rw [hcontrol] at hsome
    exact absurd hsome (by simp)
  input := hseated.input
  issuer := h.issuer
  awaited := hseated.lost

theorem Seats.roomSockets_nodup (h : Seats r) : (roomSockets r).Nodup := by
  refine List.nodup_flatMap.mpr ⟨fun slot hslot => ?_, h.apart.imp fun hapart c hc hc' => ?_⟩
  · refine List.nodup_append.mpr ⟨Option.toList_nodup _, Option.toList_nodup _, ?_⟩
    intro c hcontrol c' hinput hsame
    rw [Option.mem_toList] at hcontrol hinput
    exact (h.seated slot hslot).twoSockets c hcontrol (hsame ▸ hinput)
  · exact hapart c (mem_slotSockets.mp hc) (mem_slotSockets.mp hc')

/-- **The slots of every room are in order.** The first slot is the host's and never empty, each
slot's fields agree with each other, and no socket is attached twice. -/
theorem slots_in_order {s : StoredRoom} (h : Reachable relay s) :
    (∃ host rest, s.room.players = host :: rest ∧ host.playerIndex = .one ∧ host.role = .host
      ∧ host.status ≠ .empty)
      ∧ (∀ slot ∈ s.room.players, SlotInOrder slot) ∧ (roomSockets s.room).Nodup := by
  have hseats := seats_reachable h
  have hocc := occupied_reachable h
  refine ⟨?_, fun slot hslot => (hocc slot hslot).inOrder (hseats.seated slot hslot),
    hseats.roomSockets_nodup⟩
  have hindices := hseats.indices
  cases hplayers : s.room.players with
  | nil =>
      rw [hplayers] at hindices
      exact absurd hindices (by simp)
  | cons host rest =>
      rw [hplayers, List.map_cons, List.cons.injEq] at hindices
      have hhost := hocc host (hplayers ▸ List.mem_cons_self)
      have hrole := hhost.first hindices.1
      refine ⟨host, rest, rfl, hindices.1, hrole, fun hempty => ?_⟩
      exact hhost.owned hrole (hhost.vacant.mp (by simpa [PlayerSlot.isEmpty] using hempty))

/-- With the session in full swing there are four sockets. -/
theorem slots_in_order_playing :
    (roomSockets playingRoom.room).length = 4 ∧ (roomSockets playingRoom.room).Nodup
      ∧ ∀ slot ∈ playingRoom.room.players, SlotInOrder slot := by
  obtain ⟨_, hslots, hsockets⟩ := slots_in_order playingRoom_reachable
  exact ⟨by decide +kernel, hsockets, hslots⟩

end NetplayRelay.Proof
